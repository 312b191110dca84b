import Mathlib.Data.List.Nodup
import ZyxtLexer.Proofs.Text.Legible
import ZyxtLexer.Text.Quoted

/-! Quoted text can be told from what is written behind it, and whatever characters it quotes it has
no newline. The digits of a number are the number's own. -/
namespace ZyxtLexer.Text

section Digits
variable {b m n : Nat} {c : Char}

theorem toDigits_eq_append (hb : 1 < b) (n : Nat) :
    Nat.toDigits b n =
      (if n < b then [] else Nat.toDigits b (n / b)) ++ [Nat.digitChar (n % b)] := by
  rw [Nat.toDigits_eq_if hb]
  by_cases hn : n < b
  · rw [if_pos hn, if_pos hn, Nat.mod_eq_of_lt hn, List.nil_append]
  · rw [if_neg hn, if_neg hn]

theorem exists_eq_digitChar (hb : 1 < b) (hc : c ∈ Nat.toDigits b n) :
    ∃ d, c = Nat.digitChar d := by
  induction n using Nat.strongRecOn with
  | ind n ih =>
    rw [toDigits_eq_append hb] at hc
    rcases List.mem_append.1 hc with hc | hc
    · split at hc
      · cases hc
      · have hpos : 0 < n := by omega
        exact ih (n / b) (Nat.div_lt_self hpos hb) hc
    · exact ⟨n % b, List.mem_singleton.1 hc⟩

theorem digitChar_injective :
    ∀ m < 16, ∀ n < 16, Nat.digitChar m = Nat.digitChar n → m = n := by decide

theorem toDigits_injective (hb : 1 < b) (hb' : b ≤ 16)
    (h : Nat.toDigits b m = Nat.toDigits b n) : m = n := by
  induction m using Nat.strongRecOn generalizing n with
  | ind m ih =>
    rw [toDigits_eq_append hb m, toDigits_eq_append hb n, List.append_singleton_inj] at h
    obtain ⟨hfront, hlast⟩ := h
    have hmod : m % b = n % b := by
      have hlt : ∀ k, k % b < 16 := fun k => (Nat.mod_lt k (by omega)).trans_le hb'
      exact digitChar_injective _ (hlt m) _ (hlt n) hlast
    by_cases hm : m < b <;> by_cases hn : n < b
    · rwa [Nat.mod_eq_of_lt hm, Nat.mod_eq_of_lt hn] at hmod
    · rw [if_pos hm, if_neg hn] at hfront
      exact absurd hfront.symm Nat.toDigits_ne_nil
    · rw [if_neg hm, if_pos hn] at hfront
      exact absurd hfront Nat.toDigits_ne_nil
    · rw [if_neg hm, if_neg hn] at hfront
      have hpos : 0 < m := by omega
      have hdiv : m / b = n / b := ih (m / b) (Nat.div_lt_self hpos hb) hfront
      rw [← Nat.div_add_mod m b, ← Nat.div_add_mod n b, hdiv, hmod]

end Digits

theorem not_mem_hexDigits {c : Char} (hc : ∀ d, Nat.digitChar d ≠ c) (n : Nat) :
    c ∉ hexDigits n := by
  intro hmem
  obtain ⟨d, hd⟩ := exists_eq_digitChar (by decide) hmem
  exact hc d hd.symm

theorem legible_hexDigits : Legible (fun n => hexDigits n ++ ['}']) id :=
  (Legible.upTo rfl (not_mem_hexDigits fun _ => Nat.digitChar_ne '}' rfl)).imp _
    fun _ _ h => toDigits_injective (by decide) (by decide) h

def shortEscapes : List (Char × Char) :=
  [('\x00', '0'), ('\t', 't'), ('\n', 'n'), ('\r', 'r'), ('"', '"'), ('\\', '\\')]

/-- The ways to write a character between the quotes: by a letter, by its number, or as it is. -/
inductive QuotedAs (c : Char) : List Char → Prop
  | short {e : Char} (h : (c, e) ∈ shortEscapes) : QuotedAs c ['\\', e]
  | number : QuotedAs c ('\\' :: 'u' :: '{' :: (hexDigits c.toNat ++ ['}']))
  | plain (hquote : c ≠ '"') (hslash : c ≠ '\\') (hnewline : c ≠ '\n') : QuotedAs c [c]

theorem quotedAs_quotedChar (c : Char) : QuotedAs c (quotedChar c) := by
  unfold quotedChar
  split
  · exact .short (by decide)
  · exact .short (by decide)
  · exact .short (by decide)
  · exact .short (by decide)
  · exact .short (by decide)
  · exact .short (by decide)
  next _ _ hnewline _ hquote hslash =>
    by_cases hc : isAttached c || isHidden c
    · rw [if_pos hc]
      exact .number
    · rw [if_neg hc]
      exact .plain hquote hslash hnewline

theorem shortEscapes_injective {c d e : Char} (hc : (c, e) ∈ shortEscapes)
    (hd : (d, e) ∈ shortEscapes) : c = d := by
  have hnodup : (shortEscapes.map Prod.snd).Nodup := by decide
  exact congrArg Prod.fst (List.inj_on_of_nodup_map hnodup hc hd rfl)

theorem letter_ne {c d e : Char} (h : (c, e) ∈ shortEscapes)
    (hd : d ∉ shortEscapes.map Prod.snd) : e ≠ d :=
  fun he => hd (he ▸ List.mem_map_of_mem h)

theorem legible_quotedChar : Legible quotedChar id := by
  intro c d r s h
  have hc := quotedAs_quotedChar c
  have hd := quotedAs_quotedChar d
  generalize quotedChar c = x at hc h
  generalize quotedChar d = y at hd h
  cases hc with
  | @short e hc =>
    cases hd with
    | @short e' hd =>
      obtain ⟨rfl, rfl⟩ : e = e' ∧ r = s := by simpa using h
      exact ⟨shortEscapes_injective hc hd, rfl⟩
    | number => exact absurd (List.cons.inj (List.cons.inj h).2).1 (letter_ne hc (by decide))
    | plain _ hslash => exact absurd (List.cons.inj h).1.symm hslash
  | number =>
    cases hd with
    | short hd => exact absurd (List.cons.inj (List.cons.inj h).2).1.symm (letter_ne hd (by decide))
    | number =>
      simp only [List.cons_append, List.cons.injEq, true_and] at h
      obtain ⟨hnumber, hrest⟩ := legible_hexDigits h
      exact ⟨Char.toNat_inj.1 hnumber, hrest⟩
    | plain _ hslash => exact absurd (List.cons.inj h).1.symm hslash
  | plain _ hslash =>
    cases hd with
    | short => exact absurd (List.cons.inj h).1 hslash
    | number => exact absurd (List.cons.inj h).1 hslash
    | plain => exact List.cons.inj h

theorem toList_quoted (s : String) :
    (quoted s).toList = ['"'] ++ (s.toList.flatMap quotedChar ++ ['"']) := String.toList_ofList

theorem legible_quoted : Legible (fun s : String => (quoted s).toList) id := by
  have hbegins : ∀ c, ∃ d cs, quotedChar c = d :: cs ∧ d ≠ '"' := by
    intro c
    have hc := quotedAs_quotedChar c
    generalize quotedChar c = x at hc ⊢
    cases hc with
    | short => exact ⟨'\\', _, rfl, by decide⟩
    | number => exact ⟨'\\', _, rfl, by decide⟩
    | plain hquote => exact ⟨c, _, rfl, hquote⟩
  have hchars := (legible_quotedChar.list hbegins).of String.toList
  have hall := (Legible.literal ['"']).append hchars
  simp only [← toList_quoted] at hall
  refine hall.imp id fun s t h => ?_
  rw [Prod.mk.injEq, List.map_id, List.map_id] at h
  exact String.toList_injective h.2

theorem newline_not_mem_quoted (s : String) : '\n' ∉ (quoted s).toList := by
  have hchar : ∀ c, '\n' ∉ quotedChar c := by
    intro c
    have hc := quotedAs_quotedChar c
    generalize quotedChar c = x at hc ⊢
    cases hc with
    | short hc =>
      have hletter := letter_ne (d := '\n') hc (by decide)
      simpa using hletter.symm
    | number =>
      have hdigits := not_mem_hexDigits (c := '\n') (fun _ => Nat.digitChar_ne '\n' rfl) c.toNat
      simp [hdigits]
    | plain _ _ hnewline => simpa using hnewline.symm
  rw [toList_quoted]
  simp [hchar]

end ZyxtLexer.Text
