import ZyxtLexer.Text.Quoted
import ZyxtLexer.Proofs.Json.Strings
import ZyxtLexer.Proofs.Text.Legible

/-! What is written is of the grammar: a quoted string spells the characters that it quotes, and
members with commas between them are the members of an object. -/
namespace ZyxtLexer.Json

theorem toList_quoted (s : String) :
    (quoted s).toList = '"' :: (s.toList.flatMap quotedChar ++ ['"']) := String.toList_ofList

theorem hexDigit_digitChar {n : Nat} (hn : n < 16) : HexDigit (Nat.digitChar n) n := ⟨hn, .inl rfl⟩

theorem fourDigits_control {c : Char} (h : c.toNat < 32) :
    FourDigits ['0', '0', Nat.digitChar (c.toNat / 16), Nat.digitChar (c.toNat % 16)] c.toNat := by
  have hzero : HexDigit '0' 0 := hexDigit_digitChar (by decide)
  have hhigh : c.toNat / 16 < 16 := by omega
  have hlow : c.toNat % 16 < 16 := Nat.mod_lt _ (by decide)
  have hvalue : ((0 * 16 + 0) * 16 + c.toNat / 16) * 16 + c.toNat % 16 = c.toNat := by omega
  have hdigits := FourDigits.mk hzero hzero (hexDigit_digitChar hhigh) (hexDigit_digitChar hlow)
  rwa [hvalue] at hdigits

theorem spells_quotedChar (c : Char) {cs s : List Char} (h : Spells cs s) :
    Spells (quotedChar c ++ cs) (c :: s) := by
  have short {e c : Char} (he : (e, c) ∈ shortEscapes) : Spells (['\\', e] ++ cs) (c :: s) :=
    .short he h
  unfold quotedChar
  split
  · exact short (by decide)
  · exact short (by decide)
  · exact short (by decide)
  · exact short (by decide)
  · exact short (by decide)
  · exact short (by decide)
  · exact short (by decide)
  next hquote hslash _ _ _ _ _ =>
    by_cases hc : c.toNat < 32
    · have hn : c.toNat < 0xd800 ∨ 0xdfff < c.toNat := .inl (by omega)
      have hunit := Spells.unit (fourDigits_control hc) hn h
      rw [Char.ofNat_toNat] at hunit
      rw [if_pos hc]
      exact hunit
    · rw [if_neg hc]
      exact .plain ⟨Nat.le_of_not_lt hc, hquote, hslash⟩ h

theorem spells_quoted (s : List Char) : Spells (s.flatMap quotedChar) s := by
  induction s with
  | nil => exact .nil
  | cons c s ih => exact spells_quotedChar c ih

theorem legible_quoted : Legible (fun s : String => (quoted s).toList) id := by
  intro s t r u h
  have htext : s.toList.flatMap quotedChar ++ '"' :: r =
      t.toList.flatMap quotedChar ++ '"' :: u := by
    simpa [toList_quoted] using h
  have hread := congrArg (fun cs => readText (encode cs)) htext
  simp only [encode_append, encode_ascii (by decide : '"'.toNat < 128),
    readText_spells (spells_quoted _), String.ofList_toList, Except.ok.injEq, Prod.mk.injEq]
    at hread
  exact ⟨hread.1, encode_injective hread.2⟩

def Member.written (m : Member) : List Char := (quoted m.key).toList ++ ':' :: m.value

theorem blanks_nil : Blanks [] := List.forall_mem_nil _

theorem Member.exists_body {m : Member} (h : Value m.value) :
    ∃ cs, m.Body cs ∧ m.written = '"' :: cs := by
  refine ⟨_, .mk (spells_quoted m.key.toList) blanks_nil blanks_nil h, ?_⟩
  rw [written, toList_quoted]
  simp

/-- Members that are written with commas between them are the members of an object. -/
theorem members_written {m : Member} {ms : List Member} (h : ∀ n ∈ m :: ms, Value n.value) :
    Members (m :: ms) ([','].intercalate ((m :: ms).map Member.written)) := by
  induction ms generalizing m with
  | nil =>
    obtain ⟨cs, hcs, he⟩ := Member.exists_body (h m List.mem_cons_self)
    have hone := Members.one blanks_nil hcs blanks_nil
    rw [List.map_singleton, List.intercalate_singleton, he]
    simpa using hone
  | cons n ms ih =>
    obtain ⟨cs, hcs, he⟩ := Member.exists_body (h m List.mem_cons_self)
    have hrest := ih fun k hk => h k (List.mem_cons_of_mem m hk)
    have hmore := Members.more blanks_nil hcs blanks_nil hrest
    rw [List.map_cons, List.map_cons, List.intercalate_cons_cons, he]
    simpa using hmore

end ZyxtLexer.Json
