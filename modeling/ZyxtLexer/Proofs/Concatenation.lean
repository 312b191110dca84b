import ZyxtLexer.Proofs.Scanner.Reached

/-! Texts one behind the other. Between words of code a text reads as it does on its own, only at
another place, unless its colons can tell what came before; and blanks behind a newline at the end
of a text bring forth nothing. -/
namespace ZyxtLexer

def Resume.forget (r : Resume) : Resume := { r with last := .statementEnd }

def Mode.forget : Mode → Mode
  | .code => .code
  | .label => .label
  | .lineComment r => .lineComment r.forget
  | .blockComment r => .blockComment r.forget

namespace Scanner

/-- The scanner as if no token had come yet. Only colons can tell the difference. -/
def forget (s : Scanner) : Scanner := { s with mode := s.mode.forget, last := .statementEnd }

/-- Two outcomes with the same events, that only colons can tell apart. -/
def Alike (o o' : List Event × Scanner) : Prop := o.1 = o'.1 ∧ o.2.forget = o'.2.forget

variable {s s' : Scanner} {c : Char} {cs : List Char}

theorem mode_forget_eq_label (s : Scanner) : s.forget.mode = .label ↔ s.mode = .label := by
  obtain ⟨mode, -⟩ := s
  cases mode <;> simp [forget, Mode.forget]

theorem mode_forget_forget (m : Mode) : m.forget.forget = m.forget := by cases m <;> rfl

theorem readBlank_forget (s : Scanner) (c : Char) :
    Alike (s.forget.readBlank c) (s.readBlank c) := by
  have hnil : s.forget.held = s.held := rfl
  have hkind : s.forget.endedKind = s.endedKind := by
    simp only [endedKind, mode_forget_eq_label]
    rfl
  by_cases h : s.held.isEmpty
  · rw [readBlank, readBlank, hnil, if_pos h, if_pos h]
    exact ⟨rfl, by simp only [forget, restart, mode_forget_forget]⟩
  · rw [readBlank, readBlank, hnil, if_neg h, if_neg h, hkind]
    exact ⟨rfl, rfl⟩

theorem openComment_forget (s : Scanner) (c : Char) (kind : Kind) {mode : Resume → Mode}
    (hm : ∀ r, (mode r).forget = mode r.forget) :
    Alike (s.forget.openComment c kind mode) (s.openComment c kind mode) := by
  have hsuspend : (s.forget.mode.suspend s.forget.last).forget =
      (s.mode.suspend s.last).forget := by
    simp only [Mode.suspend, Resume.forget, mode_forget_eq_label]
  have hmode : (mode (s.forget.mode.suspend s.forget.last)).forget =
      (mode (s.mode.suspend s.last)).forget := by
    rw [hm, hm, hsuspend]
  exact ⟨rfl, congrArg (fun m => Scanner.mk m .statementEnd [] _ _) hmode⟩

theorem readCode_forget (s : Scanner) (hc : c ≠ ':') :
    Alike (s.forget.readCode c) (s.readCode c) := by
  have hheld : s.forget.held = s.held := rfl
  simp only [readCode, hc, false_and, if_false, hheld]
  split_ifs
  · exact ⟨rfl, congrArg (fun m => Scanner.mk m .statementEnd _ _ _) (mode_forget_forget s.mode)⟩
  · exact readBlank_forget s c
  · exact openComment_forget s c _ fun _ => rfl
  · exact openComment_forget s c _ fun _ => rfl
  · exact ⟨rfl, by simp only [forget, hold, mode_forget_forget]⟩

theorem readLine_forget (s : Scanner) (r : Resume) (c : Char) :
    Alike (s.forget.readLine r.forget c) (s.readLine r c) := by
  by_cases hc : c = '\n'
  · rw [readLine, readLine, if_pos hc, if_pos hc]
    exact ⟨rfl, rfl⟩
  · rw [readLine, readLine, if_neg hc, if_neg hc]
    exact ⟨rfl, by simp only [forget, hold, mode_forget_forget]⟩

theorem readBlock_forget (s : Scanner) (r : Resume) (c : Char) :
    Alike (s.forget.readBlock r.forget c) (s.readBlock r c) := by
  have hheld : s.forget.held = s.held := rfl
  by_cases hc : s.held.head? = some '*' ∧ c = '/'
  · rw [readBlock, readBlock, hheld, if_pos hc, if_pos hc]
    exact ⟨rfl, rfl⟩
  · rw [readBlock, readBlock, hheld, if_neg hc, if_neg hc]
    exact ⟨rfl, by simp only [forget, hold, mode_forget_forget]⟩

theorem step_forget (s : Scanner) (hc : c ≠ ':') : Alike (s.forget.step c) (s.step c) := by
  have hmode : s.forget.mode = s.mode.forget := rfl
  cases hm : s.mode with
  | code | label =>
    simp only [step, hmode, hm, Mode.forget]
    exact readCode_forget s hc
  | lineComment r =>
    simp only [step, hmode, hm, Mode.forget]
    exact readLine_forget s r c
  | blockComment r =>
    simp only [step, hmode, hm, Mode.forget]
    exact readBlock_forget s r c

/-- Without colons in a text, the tokens before it decide nothing about those in it. -/
theorem run_eq_of_forget (hs : s.forget = s'.forget) (hc : ':' ∉ cs) :
    (s.run cs).1 = (s'.run cs).1 := by
  induction cs generalizing s s' with
  | nil => rfl
  | cons c cs ih =>
    have hne : c ≠ ':' := fun h => hc (h ▸ List.mem_cons_self)
    obtain ⟨hev, hnext⟩ := step_forget s hne
    obtain ⟨hev', hnext'⟩ := step_forget s' hne
    rw [hs] at hev hnext
    have htail := ih (hnext.symm.trans hnext') fun h => hc (List.mem_cons_of_mem _ h)
    rw [run_cons, run_cons, ← hev, ← hev', htail]

theorem run_in_block {r : Resume} (hm : s.mode = .blockComment r) (hc : '/' ∉ cs) :
    (s.run cs).1 = [] := by
  induction cs generalizing s with
  | nil => rfl
  | cons c cs ih =>
    have hne : ¬ (s.held.head? = some '*' ∧ c = '/') := fun h => hc (h.2 ▸ List.mem_cons_self)
    have hstep : s.step c = ([], s.hold c) := by simp only [step, hm, readBlock, if_neg hne]
    rw [run_cons, hstep]
    exact ih hm fun h => hc (List.mem_cons_of_mem _ h)

theorem run_blanks_after_newline (cs : List Char) {bs : List Char}
    (hb : ∀ b ∈ bs, Text.isBlank b) : ((after (cs ++ ['\n'])).run bs).1 = [] := by
  rcases step_newline (after cs) with ⟨hm, hh⟩ | ⟨r, hm⟩
  · rw [← after_concat] at hm hh
    rw [after_eq_ready hm hh, run_blanks _ _ hb]
  · rw [← after_concat] at hm
    exact run_in_block hm fun h => absurd (hb _ h) (by decide)

end Scanner

open Scanner

/-- Between words of code, a text reads as it does on its own, moved to where it begins, if no
colon in it can tell what came before. -/
theorem tokens_after_of_code {p q : String} (hm : (after p.toList).mode = .code)
    (hh : (after p.toList).held = [])
    (hq : (after p.toList).last = .statementEnd ∨ ':' ∉ q.toList) :
    (after p.toList).tokens (closed q) =
      (tokenize q).map (Token.move (Position.origin.shift (after p.toList).cursor)) := by
  have hstart : (after p.toList).start = (after p.toList).cursor := start_eq_cursor_after hh
  have hmove := tokens_move (movable_ready .initial .origin (after p.toList).cursor) (closed q)
  rw [move_ready] at hmove
  rw [tokenize_eq_tokens, ← show ready .initial .origin = {} from rfl, ← hmove]
  generalize after p.toList = s at hm hh hq hstart ⊢
  obtain ⟨mode, last, held, start, cursor⟩ := s
  simp only at hm hh hq hstart
  subst hm hh hstart
  rcases hq with rfl | hq
  · rfl
  · have hcolon : ':' ∉ closed q := by simpa [closed] using hq
    exact congrArg (List.filterMap Event.token?) (run_eq_of_forget rfl hcolon)

theorem tokenize_append_blanks (p : String) {w : String} (hw : ∀ c ∈ w.toList, Text.isBlank c) :
    tokenize (p ++ "\n" ++ w) = tokenize p := by
  have hp : (p ++ "\n").toList = closed p := by simp [closed]
  have hblank : ∀ c ∈ closed w, Text.isBlank c := by
    intro c hc
    rcases List.mem_append.1 hc with hc | hc
    · exact hw c hc
    · exact List.mem_singleton.1 hc ▸ by decide
  have hnone : (after (closed p)).tokens (closed w) = [] := by
    rw [tokens, closed, run_blanks_after_newline p.toList hblank]
    rfl
  rw [tokenize_append, hp, hnone, List.append_nil, tokenize_eq_tokens]

/-- Texts one behind the other: between words of code, the second one reads as it does on its own,
moved to where it begins, unless a colon in it can tell what came before. And at the end of any
text, a newline and blanks behind it change nothing. -/
theorem tokenize_concatenation :
    (∀ p q : String, (after p.toList).mode = .code → (after p.toList).held = [] →
      ((after p.toList).last = .statementEnd ∨ ':' ∉ q.toList) →
        tokenize (p ++ q) = tokens {} p.toList ++
          (tokenize q).map (Token.move (Position.origin.shift (after p.toList).cursor))) ∧
      ∀ p w : String, (∀ c ∈ w.toList, Text.isBlank c) →
        tokenize (p ++ "\n" ++ w) = tokenize p := by
  refine ⟨fun p q hm hh hq => ?_, fun p w hw => tokenize_append_blanks p hw⟩
  rw [tokenize_append, tokens_after_of_code hm hh hq]

/-- Both parts at texts that leave a word and a comment pending: a second line behind a name, and
the end of a line comment. -/
theorem tokenize_concatenation_lines :
    ((after "//:\r\na +\n ".toList).mode = .code ∧ (after "//:\r\na +\n ".toList).held = [] ∧
        ':' ∉ "b\u00a0/*\n*/ c".toList ∧
      tokenize ("//:\r\na +\n " ++ "b\u00a0/*\n*/ c") = tokens {} "//:\r\na +\n ".toList ++
        (tokenize "b\u00a0/*\n*/ c").map (Token.move (Position.origin.shift ⟨3, 2⟩))) ∧
      (∀ c ∈ "\u2028\r".toList, Text.isBlank c) ∧
        tokenize ("x //y" ++ "\n" ++ "\u2028\r") = tokenize "x //y" := by
  have hblank : ∀ c ∈ "\u2028\r".toList, Text.isBlank c := List.all_eq_true.1 (by decide)
  refine ⟨⟨by decide, by decide, by decide, ?_⟩, hblank, ?_⟩
  · exact tokenize_concatenation.1 _ _ (by decide) (by decide) (.inr (by decide))
  · exact tokenize_concatenation.2 _ _ hblank

end ZyxtLexer
