import ZyxtLexer.Scanner.Basic

/-! What a character can do to the scanner, rule by rule. Everything about all runs is proved by
cases on these rules, once for a step and from that for a run. -/
namespace ZyxtLexer
namespace Scanner

/-- The rules of the scanner. Each leads to the events and the scanner behind the character. -/
inductive Step (s : Scanner) (c : Char) : List Event × Scanner → Prop
  | skip (hm : s.mode.endsWords) (hc : c = '\r') : Step s c ([], s.skip c)
  | flag (hm : s.mode.endsWords) (hc : c = ':') (hf : s.opensFlag) : Step s c s.readFlag
  | blank (hm : s.mode.endsWords) (hc : c ≠ '\r') (hb : Text.isBlank c) : Step s c (s.readBlank c)
  | openLine (hm : s.mode.endsWords) (hh : s.held = ['/']) (hc : c = '/') :
    Step s c (s.openComment c .commentStart .lineComment)
  | openBlock (hm : s.mode.endsWords) (hh : s.held = ['/']) (hc : c = '*') :
    Step s c (s.openComment c .multilineCommentStart .blockComment)
  | hold (hm : s.mode.endsWords) (hf : c = ':' → ¬ s.opensFlag) (hb : ¬ Text.isBlank c)
    (hh : s.held = ['/'] → c ≠ '/' ∧ c ≠ '*') : Step s c ([], s.hold c)
  | closeLine (r : Resume) (hm : s.mode = .lineComment r) (hc : c = '\n') :
    Step s c (s.closeComment c r s.held ⟨.commentEnd, "\n"⟩ s.cursor)
  | holdLine (r : Resume) (hm : s.mode = .lineComment r) (hc : c ≠ '\n') : Step s c ([], s.hold c)
  | closeBlock (r : Resume) (hm : s.mode = .blockComment r) (held : List Char)
    (hh : s.held = '*' :: held) (hc : c = '/') :
    Step s c (s.closeComment c r held ⟨.multilineCommentEnd, "*/"⟩ s.cursor.left)
  | holdBlock (r : Resume) (hm : s.mode = .blockComment r)
    (hh : s.held.head? = some '*' → c ≠ '/') : Step s c ([], s.hold c)

theorem step_readCode {s : Scanner} (hm : s.mode.endsWords) (c : Char) :
    Step s c (s.readCode c) := by
  by_cases hret : c = '\r'
  · rw [readCode, if_pos hret]
    exact .skip hm hret
  by_cases hf : c = ':' ∧ s.opensFlag
  · rw [readCode, if_neg hret, if_pos hf]
    exact .flag hm hf.1 hf.2
  by_cases hb : Text.isBlank c
  · rw [readCode, if_neg hret, if_neg hf, if_pos hb]
    exact .blank hm hret hb
  by_cases hline : s.held = ['/'] ∧ c = '/'
  · rw [readCode, if_neg hret, if_neg hf, if_neg hb, if_pos hline]
    exact .openLine hm hline.1 hline.2
  by_cases hblock : s.held = ['/'] ∧ c = '*'
  · rw [readCode, if_neg hret, if_neg hf, if_neg hb, if_neg hline, if_pos hblock]
    exact .openBlock hm hblock.1 hblock.2
  · rw [readCode, if_neg hret, if_neg hf, if_neg hb, if_neg hline, if_neg hblock]
    have hflag : c = ':' → ¬ s.opensFlag := fun hc ho => hf ⟨hc, ho⟩
    have hopen : s.held = ['/'] → c ≠ '/' ∧ c ≠ '*' :=
      fun hh => ⟨fun hc => hline ⟨hh, hc⟩, fun hc => hblock ⟨hh, hc⟩⟩
    exact .hold hm hflag hb hopen

/-- Every step is by one of the rules. -/
theorem step_spec (s : Scanner) (c : Char) : Step s c (s.step c) := by
  cases hm : s.mode with
  | code | label =>
    have hstep : s.step c = s.readCode c := by simp only [step, hm]
    rw [hstep]
    exact step_readCode (by rw [hm]; rfl) c
  | lineComment r =>
    have hstep : s.step c = s.readLine r c := by simp only [step, hm]
    rw [hstep]
    by_cases hc : c = '\n'
    · rw [readLine, if_pos hc]
      exact .closeLine r hm hc
    · rw [readLine, if_neg hc]
      exact .holdLine r hm hc
  | blockComment r =>
    have hstep : s.step c = s.readBlock r c := by simp only [step, hm]
    rw [hstep]
    by_cases hclose : s.held.head? = some '*' ∧ c = '/'
    · obtain ⟨held, hheld⟩ := List.head?_eq_some_iff.1 hclose.1
      rw [readBlock, if_pos hclose, hheld]
      exact .closeBlock r hm held hheld hclose.2
    · rw [readBlock, if_neg hclose]
      exact .holdBlock r hm fun hh hc => hclose ⟨hh, hc⟩

/-- What the tokens before a scanner's next word amount to; a comment keeps it for later. -/
def context (s : Scanner) : Resume :=
  match s.mode with
  | .code | .label => s.mode.suspend s.last
  | .lineComment r | .blockComment r => r

theorem context_of_endsWords {s : Scanner} (hm : s.mode.endsWords) :
    s.context = s.mode.suspend s.last := by
  rcases Mode.endsWords_iff.1 hm with h | h <;> simp only [context, h]

theorem endsWords_readFlag (s : Scanner) : s.readFlag.2.mode.endsWords := by
  simp only [readFlag, restart]
  split <;> rfl

theorem endsWords_readBlank {s : Scanner} (hm : s.mode.endsWords) (c : Char) :
    (s.readBlank c).2.mode.endsWords := by
  unfold readBlank
  split
  · exact hm
  · rfl

@[simp] theorem held_readBlank (s : Scanner) (c : Char) : (s.readBlank c).2.held = [] := by
  unfold readBlank
  split <;> rfl

@[simp] theorem cursor_readBlank (s : Scanner) (c : Char) :
    (s.readBlank c).2.cursor = s.cursor.advance c := by
  unfold readBlank
  split <;> rfl

theorem reverse_held_hold (s : Scanner) (c : Char) :
    (s.hold c).held.reverse = s.held.reverse ++ [c] := List.reverse_cons

/-- A newline leaves nothing pending, unless it is in a block comment. -/
theorem step_newline (s : Scanner) :
    ((s.step '\n').2.mode.endsWords ∧ (s.step '\n').2.held = []) ∨
      ∃ r, (s.step '\n').2.mode = .blockComment r := by
  have hstep := step_spec s '\n'
  generalize s.step '\n' = o at hstep ⊢
  cases hstep with
  | skip _ hc | flag _ hc | openLine _ _ hc | openBlock _ _ hc | closeBlock _ _ _ _ hc =>
    exact absurd hc (by decide)
  | blank hm => exact .inl ⟨endsWords_readBlank hm '\n', held_readBlank s '\n'⟩
  | hold _ _ hb => exact absurd (by decide) hb
  | closeLine r => exact .inl ⟨Resume.endsWords_mode r, rfl⟩
  | holdLine _ _ hc => exact absurd rfl hc
  | holdBlock r hm => exact .inr ⟨r, hm⟩

end Scanner
end ZyxtLexer
