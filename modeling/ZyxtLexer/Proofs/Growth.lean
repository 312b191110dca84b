import ZyxtLexer.Proofs.Scanner.Reached

/-! Texts that are still being written. The newline at the end of a text completes the word or the
line comment that is pending there, and only these tokens can change as the text goes on: all others
are settled. With every further character the number of tokens stays or grows, by two at most. -/
namespace ZyxtLexer
namespace Scanner

/-- The tokens that the end of a text completes. -/
def pending (s : Scanner) : List Token :=
  match s.mode with
  | .code | .label => if s.held.isEmpty then [] else [⟨⟨s.endedKind, s.text⟩, s.start⟩]
  | .lineComment _ => [⟨⟨.comment, s.text⟩, s.start⟩, ⟨⟨.commentEnd, "\n"⟩, s.cursor⟩]
  | .blockComment _ => []

theorem pending_of_endsWords {s : Scanner} (hm : s.mode.endsWords) :
    s.pending = if s.held.isEmpty then [] else [⟨⟨s.endedKind, s.text⟩, s.start⟩] := by
  rcases Mode.endsWords_iff.1 hm with h | h <;> simp only [pending, h]

theorem length_pending_of_endsWords {s : Scanner} (hm : s.mode.endsWords) :
    s.pending.length = if s.held.isEmpty then 0 else 1 := by
  rw [pending_of_endsWords hm]
  split <;> rfl

theorem length_pending_of_line {s : Scanner} {r : Resume} (hm : s.mode = .lineComment r) :
    s.pending.length = 2 := by
  simp only [pending, hm, List.length_cons, List.length_nil]

theorem length_pending_of_block {s : Scanner} {r : Resume} (hm : s.mode = .blockComment r) :
    s.pending.length = 0 := by
  simp only [pending, hm, List.length_nil]

theorem tokens_newline (s : Scanner) : s.tokens ['\n'] = s.pending := by
  rw [tokens, run_singleton]
  have hstep := step_spec s '\n'
  generalize s.step '\n' = o at hstep ⊢
  cases hstep with
  | skip _ hc | flag _ hc | openLine _ _ hc | openBlock _ _ hc | closeBlock _ _ _ _ hc =>
    exact absurd hc (by decide)
  | blank hm =>
    rw [pending_of_endsWords hm, readBlank]
    split <;> rfl
  | hold _ _ hb => exact absurd (by decide) hb
  | closeLine r hm =>
    simp only [pending, hm]
    rfl
  | holdLine _ _ hc => exact absurd rfl hc
  | holdBlock r hm =>
    simp only [pending, hm]
    rfl

theorem length_beforeFlag_le (s : Scanner) :
    (s.beforeFlag.filterMap Event.token?).length ≤ if s.held.isEmpty then 0 else 1 := by
  rw [beforeFlag]
  split
  · exact Nat.le_refl 0
  · split
    · exact Nat.zero_le 1
    · exact Nat.le_refl 1

/-- How many tokens a step has found or left pending. -/
def tally (o : List Event × Scanner) : ℕ :=
  (o.1.filterMap Event.token?).length + o.2.pending.length

section Tally
variable {s : Scanner} {c : Char}

theorem tally_silent (s' : Scanner) : tally ([], s') = s'.pending.length := Nat.zero_add _

/-- The colon takes the place of the pending word, which is dropped or becomes a label. -/
theorem tally_readFlag (hm : s.mode.endsWords) :
    s.pending.length ≤ tally s.readFlag ∧ tally s.readFlag ≤ s.pending.length + 2 := by
  have hfound : (s.readFlag.1.filterMap Event.token?).length =
      (s.beforeFlag.filterMap Event.token?).length + 1 := by
    rw [readFlag, List.filterMap_append, List.length_append]
    rfl
  have hheld : s.readFlag.2.held.isEmpty := rfl
  have hbefore := length_beforeFlag_le s
  rw [tally, hfound, length_pending_of_endsWords hm,
    length_pending_of_endsWords s.endsWords_readFlag, if_pos hheld]
  split at hbefore <;> rename_i h <;> simp only [h, if_true, if_false, Bool.false_eq_true] <;> omega

theorem tally_readBlank (hm : s.mode.endsWords) : tally (s.readBlank c) = s.pending.length := by
  have hm' := endsWords_readBlank hm c
  have hheld : (s.readBlank c).2.held.isEmpty := by rw [held_readBlank]; rfl
  rw [tally, length_pending_of_endsWords hm, length_pending_of_endsWords hm', if_pos hheld,
    readBlank]
  split <;> rfl

theorem tally_closeComment (r : Resume) (held : List Char) (closer : Lexeme) (pos : Position) :
    tally (s.closeComment c r held closer pos) = 2 := by
  have hm : (s.closeComment c r held closer pos).2.mode.endsWords := r.endsWords_mode
  rw [tally, length_pending_of_endsWords hm]
  rfl

/-- A step makes none fewer of the tokens found and pending, and at most two more. -/
theorem tally_step (s : Scanner) (c : Char) :
    s.pending.length ≤ tally (s.step c) ∧ tally (s.step c) ≤ s.pending.length + 2 := by
  have hstep := step_spec s c
  generalize s.step c = o at hstep ⊢
  cases hstep with
  | skip hm =>
    have hm' : (s.skip c).mode.endsWords := hm
    have hheld : (s.skip c).held = s.held := rfl
    rw [tally_silent, length_pending_of_endsWords hm, length_pending_of_endsWords hm', hheld]
    omega
  | flag hm => exact tally_readFlag hm
  | blank hm =>
    rw [tally_readBlank hm]
    omega
  | openLine hm hh =>
    have hpending : s.pending.length = 1 := by rw [length_pending_of_endsWords hm, hh]; rfl
    have hnext : tally (s.openComment c .commentStart .lineComment) = 3 := rfl
    omega
  | openBlock hm hh =>
    have hpending : s.pending.length = 1 := by rw [length_pending_of_endsWords hm, hh]; rfl
    have hnext : tally (s.openComment c .multilineCommentStart .blockComment) = 1 := rfl
    omega
  | hold hm =>
    have hm' : (s.hold c).mode.endsWords := hm
    have hheld : ¬ (s.hold c).held.isEmpty := Bool.false_ne_true
    rw [tally_silent, length_pending_of_endsWords hm, length_pending_of_endsWords hm',
      if_neg hheld]
    split <;> omega
  | closeLine r hm =>
    rw [tally_closeComment, length_pending_of_line hm]
    omega
  | holdLine r hm =>
    have hm' : (s.hold c).mode = .lineComment r := hm
    rw [tally_silent, length_pending_of_line hm, length_pending_of_line hm']
    omega
  | closeBlock r hm held =>
    rw [tally_closeComment, length_pending_of_block hm]
    omega
  | holdBlock r hm =>
    have hm' : (s.hold c).mode = .blockComment r := hm
    rw [tally_silent, length_pending_of_block hm, length_pending_of_block hm']
    omega

end Tally

end Scanner

open Scanner

/-- The tokens of a text are those found on the way, and then those pending at its end. -/
theorem tokenize_eq_append_pending (p : String) :
    tokenize p = tokens {} p.toList ++ (after p.toList).pending := by
  rw [tokenize_eq_tokens, closed, tokens_append, ← tokens_newline]
  rfl

theorem length_tokenize_push (p : String) (c : Char) :
    (tokenize (p.push c)).length =
      (tokens {} p.toList).length + tally ((after p.toList).step c) := by
  have hpush : (p.push c).toList = p.toList ++ [c] := String.toList_push c
  have hone : (after p.toList).tokens [c] =
      ((after p.toList).step c).1.filterMap Event.token? := by
    rw [tokens, run_singleton]
  have htokens : tokens {} (p.toList ++ [c]) = tokens {} p.toList ++ (after p.toList).tokens [c] :=
    tokens_append {} p.toList [c]
  rw [tokenize_eq_append_pending, hpush, after_concat, htokens, hone, List.length_append,
    List.length_append, tally, Nat.add_assoc]

/-- Of the tokens of a text all but those pending at its end stay as the text goes on. And with each
further character the number of tokens stays or grows, by two at most. -/
theorem tokenize_growth (p : String) :
    (∃ settled, tokenize p = settled ++ (after p.toList).pending ∧
      ∀ q, settled <+: tokenize (p ++ q)) ∧
    ∀ c, (tokenize p).length ≤ (tokenize (p.push c)).length ∧
      (tokenize (p.push c)).length ≤ (tokenize p).length + 2 := by
  refine ⟨⟨tokens {} p.toList, tokenize_eq_append_pending p, fun q => ?_⟩, fun c => ?_⟩
  · rw [tokenize_append]
    exact List.prefix_append _ _
  · have hstep := tally_step (after p.toList) c
    rw [length_tokenize_push, tokenize_eq_append_pending, List.length_append]
    omega

end ZyxtLexer
