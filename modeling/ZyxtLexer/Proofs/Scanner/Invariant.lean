import ZyxtLexer.Proofs.Scanner.Context

/-! The invariant of the scanner. Behind any text its parts agree with the text and with the tokens
found there: the pending text is the latest part of the text, and begins where the scanner says. The
mode and the latest kind are what the tokens amount to, and within a comment what is kept for later
is what the tokens before its opener amount to. -/
namespace ZyxtLexer

namespace Mode

/-- The opener of the comment that a mode is in, and what that comment interrupts. -/
def comment? : Mode → Option (Lexeme × Resume)
  | code | label => none
  | lineComment r => some (⟨.commentStart, "//"⟩, r)
  | blockComment r => some (⟨.multilineCommentStart, "/*"⟩, r)

theorem comment?_of_endsWords {m : Mode} (hm : m.endsWords) : m.comment? = none := by
  rcases endsWords_iff.1 hm with rfl | rfl <;> rfl

end Mode

namespace Scanner

/-- Within a comment, nothing has come since its opener: that is the latest of the tokens `ts`. -/
def Opened (s : Scanner) (ts : List Token) : Prop :=
  ∀ opener r, s.mode.comment? = some (opener, r) →
    ∃ before t, ts = before ++ [t] ∧ t.toLexeme = opener ∧ s.last = opener.kind

/-- The scanner `s` agrees with the text `cs` that it has read, and with the tokens found there. -/
structure Invariant (cs : List Char) (s : Scanner) : Prop where
  cursor_eq : s.cursor = Position.origin.past cs
  held_eq_nil_iff : s.held = [] ↔ s.start = s.cursor
  /-- The pending text is what follows its first character, of which the scanner knows the place. -/
  first_held : s.held ≠ [] → ∃ before c behind, cs = before ++ c :: behind ∧
    s.start = Position.origin.past before ∧
    s.held.reverse = c :: if s.mode.endsWords then significant behind else behind
  unresolved : s.Unresolved
  code : s.mode.endsWords → Resume.Recalls ⟨s.last, s.mode = .label⟩ (tokens {} cs)
  /-- A comment keeps for later what the tokens before its opener amount to. -/
  comment : ∀ opener r, s.mode.comment? = some (opener, r) → ∃ before t,
    tokens {} cs = before ++ [t] ∧ t.toLexeme = opener ∧ s.last = opener.kind ∧
      r.Recalls before ∧ ¬ r.last.isComment

variable {s : Scanner} {c : Char} {ts : List Token} {opener : Lexeme} {r : Resume}

theorem opened_of_endsWords (hm : s.mode.endsWords) : s.Opened ts := by
  intro opener r h
  rw [Mode.comment?_of_endsWords hm] at h
  cases h

theorem opened_openComment {kind : Kind} {value : String} {mode : Resume → Mode}
    (hvalue : s.text.push c = value) (hmode : ∀ r, (mode r).comment? = some (⟨kind, value⟩, r)) :
    (s.openComment c kind mode).2.Opened
      (ts ++ (s.openComment c kind mode).1.filterMap Event.token?) := by
  intro opener r h
  cases (hmode (s.mode.suspend s.last)).symm.trans h
  exact ⟨ts, ⟨⟨kind, s.text.push c⟩, s.start⟩, rfl, by rw [hvalue], rfl⟩

theorem opened_step (h : s.Opened ts) (c : Char) :
    (s.step c).2.Opened (ts ++ (s.step c).1.filterMap Event.token?) := by
  have hstep := step_spec s c
  generalize s.step c = o at hstep ⊢
  cases hstep with
  | skip hm | hold hm => exact opened_of_endsWords hm
  | flag => exact opened_of_endsWords s.endsWords_readFlag
  | blank hm => exact opened_of_endsWords (endsWords_readBlank hm c)
  | closeLine r | closeBlock r => exact opened_of_endsWords r.endsWords_mode
  | openLine _ hh hc | openBlock _ hh hc =>
    exact opened_openComment (by simp [text, hh, hc]) fun _ => rfl
  | holdLine | holdBlock =>
    have hnone : ts ++ ([] : List Event).filterMap Event.token? = ts := List.append_nil ts
    rw [hnone]
    exact h

theorem opened_after (cs : List Char) : (after cs).Opened (tokens {} cs) :=
  holds_after (fun ts s => s.Opened ts) (opened_of_endsWords rfl)
    (fun _ _ c h => opened_step h c) cs

theorem held_eq_nil_iff_start (cs : List Char) :
    (after cs).held = [] ↔ (after cs).start = (after cs).cursor := by
  refine ⟨start_eq_cursor_after, fun hstart => ?_⟩
  by_contra hh
  have hlt := start_lt_cursor_after hh
  rw [hstart] at hlt
  exact Position.not_le_of_lt hlt (Position.le_refl _)

theorem recalls_code {cs : List Char} (hm : (after cs).mode.endsWords) :
    Resume.Recalls ⟨(after cs).last, (after cs).mode = .label⟩ (tokens {} cs) := by
  have hrecalls := recalls_after cs
  rwa [context_of_endsWords hm] at hrecalls

theorem context_of_comment? (h : s.mode.comment? = some (opener, r)) :
    s.context = r ∧ opener.kind.isComment := by
  cases hm : s.mode with
  | code | label =>
    rw [hm] at h
    cases h
  | lineComment r' | blockComment r' =>
    rw [hm] at h
    cases h
    exact ⟨by simp only [context, hm], rfl⟩

/-- What a comment interrupts is what the tokens before its opener amount to, since the opener does
not count. -/
theorem recalls_before_opener {cs : List Char}
    (h : (after cs).mode.comment? = some (opener, r)) : ∃ before t,
      tokens {} cs = before ++ [t] ∧ t.toLexeme = opener ∧ (after cs).last = opener.kind ∧
        r.Recalls before ∧ ¬ r.last.isComment := by
  obtain ⟨before, t, htokens, ht, hlast⟩ := opened_after cs opener r h
  obtain ⟨hcontext, hcomment⟩ := context_of_comment? h
  have hopener : ∀ u ∈ [t], u.kind.isComment := by
    intro u hu
    rw [List.mem_singleton.1 hu, ht]
    exact hcomment
  have hrecalls := recalls_after cs
  rw [htokens, hcontext, Resume.recalls_append_comments hopener] at hrecalls
  exact ⟨before, t, htokens, ht, hlast, hrecalls, hrecalls.not_comment⟩

/-- The invariant holds behind any text. And the newline that closes a source ends its last word or
line comment: only in a block comment is anything pending behind it. -/
theorem invariant_after (cs : List Char) (source : String) :
    Invariant cs (after cs) ∧
      ((after (closed source)).mode.endsWords ∧ (after (closed source)).held = [] ∨
        ∃ r, (after (closed source)).mode = .blockComment r) := by
  constructor
  · exact {
      cursor_eq := cursor_after cs
      held_eq_nil_iff := held_eq_nil_iff_start cs
      first_held := exists_first_held
      unresolved := unresolved_after cs
      code := recalls_code
      comment := fun _ _ => recalls_before_opener }
  · rw [closed, after_concat]
    exact step_newline (after source.toList)

/-- In a comment behind the colon of a flag, with a star pending that may begin a closer. -/
example : after ":\r/* b*".toList =
    { mode := .blockComment ⟨.flag, true⟩, last := .multilineCommentStart,
      held := ['*', 'b', ' '], start := ⟨1, 5⟩, cursor := ⟨1, 8⟩ } := by decide

end Scanner
end ZyxtLexer
