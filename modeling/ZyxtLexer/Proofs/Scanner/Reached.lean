import Mathlib.Data.List.Induction
import ZyxtLexer.Proofs.Scanner.Move
import ZyxtLexer.Proofs.Spans

/-! What is known of the scanner behind any text: where its pending text begins, what can be pending
there, and that all tokens found so far stand before the next character. -/
namespace ZyxtLexer
namespace Scanner

variable {s : Scanner} {c : Char}

theorem cursor_step (s : Scanner) (c : Char) : (s.step c).2.cursor = s.cursor.advance c := by
  have hstep := step_spec s c
  generalize s.step c = o at hstep ⊢
  cases hstep with
  | blank => exact cursor_readBlank s c
  | flag _ hc =>
    subst hc
    rfl
  | skip | openLine | openBlock | hold | closeLine | holdLine | closeBlock | holdBlock => rfl

theorem cursor_run (s : Scanner) (cs : List Char) : (s.run cs).2.cursor = s.cursor.past cs := by
  induction cs generalizing s with
  | nil => rfl
  | cons c cs ih =>
    rw [run_cons, Position.past_cons, ← cursor_step]
    exact ih _

/-- The scanner behind the text `cs`. -/
def after (cs : List Char) : Scanner := (run {} cs).2

theorem cursor_after (cs : List Char) : (after cs).cursor = Position.origin.past cs :=
  cursor_run {} cs

theorem after_concat (cs : List Char) (c : Char) : after (cs ++ [c]) = ((after cs).step c).2 := by
  rw [after, run_concat]
  rfl

theorem tokens_concat (cs : List Char) (c : Char) :
    tokens {} (cs ++ [c]) = tokens {} cs ++ ((after cs).step c).1.filterMap Event.token? := by
  rw [tokens_append, ← run_singleton]
  rfl

/-- What holds before a text is read, and is kept by every step, holds behind any text. -/
theorem holds_after (P : List Token → Scanner → Prop) (hstart : P [] {})
    (hstep : ∀ ts s c, P ts s → P (ts ++ (s.step c).1.filterMap Event.token?) (s.step c).2)
    (cs : List Char) : P (tokens {} cs) (after cs) := by
  induction cs using List.reverseRecOn with
  | nil => exact hstart
  | append_singleton cs c ih =>
    rw [after_concat, tokens_concat]
    exact hstep _ _ c ih

theorem one_le_column_cursor_after (cs : List Char) : 1 ≤ (after cs).cursor.column := by
  rw [cursor_after]
  exact Position.one_le_column_past le_rfl cs

theorem exists_tracks_after (cs : List Char) :
    ∃ placed d, (after cs).Tracks cs placed d cs.length := by
  obtain ⟨placed, d, -, h⟩ := tracks_run cs le_rfl
  rw [List.take_length] at h
  exact ⟨placed, d, h⟩

/-- From where the pending text begins, reading it leads to the next character. -/
theorem Tracks.past_slice {text : List Char} {placed : List Placed} {d n : ℕ}
    (h : s.Tracks text placed d n) : s.start.past (slice text d n) = s.cursor := by
  have hd : text.take d = (text.take n).take d := by
    rw [List.take_take, min_eq_left h.first_le]
  rw [h.start_eq, h.cursor_eq, placeOf, placeOf, hd, ← Position.past_append, slice,
    List.take_append_drop]

theorem start_le_cursor_after (cs : List Char) : (after cs).start ≤ (after cs).cursor := by
  obtain ⟨placed, d, h⟩ := exists_tracks_after cs
  rw [← h.past_slice]
  exact Position.le_past _ _

theorem Tracks.held_eq_nil_iff {text : List Char} {placed : List Placed} {d n : ℕ}
    (h : s.Tracks text placed d n) : s.held = [] ↔ d = n := by
  by_cases hm : s.mode.endsWords
  · refine ⟨(h.word hm).eq_of_nil, fun hdn => ?_⟩
    have hsig := (h.word hm).significant_eq
    rw [hdn, slice_self, significant_nil] at hsig
    exact List.reverse_eq_nil_iff.1 hsig.symm
  · have hlen : s.held.length = n - d := by
      rw [← length_slice h.read_le, h.comment hm, List.length_reverse]
    have hle : d ≤ n := h.first_le
    rw [← List.length_eq_zero_iff]
    omega

theorem start_eq_cursor_after {cs : List Char} (hh : (after cs).held = []) :
    (after cs).start = (after cs).cursor := by
  obtain ⟨placed, d, h⟩ := exists_tracks_after cs
  rw [← h.past_slice, h.held_eq_nil_iff.1 hh, slice_self]
  rfl

/-- The pending text begins with the character that stands at its place. All that follows this
character is pending too, but for the carriage returns outside comments. -/
theorem exists_first_held {cs : List Char} (hh : (after cs).held ≠ []) :
    ∃ before c behind, cs = before ++ c :: behind ∧
      (after cs).start = Position.origin.past before ∧
      (after cs).held.reverse =
        c :: if (after cs).mode.endsWords then significant behind else behind := by
  obtain ⟨placed, d, h⟩ := exists_tracks_after cs
  have hd : d < cs.length := lt_of_le_of_ne h.first_le (mt h.held_eq_nil_iff.2 hh)
  have hdrop : cs.drop d = cs[d] :: cs.drop (d + 1) := List.drop_eq_getElem_cons hd
  have hslice : slice cs d cs.length = cs.drop d := by rw [slice, List.take_length]
  refine ⟨cs.take d, cs[d], cs.drop (d + 1), ?_, h.start_eq, ?_⟩
  · rw [← hdrop, List.take_append_drop]
  by_cases hm : (after cs).mode.endsWords
  · obtain ⟨c, hc, hret⟩ := (h.word hm).begins hh
    have hfirst : cs[d] = c := (List.getElem?_eq_some_iff.1 hc).2
    rw [if_pos hm, ← (h.word hm).significant_eq, hslice, hdrop, significant_cons (hfirst ▸ hret)]
  · rw [if_neg hm, ← h.comment hm, hslice, hdrop]

theorem start_lt_cursor_after {cs : List Char} (hh : (after cs).held ≠ []) :
    (after cs).start < (after cs).cursor := by
  obtain ⟨before, c, behind, hcs, hstart, -⟩ := exists_first_held hh
  have hcursor : (after cs).cursor = ((after cs).start.advance c).past behind := by
    rw [cursor_after, hstart, ← Position.past_cons, ← Position.past_append, ← hcs]
  rw [hcursor]
  exact Position.lt_of_lt_of_le (Position.lt_advance _ c) (Position.le_past _ behind)

theorem start_le_step (h : s.start ≤ s.cursor) (c : Char) : s.start ≤ (s.step c).2.start := by
  have hnext : s.start ≤ s.cursor.advance c :=
    Position.le_of_lt (Position.lt_of_le_of_lt h (Position.lt_advance _ c))
  have hstep := step_spec s c
  generalize s.step c = o at hstep ⊢
  cases hstep with
  | skip =>
    simp only [skip]
    split
    · exact hnext
    · exact s.start.le_refl
  | hold | holdLine | holdBlock => exact s.start.le_refl
  | blank =>
    unfold readBlank
    split <;> exact hnext
  | flag _ hc =>
    subst hc
    exact hnext
  | openLine | openBlock | closeLine | closeBlock => exact hnext

/-- Of the pending text nothing could have been made before: outside comments it is a word under
way, without a colon where that is a flag, and in a comment it is text that does not close it. -/
structure Unresolved (s : Scanner) : Prop where
  blank : s.mode.endsWords → ∀ c ∈ s.held, ¬ Text.isBlank c
  opener : s.mode.endsWords → ¬ OpensComment s.held.reverse
  colon : s.mode.endsWords → s.opensFlag → ':' ∉ s.held
  newline : ∀ r, s.mode = .lineComment r → '\n' ∉ s.held
  closer : ∀ r, s.mode = .blockComment r → ¬ ['*', '/'] <:+: s.held.reverse

theorem unresolved_of_nil (h : s.held = []) : s.Unresolved where
  blank _ := h ▸ nofun
  opener _ := by simp [h, OpensComment]
  colon _ _ := h ▸ List.not_mem_nil
  newline _ _ := h ▸ List.not_mem_nil
  closer _ _ := by simp [h]

theorem Unresolved.hold_word (h : s.Unresolved) (hm : s.mode.endsWords)
    (hf : c = ':' → ¬ s.opensFlag) (hb : ¬ Text.isBlank c)
    (hh : s.held = ['/'] → c ≠ '/' ∧ c ≠ '*') : (s.hold c).Unresolved where
  blank _ := List.forall_mem_cons.2 ⟨hb, h.blank hm⟩
  opener _ hopens := by
    rw [reverse_held_hold] at hopens
    rcases hopens.cases_append with h' | ⟨h', hc⟩ | ⟨-, -, h'⟩
    · exact h.opener hm h'
    · have hslash : s.held = ['/'] := List.reverse_eq_iff.1 h'
      exact hc.elim (hh hslash).1 (hh hslash).2
    · exact h' rfl
  colon _ hopens := by
    have hne : ':' ≠ c := fun hc => hf hc.symm hopens
    exact List.not_mem_cons_of_ne_of_not_mem hne (h.colon hm hopens)
  newline r hr := by
    have hr' : s.mode = .lineComment r := hr
    rw [hr'] at hm
    cases hm
  closer r hr := by
    have hr' : s.mode = .blockComment r := hr
    rw [hr'] at hm
    cases hm

theorem Unresolved.hold_line (h : s.Unresolved) {r : Resume} (hr : s.mode = .lineComment r)
    (hc : c ≠ '\n') : (s.hold c).Unresolved := by
  have hr' : (s.hold c).mode = .lineComment r := hr
  have hends : ¬ (s.hold c).mode.endsWords := by simp [hr', Mode.endsWords]
  refine ⟨fun hm => absurd hm hends, fun hm => absurd hm hends, fun hm => absurd hm hends, ?_, ?_⟩
  · exact fun _ _ => List.not_mem_cons_of_ne_of_not_mem hc.symm (h.newline r hr)
  · intro r' hmode
    cases hr'.symm.trans hmode

theorem Unresolved.hold_block (h : s.Unresolved) {r : Resume} (hr : s.mode = .blockComment r)
    (hc : s.held.head? = some '*' → c ≠ '/') : (s.hold c).Unresolved := by
  have hr' : (s.hold c).mode = .blockComment r := hr
  have hends : ¬ (s.hold c).mode.endsWords := by simp [hr', Mode.endsWords]
  refine ⟨fun hm => absurd hm hends, fun hm => absurd hm hends, fun hm => absurd hm hends, ?_, ?_⟩
  · intro r' hmode
    cases hr'.symm.trans hmode
  · intro _ _ hcloser
    rw [reverse_held_hold, closer_infix_concat_iff, List.getLast?_reverse] at hcloser
    rcases hcloser with ⟨hstar, hslash⟩ | hbefore
    · exact hc hstar hslash
    · exact h.closer r hr hbefore

theorem Unresolved.step (h : s.Unresolved) (c : Char) : (s.step c).2.Unresolved := by
  have hstep := step_spec s c
  generalize s.step c = o at hstep ⊢
  cases hstep with
  | skip => exact ⟨h.blank, h.opener, h.colon, h.newline, h.closer⟩
  | flag | openLine | openBlock | closeLine | closeBlock => exact unresolved_of_nil rfl
  | blank => exact unresolved_of_nil (held_readBlank s c)
  | hold hm hf hb hh => exact h.hold_word hm hf hb hh
  | holdLine r hr hc => exact h.hold_line hr hc
  | holdBlock r hr hc => exact h.hold_block hr hc

theorem unresolved_after (cs : List Char) : (after cs).Unresolved :=
  holds_after (fun _ s => s.Unresolved) (unresolved_of_nil rfl) (fun _ _ c h => h.step c) cs

theorem eq_of_mem_beforeFlag {t : Token} (ht : .emit t ∈ s.beforeFlag) :
    t = ⟨⟨.flagLabel, s.text⟩, s.start⟩ := by
  unfold beforeFlag at ht
  split at ht
  · cases ht
  · split at ht
    · cases List.mem_singleton.1 ht
    · exact Event.emit.inj (List.mem_singleton.1 ht)

theorem eq_of_mem_readBlank {t : Token} (ht : .emit t ∈ (s.readBlank c).1) :
    t = ⟨⟨s.endedKind, s.text⟩, s.start⟩ := by
  unfold readBlank at ht
  split at ht
  · cases ht
  · exact Event.emit.inj (List.mem_singleton.1 ht)

/-- A token that a step brings forth stands where the pending text begins, at the character that
is read, or just before it. -/
theorem pos_of_mem_step {t : Token} (ht : .emit t ∈ (s.step c).1) :
    t.pos = s.start ∨ t.pos = s.cursor ∨ t.pos = s.cursor.left := by
  have hstep := step_spec s c
  generalize s.step c = o at hstep ht
  cases hstep with
  | skip | hold | holdLine | holdBlock => cases ht
  | flag =>
    rcases List.mem_append.1 ht with ht | ht
    · exact .inl (congrArg Token.pos (eq_of_mem_beforeFlag ht))
    · cases List.mem_singleton.1 ht
      exact .inr (.inl rfl)
  | blank => exact .inl (congrArg Token.pos (eq_of_mem_readBlank ht))
  | openLine | openBlock =>
    cases List.mem_singleton.1 ht
    exact .inl rfl
  | closeLine | closeBlock =>
    simp only [closeComment, List.mem_cons, Event.emit.injEq, List.not_mem_nil, or_false] at ht
    rcases ht with rfl | rfl <;> simp

/-- A token of code that is no flag is the pending text. -/
theorem pending_of_mem_step {t : Token} (ht : .emit t ∈ (s.step c).1)
    (hcomment : ¬ t.kind.isComment) (hflag : t.kind ≠ .flag) :
    s.mode.endsWords ∧ t.value = s.text ∧ t.pos = s.start := by
  have hstep := step_spec s c
  generalize s.step c = o at hstep ht
  cases hstep with
  | skip | hold | holdLine | holdBlock => cases ht
  | flag hm =>
    rcases List.mem_append.1 ht with ht | ht
    · rw [eq_of_mem_beforeFlag ht]
      exact ⟨hm, rfl, rfl⟩
    · cases List.mem_singleton.1 ht
      exact absurd rfl hflag
  | blank hm =>
    rw [eq_of_mem_readBlank ht]
    exact ⟨hm, rfl, rfl⟩
  | openLine | openBlock =>
    cases List.mem_singleton.1 ht
    exact absurd rfl hcomment
  | closeLine | closeBlock =>
    simp only [closeComment, List.mem_cons, Event.emit.injEq, List.not_mem_nil, or_false] at ht
    rcases ht with rfl | rfl <;> exact absurd rfl hcomment

theorem pos_le_of_mem_step (hs : s.start ≤ s.cursor) (hcol : 1 ≤ s.cursor.column) {t : Token}
    (ht : .emit t ∈ (s.step c).1) : t.pos ≤ s.cursor := by
  rcases pos_of_mem_step ht with h | h | h
  · exact h ▸ hs
  · exact h ▸ s.cursor.le_refl
  · exact h ▸ Position.left_le hcol

theorem mem_tokens {cs : List Char} {t : Token} : t ∈ s.tokens cs ↔ .emit t ∈ (s.run cs).1 :=
  mem_filterMap_token

/-- All tokens that a text has brought forth stand before its end. -/
theorem pos_lt_cursor_after (cs : List Char) {t : Token} (ht : t ∈ tokens {} cs) :
    t.pos < (after cs).cursor := by
  induction cs using List.reverseRecOn with
  | nil => cases ht
  | append_singleton cs c ih =>
    rw [after_concat, cursor_step]
    rw [tokens_append] at ht
    rcases List.mem_append.1 ht with ht | ht
    · exact Position.lt_of_le_of_lt (Position.le_of_lt (ih ht)) (Position.lt_advance _ c)
    · rw [mem_tokens, run_singleton] at ht
      have hle : t.pos ≤ (after cs).cursor :=
        pos_le_of_mem_step (start_le_cursor_after cs) (one_le_column_cursor_after cs) ht
      exact Position.lt_of_le_of_lt hle (Position.lt_advance _ c)

theorem eq_within (hm : s.mode.endsWords) : s = within s.context s.held s.start s.cursor := by
  rw [context_of_endsWords hm, within, Resume.mode_suspend hm]
  rfl

/-- Between words the scanner is ready for the next one, in the context of those before it. -/
theorem after_eq_ready {cs : List Char} (hm : (after cs).mode.endsWords)
    (hh : (after cs).held = []) : after cs = ready (after cs).context (after cs).cursor := by
  have h := eq_within hm
  rw [hh, start_eq_cursor_after hh] at h
  exact h

theorem move_ready (r : Resume) (p q : Position) : (ready r p).move (p.shift q) = ready r q := by
  simp only [ready, within, move, Position.shift_self]

theorem movable_ready (r : Resume) (p q : Position) : (ready r p).Movable (p.shift q) :=
  movable_of_endsWords r.endsWords_mode (Position.follows_shift p q)

end Scanner

theorem closed_append (p q : String) : closed (p ++ q) = p.toList ++ closed q := by
  rw [closed, String.toList_append, List.append_assoc]
  rfl

/-- What a text brings forth with another behind it: its own tokens, and those that the scanner
behind it finds in the other. -/
theorem tokenize_append (p q : String) :
    tokenize (p ++ q) =
      Scanner.tokens {} p.toList ++ (Scanner.after p.toList).tokens (closed q) := by
  rw [Scanner.tokenize_eq_tokens, closed_append, Scanner.tokens_append]
  rfl

end ZyxtLexer
