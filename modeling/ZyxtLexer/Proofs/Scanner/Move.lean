import Mathlib.Tactic.SplitIfs
import ZyxtLexer.Proofs.Position
import ZyxtLexer.Proofs.Scanner.Step

/-! Reading a text at another place. A scanner knows places only by advancing over characters, so
moving it moves the tokens that it finds and changes nothing else about them. -/
namespace ZyxtLexer

def Token.move (f : Position → Position) (t : Token) : Token := { t with pos := f t.pos }

@[simp] theorem Token.toLexeme_move (f : Position → Position) (t : Token) :
    (t.move f).toLexeme = t.toLexeme := rfl

def Event.move (f : Position → Position) : Event → Event
  | .emit t => .emit (t.move f)
  | .drop text colon => .drop text (f colon)

theorem filterMap_token_emit (ts : List Token) :
    (ts.map Event.emit).filterMap Event.token? = ts := by
  rw [List.filterMap_map]
  exact List.filterMap_some

theorem mem_filterMap_token {es : List Event} {t : Token} :
    t ∈ es.filterMap Event.token? ↔ .emit t ∈ es := by
  rw [List.mem_filterMap]
  constructor
  · rintro ⟨e, he, ht⟩
    cases e with
    | emit t' =>
      rw [← Option.some.inj ht]
      exact he
    | drop => cases ht
  · exact fun h => ⟨.emit t, h, rfl⟩

theorem filterMap_token_move (f : Position → Position) (es : List Event) :
    (es.map (Event.move f)).filterMap Event.token? =
      (es.filterMap Event.token?).map (Token.move f) := by
  induction es with
  | nil => rfl
  | cons e es ih =>
    cases e with
    | emit t =>
      have hcons : ∀ t fs, (Event.emit t :: fs).filterMap Event.token? =
        t :: fs.filterMap Event.token? := fun _ _ => rfl
      rw [List.map_cons, Event.move, hcons, hcons, ih, List.map_cons]
    | drop => exact ih

namespace Scanner

def move (f : Position → Position) (s : Scanner) : Scanner :=
  { s with start := f s.start, cursor := f s.cursor }

/-- What `f` must do for `s` to be moved by it: go along with what is still to be read, and within
a comment with the text of the comment too, which is held in full. -/
structure Movable (f : Position → Position) (s : Scanner) : Prop where
  cursor : s.cursor.Follows f
  start : ¬ s.mode.endsWords → s.start.Follows f
  held : ¬ s.mode.endsWords → s.cursor = s.start.past s.held.reverse
  column : ¬ s.mode.endsWords → 1 ≤ s.start.column ∧ 1 ≤ (f s.start).column

section Moves
variable {f : Position → Position} {s : Scanner} {c : Char}

theorem restart_move (h : s.cursor.Follows f) (c : Char) (mode : Mode) (last : Kind) :
    (s.move f).restart c mode last = (s.restart c mode last).move f := by
  simp only [restart, move, h.advance c]

theorem hold_move (h : s.cursor.Follows f) (c : Char) : (s.move f).hold c = (s.hold c).move f := by
  simp only [hold, move, h.advance c]

theorem skip_move (h : s.cursor.Follows f) (c : Char) : (s.move f).skip c = (s.skip c).move f := by
  have hstart : (if s.held.isEmpty then (f s.cursor).advance c else f s.start) =
      f (if s.held.isEmpty then s.cursor.advance c else s.start) := by
    rw [← h.advance c, apply_ite f]
  have hcursor : (f s.cursor).advance c = f (s.cursor.advance c) := (h.advance c).symm
  change Scanner.mk .. = Scanner.mk ..
  rw [Scanner.mk.injEq]
  exact ⟨rfl, rfl, rfl, hstart, hcursor⟩

theorem beforeFlag_move (f : Position → Position) (s : Scanner) :
    (s.move f).beforeFlag = s.beforeFlag.map (Event.move f) := by
  have hif : (s.move f).beforeFlag = if s.held.isEmpty then []
      else if s.mode = .code ∧ s.last = .statementEnd then [.drop s.text (f s.cursor)]
      else [.emit ⟨⟨.flagLabel, s.text⟩, f s.start⟩] := rfl
  rw [hif, beforeFlag]
  split_ifs <;> rfl

theorem readFlag_move (h : s.cursor.Follows f) :
    (s.move f).readFlag = s.readFlag.map (List.map (Event.move f)) (move f) := by
  rw [readFlag, readFlag, beforeFlag_move, restart_move h, Prod.map_apply, List.map_append]
  rfl

theorem readBlank_move (h : s.cursor.Follows f) (c : Char) :
    (s.move f).readBlank c = (s.readBlank c).map (List.map (Event.move f)) (move f) := by
  by_cases hnil : s.held.isEmpty
  · have hnil' : (s.move f).held.isEmpty := hnil
    rw [readBlank, readBlank, if_pos hnil, if_pos hnil', restart_move h]
    rfl
  · have hnil' : ¬ (s.move f).held.isEmpty := hnil
    rw [readBlank, readBlank, if_neg hnil, if_neg hnil', restart_move h]
    rfl

theorem openComment_move (h : s.cursor.Follows f) (c : Char) (kind : Kind)
    (mode : Resume → Mode) :
    (s.move f).openComment c kind mode =
      (s.openComment c kind mode).map (List.map (Event.move f)) (move f) := by
  rw [openComment, openComment, restart_move h]
  rfl

theorem closeComment_move (h : s.cursor.Follows f) (c : Char) (resume : Resume)
    (held : List Char) (closer : Lexeme) (pos : Position) :
    (s.move f).closeComment c resume held closer (f pos) =
      (s.closeComment c resume held closer pos).map (List.map (Event.move f)) (move f) := by
  rw [closeComment, closeComment, restart_move h]
  rfl

theorem readCode_move (h : s.cursor.Follows f) (c : Char) :
    (s.move f).readCode c = (s.readCode c).map (List.map (Event.move f)) (move f) := by
  have hflag : (s.move f).opensFlag = s.opensFlag := rfl
  have hheld : (s.move f).held = s.held := rfl
  simp only [readCode, hflag, hheld]
  split_ifs
  · rw [skip_move h]
    rfl
  · exact readFlag_move h
  · exact readBlank_move h c
  · exact openComment_move h c _ _
  · exact openComment_move h c _ _
  · rw [hold_move h]
    rfl

theorem readLine_move (h : s.cursor.Follows f) (resume : Resume) (c : Char) :
    (s.move f).readLine resume c =
      (s.readLine resume c).map (List.map (Event.move f)) (move f) := by
  by_cases hc : c = '\n'
  · rw [readLine, readLine, if_pos hc, if_pos hc]
    exact closeComment_move h c resume s.held _ s.cursor
  · rw [readLine, readLine, if_neg hc, if_neg hc, hold_move h]
    rfl

/-- The star of a closer is the latest character of the comment's text, so the place of the closer
moves with the text. -/
theorem Movable.left_cursor (h : s.Movable f) (hm : ¬ s.mode.endsWords)
    (hh : s.held.head? = some '*') : (f s.cursor).left = f s.cursor.left := by
  obtain ⟨held, hheld⟩ := List.head?_eq_some_iff.1 hh
  obtain ⟨hcol, hcol'⟩ := h.column hm
  have hcursor : s.cursor = (s.start.past held.reverse).advance '*' := by
    rw [h.held hm, hheld, List.reverse_cons, Position.past_append]
    rfl
  have hbefore : f (s.start.past held.reverse) = (f s.start).past held.reverse :=
    h.start hm held.reverse
  have hmoved : f s.cursor = ((f s.start).past held.reverse).advance '*' := by
    rw [h.held hm, h.start hm, hheld, List.reverse_cons, Position.past_append]
    rfl
  rw [hmoved, Position.left_advance (by decide) (Position.one_le_column_past hcol' _), hcursor,
    Position.left_advance (by decide) (Position.one_le_column_past hcol _), hbefore]

theorem readBlock_move (h : s.Movable f) {resume : Resume} (hm : s.mode = .blockComment resume)
    (c : Char) :
    (s.move f).readBlock resume c =
      (s.readBlock resume c).map (List.map (Event.move f)) (move f) := by
  have hends : ¬ s.mode.endsWords := by simp [hm, Mode.endsWords]
  by_cases hc : s.held.head? = some '*' ∧ c = '/'
  · have hc' : (s.move f).held.head? = some '*' ∧ c = '/' := hc
    have hpos : (s.move f).cursor.left = f s.cursor.left := h.left_cursor hends hc.1
    rw [readBlock, readBlock, if_pos hc, if_pos hc', hpos]
    exact closeComment_move h.cursor c resume s.held.tail _ s.cursor.left
  · have hc' : ¬ ((s.move f).held.head? = some '*' ∧ c = '/') := hc
    rw [readBlock, readBlock, if_neg hc, if_neg hc', hold_move h.cursor]
    rfl

theorem step_move (h : s.Movable f) (c : Char) :
    (s.move f).step c = (s.step c).map (List.map (Event.move f)) (move f) := by
  have hmode : (s.move f).mode = s.mode := rfl
  cases hm : s.mode with
  | code | label =>
    simp only [step, hmode, hm]
    exact readCode_move h.cursor c
  | lineComment resume =>
    simp only [step, hmode, hm]
    exact readLine_move h.cursor resume c
  | blockComment resume =>
    simp only [step, hmode, hm]
    exact readBlock_move h hm c

theorem movable_of_endsWords (hm : s.mode.endsWords) (h : s.cursor.Follows f) : s.Movable f where
  cursor := h
  start hn := absurd hm hn
  held hn := absurd hm hn
  column hn := absurd hm hn

theorem movable_restart (h : s.cursor.Follows f) (c : Char) (mode : Mode) (last : Kind) :
    (s.restart c mode last).Movable f where
  cursor := h.next c
  start _ := h.next c
  held _ := rfl
  column _ := by
    have hmoved : f (s.cursor.advance c) = (f s.cursor).advance c := h.advance c
    refine ⟨s.cursor.one_le_column_advance c, ?_⟩
    simp only [restart, hmoved]
    exact Position.one_le_column_advance _ c

theorem Movable.hold (h : s.Movable f) (c : Char) : (s.hold c).Movable f where
  cursor := h.cursor.next c
  start := h.start
  held hm := by
    have hcursor : s.cursor = s.start.past s.held.reverse := h.held hm
    simp only [Scanner.hold, List.reverse_cons, Position.past_append, ← hcursor]
    rfl
  column := h.column

theorem Movable.step (h : s.Movable f) (c : Char) : (s.step c).2.Movable f := by
  have hstep := step_spec s c
  generalize s.step c = o at hstep ⊢
  cases hstep with
  | skip hm => exact movable_of_endsWords hm (h.cursor.next c)
  | flag _ hc =>
    subst hc
    exact movable_restart h.cursor ':' _ _
  | blank =>
    by_cases hnil : s.held.isEmpty
    · rw [readBlank, if_pos hnil]
      exact movable_restart h.cursor c _ _
    · rw [readBlank, if_neg hnil]
      exact movable_restart h.cursor c _ _
  | openLine | openBlock => exact movable_restart h.cursor c _ _
  | closeLine | closeBlock => exact movable_restart h.cursor c _ _
  | hold | holdLine | holdBlock => exact h.hold c

/-- A run from elsewhere does the same there. -/
theorem run_move (h : s.Movable f) (cs : List Char) :
    (s.move f).run cs = (s.run cs).map (List.map (Event.move f)) (move f) := by
  induction cs generalizing s with
  | nil => rfl
  | cons c cs ih =>
    have hrest := ih (h.step c)
    rw [run_cons, run_cons, step_move h c]
    simp only [Prod.map_fst, Prod.map_snd, hrest, Prod.map_apply, List.map_append]

theorem tokens_move (h : s.Movable f) (cs : List Char) :
    (s.move f).tokens cs = (s.tokens cs).map (Token.move f) := by
  rw [tokens, tokens, run_move h, Prod.map_fst, filterMap_token_move]

end Moves

end Scanner
end ZyxtLexer
