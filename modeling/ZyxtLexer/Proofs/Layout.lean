import ZyxtLexer.Proofs.Pieces.Refinement
import ZyxtLexer.Proofs.Scanner.Reached

/-! Blanks outside comments. A carriage return there is read as if it were not written, and only
takes up its column. Any other blank separates, and it does not matter how many of them there are
or which they are: behind them the scanner is ready in the same context, only elsewhere. -/
namespace ZyxtLexer
namespace Scanner

/-- Passing over a carriage return makes room for it, of which pending text takes no notice. -/
theorem skip_after {cs : List Char} (hm : (after cs).mode.endsWords) :
    (after cs).skip '\r' = (after cs).move (after cs).cursor.nudge := by
  have hcursor : (after cs).cursor.nudge (after cs).cursor = (after cs).cursor.advance '\r' := by
    rw [Position.nudge_self, Position.advance_of_ne (by decide)]
  have hstart : (if (after cs).held.isEmpty then (after cs).cursor.advance '\r'
      else (after cs).start) = (after cs).cursor.nudge (after cs).start := by
    by_cases hnil : (after cs).held.isEmpty
    · have hready : (after cs).start = (after cs).cursor := by
        rw [after_eq_ready hm (List.isEmpty_iff.1 hnil)]
        rfl
      rw [if_pos hnil, hready, hcursor]
    · have hlt := start_lt_cursor_after (mt List.isEmpty_iff.2 hnil)
      rw [if_neg hnil, Position.nudge_of_lt hlt]
  simp only [skip, move, hstart, hcursor]

theorem step_return {s : Scanner} (hm : s.mode.endsWords) : s.step '\r' = ([], s.skip '\r') := by
  rcases Mode.endsWords_iff.1 hm with h | h <;> simp only [step, h, readCode, if_true]

/-- A blank other than a carriage return ends the pending word, whichever blank it is. -/
theorem step_separator {s : Scanner} (hm : s.mode.endsWords) {b : Char} (hb : Text.isBlank b)
    (hret : b ≠ '\r') :
    s.step b = ((s.readBlank ' ').1, ready (s.readBlank ' ').2.context (s.cursor.advance b)) := by
  have hcolon : b ≠ ':' := by
    rintro rfl
    exact absurd hb (by decide)
  have hstep : s.step b = s.readBlank b := by
    have hcode : s.readCode b = s.readBlank b := by
      rw [readCode, if_neg hret, if_neg fun h => hcolon h.1, if_pos hb]
    rcases Mode.endsWords_iff.1 hm with h | h <;> simp only [step, h, hcode]
  rw [hstep]
  by_cases hnil : s.held.isEmpty
  · have hmode : (s.restart ' ' s.mode s.last).mode.endsWords := hm
    rw [readBlank, readBlank, if_pos hnil, if_pos hnil, context_of_endsWords hmode]
    simp only [restart, ready, within, Resume.mode_suspend hm]
    rfl
  · rw [readBlank, readBlank, if_neg hnil, if_neg hnil]
    rfl

theorem readBlank_skip (s : Scanner) (b : Char) :
    ((s.skip '\r').readBlank b).1 = (s.readBlank b).1 ∧
      ((s.skip '\r').readBlank b).2.context = (s.readBlank b).2.context := by
  by_cases hnil : s.held.isEmpty
  · have hnil' : (s.skip '\r').held.isEmpty := hnil
    rw [readBlank, readBlank, if_pos hnil, if_pos hnil']
    exact ⟨rfl, rfl⟩
  · have hnil' : ¬ (s.skip '\r').held.isEmpty := hnil
    have hstart : (s.skip '\r').start = s.start := if_neg hnil
    rw [readBlank, readBlank, if_neg hnil, if_neg hnil', hstart]
    exact ⟨rfl, rfl⟩

/-- Blanks that separate: carriage returns alone do not. -/
structure Gap (bs : List Char) : Prop where
  blank : ∀ b ∈ bs, Text.isBlank b
  separates : ∃ b ∈ bs, b ≠ '\r'

/-- A gap ends the pending word and leaves the scanner ready behind it. -/
theorem run_gap {s : Scanner} (hm : s.mode.endsWords) {bs : List Char} (h : Gap bs) :
    s.run bs = ((s.readBlank ' ').1, ready (s.readBlank ' ').2.context (s.cursor.past bs)) := by
  obtain ⟨hblank, hsep⟩ := h
  induction bs generalizing s with
  | nil =>
    obtain ⟨b, hb, -⟩ := hsep
    cases hb
  | cons b bs ih =>
    have hrest : ∀ c ∈ bs, Text.isBlank c := fun c hc => hblank c (List.mem_cons_of_mem b hc)
    by_cases hret : b = '\r'
    · subst hret
      obtain ⟨c, hc, hne⟩ := hsep
      have htail : ∃ c ∈ bs, c ≠ '\r' := ⟨c, List.mem_of_ne_of_mem hne hc, hne⟩
      have hm' : (s.skip '\r').mode.endsWords := hm
      obtain ⟨hev, hctx⟩ := readBlank_skip s ' '
      rw [run_cons, step_return hm, ih hm' hrest htail, hev, hctx]
      rfl
    · rw [run_cons, step_separator hm (hblank b List.mem_cons_self) hret, run_blanks _ _ hrest,
        List.append_nil]
      rfl

/-- Two ready scanners in one context find the same lexemes, wherever each of them stands. -/
theorem lexemes_ready_elsewhere (r : Resume) (p q : Position) (cs : List Char) :
    (ready r p).lexemes cs = (ready r q).lexemes cs := by
  have hmove := tokens_move (movable_ready r p q) cs
  rw [move_ready] at hmove
  rw [lexemes, lexemes, hmove, List.map_map]
  rfl

end Scanner

open Scanner

/-- A carriage return outside comments moves what stands behind it on its line to the right, and is
otherwise read as if it were not written. -/
theorem tokenize_insert_return {p : String} (hm : (after p.toList).mode.endsWords) (q : String) :
    tokenize (p ++ "\r" ++ q) =
      (tokenize (p ++ q)).map (Token.move (after p.toList).cursor.nudge) := by
  have hmovable : (after p.toList).Movable (after p.toList).cursor.nudge :=
    movable_of_endsWords hm (Position.follows_nudge _)
  have hrun : run {} (p ++ "\r").toList =
      ((run {} p.toList).1, (after p.toList).move (after p.toList).cursor.nudge) := by
    have hstep : (run {} p.toList).2.step '\r' = ([], (after p.toList).skip '\r') := step_return hm
    have hp : (p ++ "\r").toList = p.toList ++ ['\r'] := by simp
    rw [hp, run_concat, hstep, skip_after hm, List.append_nil]
  have hbefore : (tokens {} p.toList).map (Token.move (after p.toList).cursor.nudge) =
      tokens {} p.toList := by
    -- What has been found stands before the carriage return.
    have hfixed : ∀ t ∈ tokens {} p.toList, t.move (after p.toList).cursor.nudge = id t := by
      intro t ht
      rw [Token.move, Position.nudge_of_lt (pos_lt_cursor_after p.toList ht)]
      rfl
    rw [List.map_congr_left hfixed, List.map_id]
  rw [tokenize_append, tokenize_append, tokens, after, hrun, tokens_move hmovable, List.map_append,
    hbefore]
  rfl

/-- A carriage return within the opener of a comment, behind a label. -/
theorem tokenize_insert_return_in_opener :
    (after ":x: /".toList).mode.endsWords ∧
      tokenize (":x: /" ++ "\r" ++ "*a\r\n*/b:c") =
        (tokenize (":x: /" ++ "*a\r\n*/b:c")).map (Token.move (Position.nudge ⟨1, 6⟩)) :=
  ⟨by decide, tokenize_insert_return (by decide) _⟩

theorem tokens_before_gap {p w : String} (hm : (after p.toList).mode.endsWords)
    (hw : Gap w.toList) :
    tokens {} (p ++ w).toList =
      tokens {} p.toList ++ ((after p.toList).readBlank ' ').1.filterMap Event.token? := by
  rw [String.toList_append, tokens_append]
  change tokens {} p.toList ++ (after p.toList).tokens w.toList = _
  rw [tokens, tokens, run_gap hm hw]

theorem lexemes_behind_gap {p w : String} (hm : (after p.toList).mode.endsWords)
    (hw : Gap w.toList) (pos : Position) (q : String) :
    (after (p ++ w).toList).lexemes (closed q) =
      (ready ((after p.toList).readBlank ' ').2.context pos).lexemes (closed q) := by
  have hafter : after (p ++ w).toList =
      ready ((after p.toList).readBlank ' ').2.context ((after p.toList).cursor.past w.toList) := by
    rw [String.toList_append, after, run_append]
    exact congrArg Prod.snd (run_gap hm hw)
  rw [hafter, lexemes_ready_elsewhere]

/-- Outside comments it does not matter by which blanks words are separated. Everything found up to
the end of a gap, the word that the gap ends included, is the same in the same places, and what
stands behind it keeps its kinds and values. -/
theorem tokenize_gap {p w w' : String} (hm : (after p.toList).mode.endsWords)
    (hw : Gap w.toList) (hw' : Gap w'.toList) (q : String) :
    lexemes (p ++ w ++ q) = lexemes (p ++ w' ++ q) ∧
      tokens {} (p ++ w).toList = tokens {} (p ++ w').toList ∧
      tokens {} p.toList <+: tokens {} (p ++ w).toList ∧
      tokens {} (p ++ w).toList <+: tokenize (p ++ w ++ q) ∧
      tokens {} (p ++ w').toList <+: tokenize (p ++ w' ++ q) := by
  have hsame : tokens {} (p ++ w).toList = tokens {} (p ++ w').toList := by
    rw [tokens_before_gap hm hw, tokens_before_gap hm hw']
  refine ⟨?_, hsame, ?_, ?_, ?_⟩
  · rw [lexemes, lexemes, tokenize_append, tokenize_append, List.map_append, List.map_append, hsame]
    exact congrArg _ ((lexemes_behind_gap hm hw .origin q).trans
      (lexemes_behind_gap hm hw' .origin q).symm)
  · rw [tokens_before_gap hm hw]
    exact List.prefix_append _ _
  · rw [tokenize_append]
    exact List.prefix_append _ _
  · rw [tokenize_append]
    exact List.prefix_append _ _

/-- A gap behind an opener of a comment that is half read. -/
theorem tokenize_gap_behind_slash :
    (after ":a\r/".toList).mode.endsWords ∧ Gap "\r\n ".toList ∧ Gap "\u2028".toList ∧
      lexemes (":a\r/" ++ "\r\n " ++ "/:b") = lexemes (":a\r/" ++ "\u2028" ++ "/:b") ∧
      tokens {} (":a\r/" ++ "\r\n ").toList = tokens {} (":a\r/" ++ "\u2028").toList ∧
      tokens {} ":a\r/".toList <+: tokens {} (":a\r/" ++ "\r\n ").toList ∧
      tokens {} (":a\r/" ++ "\r\n ").toList <+: tokenize (":a\r/" ++ "\r\n " ++ "/:b") ∧
      tokens {} (":a\r/" ++ "\u2028").toList <+: tokenize (":a\r/" ++ "\u2028" ++ "/:b") := by
  have hm : (after ":a\r/".toList).mode.endsWords := by decide
  have hgap : Gap "\r\n ".toList := ⟨List.all_eq_true.1 (by decide), '\n', by simp, by decide⟩
  have hgap' : Gap "\u2028".toList :=
    ⟨List.all_eq_true.1 (by decide), '\u2028', by simp, by decide⟩
  exact ⟨hm, hgap, hgap', tokenize_gap hm hgap hgap' "/:b"⟩

end ZyxtLexer
