import ZyxtLexer.Proofs.Scanner.Reading

/-! The scanner finds the lexemes of the pieces of its text, in their order. -/
namespace ZyxtLexer

def lexemes (source : String) : List Lexeme := (tokenize source).map Token.toLexeme

namespace Scanner

def lexemes (s : Scanner) (cs : List Char) : List Lexeme := (s.tokens cs).map Token.toLexeme

theorem lexemes_eq (source : String) :
    ZyxtLexer.lexemes source = (ready .initial .origin).lexemes (source.toList ++ ['\n']) := rfl

@[simp] theorem lexemes_nil (s : Scanner) : s.lexemes [] = [] := rfl

theorem lexemes_append (s : Scanner) (cs ds : List Char) :
    s.lexemes (cs ++ ds) = s.lexemes cs ++ (s.run cs).2.lexemes ds := by
  rw [lexemes, tokens_append, List.map_append]
  rfl

/-- What a run is known to do stands for it in front of any text. -/
theorem lexemes_of_run {s s' : Scanner} {cs : List Char} {es : List Event}
    (h : s.run cs = (es, s')) (ds : List Char) :
    s.lexemes (cs ++ ds) = (es.filterMap Event.token?).map Token.toLexeme ++ s'.lexemes ds := by
  rw [lexemes_append, lexemes, tokens, h]

theorem lexemes_of_step {s s' : Scanner} {c : Char} {es : List Event}
    (h : s.step c = (es, s')) (ds : List Char) :
    s.lexemes (c :: ds) = (es.filterMap Event.token?).map Token.toLexeme ++ s'.lexemes ds := by
  have hrun : s.run [c] = (es, s') := by rw [run_singleton, h]
  exact lexemes_of_run hrun ds

variable {r : Resume} {held : List Char}

theorem lexemes_blanks (p : Position) {bs : List Char} (hb : ∀ b ∈ bs, Text.isBlank b)
    (cs : List Char) : (ready r p).lexemes (bs ++ cs) = (ready r (p.past bs)).lexemes cs := by
  simp [lexemes_of_run (run_blanks r p hb)]

theorem lexemes_newline (p : Position) : (ready r p).lexemes ['\n'] = [] :=
  lexemes_blanks p (List.forall_mem_singleton.2 (by decide)) []

theorem lexemes_line_text (r : Resume) (p : Position) {v : List Char} (hv : '\n' ∉ v)
    (ds : List Char) :
    ∃ q, (inLine r [] p p).lexemes (v ++ '\n' :: ds) =
      [⟨.comment, String.ofList v⟩, ⟨.commentEnd, "\n"⟩] ++ (ready r q).lexemes ds := by
  refine ⟨(p.past v).advance '\n', ?_⟩
  rw [lexemes_of_run (run_line_text hv), lexemes_of_step step_inLine_newline]
  simp [Event.token?]

theorem lexemes_line (r : Resume) (p : Position) (body : List Char) :
    ∃ q, (inLine r [] p p).lexemes (body ++ ['\n']) =
      [⟨.comment, String.ofList (body.takeWhile (· ≠ '\n'))⟩, ⟨.commentEnd, "\n"⟩] ++
        (ready r q).lexemes ((body.dropWhile (· ≠ '\n')).tail ++ ['\n']) := by
  by_cases hn : '\n' ∈ body
  · obtain ⟨v, rest, rfl, hv⟩ := List.eq_append_cons_of_mem hn
    obtain ⟨q, hq⟩ := lexemes_line_text r p hv (rest ++ ['\n'])
    refine ⟨q, ?_⟩
    rw [takeWhile_ne_append hv, dropWhile_ne_append hv, List.tail_cons, ← hq]
    simp
  · obtain ⟨q, hq⟩ := lexemes_line_text r p hn []
    have hp := decide_ne_of_not_mem hn
    refine ⟨q, ?_⟩
    rw [List.takeWhile_eq_self_iff.2 hp, List.dropWhile_eq_nil_iff.2 hp, hq, List.tail_nil,
      List.nil_append, lexemes_newline, lexemes_nil]

theorem lexemes_block (r : Resume) (p : Position) {text : List Char}
    (h : ¬ ['*', '/'] <:+: text) (rest : List Char) :
    ∃ q, (inBlock r [] p p).lexemes (text ++ '*' :: '/' :: rest) =
      [⟨.comment, String.ofList text⟩, ⟨.multilineCommentEnd, "*/"⟩] ++
        (ready r q).lexemes rest := by
  have hstar : ¬ ['*', '/'] <:+: ([] : List Char).reverse ++ (text ++ ['*']) :=
    mt (closer_infix_concat (by decide)).1 h
  refine ⟨(p.past (text ++ ['*'])).advance '/', ?_⟩
  rw [List.append_cons, lexemes_of_run (run_block_text hstar)]
  simp only [List.reverse_append, List.reverse_cons, List.reverse_nil, List.nil_append,
    List.append_nil, List.singleton_append]
  rw [lexemes_of_step step_inBlock_closer]
  simp [Event.token?]

theorem lexemes_unclosed (r : Resume) (p : Position) {body : List Char}
    (h : ¬ ['*', '/'] <:+: body) : (inBlock r [] p p).lexemes (body ++ ['\n']) = [] := by
  have hb : ¬ ['*', '/'] <:+: ([] : List Char).reverse ++ (body ++ ['\n']) :=
    mt (closer_infix_concat (by decide)).1 h
  rw [lexemes, tokens, run_block_text hb]
  rfl

/-- A blank behind a word brings the word forth, and is then read as if nothing were pending. -/
theorem lexemes_word_end (r : Resume) (hh : held ≠ []) (start cursor : Position) {b : Char}
    (hb : ¬ inWord b) (ds : List Char) :
    ∃ q, (within r held start cursor).lexemes (b :: ds) =
      ⟨r.kindOf (String.ofList held.reverse), String.ofList held.reverse⟩ ::
        (ready ⟨r.kindOf (String.ofList held.reverse), false⟩ q).lexemes (b :: ds) := by
  obtain ⟨hret, hblank⟩ : b ≠ '\r' ∧ Text.isBlank b := by simpa [inWord] using hb
  refine ⟨cursor, ?_⟩
  rw [lexemes_of_step (step_within_blank hh hblank hret), lexemes_of_step (step_blank _ _ hblank)]
  simp [Event.token?]

theorem lexemes_flag (hr : r.Coherent) (hf : r.takesFlags) (held : List Char)
    (start cursor : Position) (ds : List Char) :
    ∃ q, (within r held start cursor).lexemes (':' :: ds) =
      (Piece.flag (if held.reverse ≠ [] ∧ r.last = .flag then some (String.ofList held.reverse)
        else none)).lexemes ++ (ready ⟨.flag, !r.inFlag⟩ q).lexemes ds := by
  refine ⟨cursor.advance ':', ?_⟩
  rw [lexemes_of_step (step_within_flag hr hf), List.filterMap_append, beforeFlag_within hr hf]
  by_cases h : held ≠ [] ∧ r.last = .flag
  · simp [h, Piece.lexemes, Event.token?]
  · simp [h, Piece.lexemes, Event.token?]

theorem lexemes_leadingWord (hr : r.Coherent) (p : Position) {w rest : List Char}
    (hw : LeadingWord w rest) (hcolon : r.takesFlags → ':' ∉ w) :
    ∃ q, (ready r p).lexemes (w ++ (rest ++ ['\n'])) =
      ⟨r.kindOf (String.ofList (significant w)), String.ofList (significant w)⟩ ::
        (ready ⟨r.kindOf (String.ofList (significant w)), false⟩ q).lexemes (rest ++ ['\n']) := by
  have hrun := run_word hr p hw.inWord hcolon hw.head_ne hw.not_comment
  have hs : (significant w).reverse ≠ [] := mt List.reverse_eq_nil_iff.1 hw.significant_ne_nil
  -- The newline that closes the text is such a blank too.
  obtain ⟨b, ds, hbds, hb⟩ : ∃ b ds, rest ++ ['\n'] = b :: ds ∧ ¬ inWord b := by
    cases rest with
    | nil => exact ⟨'\n', [], rfl, by decide⟩
    | cons b rest => exact ⟨b, rest ++ ['\n'], rfl, hw.ends b rest rfl⟩
  obtain ⟨q, hq⟩ := lexemes_word_end r hs p (p.past w) hb ds
  refine ⟨q, ?_⟩
  rw [lexemes_of_run hrun, hbds, hq, List.reverse_reverse]
  rfl

theorem lexemes_cutsWord (hr : r.Coherent) (p : Position) {w rest rest' : List Char} {x : Piece}
    (hw : LeadingWord w rest) (h : CutsWord r rest w x rest') :
    ∃ q, (ready r p).lexemes (w ++ (rest ++ ['\n'])) =
      x.lexemes ++ (ready (x.after r) q).lexemes (rest' ++ ['\n']) := by
  cases h with
  | @flag u v ht hu =>
    have hin : ∀ c ∈ u, inWord c := fun c hc => hw.inWord c (List.mem_append_left _ hc)
    have hhead : u.head? ≠ some '\r' := by
      cases u with
      | nil => simp
      | cons c u => exact hw.head_ne
    have hopens : ¬ OpensComment (significant u) := by
      intro h
      apply hw.not_comment
      rw [significant_append]
      exact h.append _
    have hrun := run_word hr p hin (fun _ => hu) hhead hopens
    obtain ⟨q, hq⟩ := lexemes_flag hr ht (significant u).reverse p (p.past u)
      (v ++ (rest ++ ['\n']))
    refine ⟨q, ?_⟩
    rw [List.append_assoc, List.cons_append, lexemes_of_run hrun, hq, List.reverse_reverse,
      List.append_assoc]
    rfl
  | label hi hcolon =>
    obtain ⟨q, hq⟩ := lexemes_leadingWord hr p hw hcolon
    rw [Resume.kindOf, if_pos hi] at hq
    exact ⟨q, hq⟩
  | word hi hcolon =>
    obtain ⟨q, hq⟩ := lexemes_leadingWord hr p hw hcolon
    rw [Resume.kindOf, if_neg hi] at hq
    exact ⟨q, hq⟩

/-- A piece that is cut off a text is what the scanner finds there, and behind it the scanner is
ready for the next one. -/
theorem lexemes_cuts (hr : r.Coherent) (p : Position) {cs rest : List Char} {x : Piece}
    (h : Cuts r cs x rest) :
    ∃ q, (ready r p).lexemes (cs ++ ['\n']) =
      x.lexemes ++ (ready (x.after r) q).lexemes (rest ++ ['\n']) := by
  cases h with
  | @line v hv body =>
    obtain ⟨q, hq⟩ := lexemes_line r ((p.past ('/' :: v)).advance '/') body
    refine ⟨q, ?_⟩
    rw [List.append_assoc, lexemes_of_run (run_slash hr p hv), List.cons_append,
      lexemes_of_step step_within_lineOpener, hq]
    rfl
  | @block v text hv ht =>
    obtain ⟨q, hq⟩ := lexemes_block r ((p.past ('/' :: v)).advance '*') ht (rest ++ ['\n'])
    refine ⟨q, ?_⟩
    rw [List.append_assoc, lexemes_of_run (run_slash hr p hv), List.cons_append,
      lexemes_of_step step_within_blockOpener, List.append_assoc, List.cons_append,
      List.cons_append, hq]
    rfl
  | unclosed hv hb =>
    refine ⟨p, ?_⟩
    rw [List.append_assoc, lexemes_of_run (run_slash hr p hv), List.cons_append,
      lexemes_of_step step_within_blockOpener, lexemes_unclosed r _ hb, List.nil_append,
      lexemes_newline]
    rfl
  | word hw h =>
    rw [List.append_assoc]
    exact lexemes_cutsWord hr p hw h

/-- In any context that can arise, the scanner and the reading by pieces find the same. -/
theorem lexemes_ready (hr : r.Coherent) (p : Position) (cs : List Char) :
    (ready r p).lexemes (cs ++ ['\n']) = (pieces r cs).flatMap Piece.lexemes := by
  have hsplit := List.takeWhile_append_dropWhile (p := Text.isBlank) (l := cs)
  have hb : ∀ b ∈ cs.takeWhile Text.isBlank, Text.isBlank b := fun _ h => List.mem_takeWhile_imp h
  fun_induction pieces r cs generalizing p with
  | case1 r cs h =>
    rw [← hsplit, h, List.append_nil, lexemes_blanks p hb, lexemes_newline]
    rfl
  | case2 r cs c rest h ih =>
    obtain ⟨q, hq⟩ := lexemes_cuts hr (p.past (cs.takeWhile Text.isBlank))
      (cuts_cut r (not_of_dropWhile_eq_cons h) rest)
    rw [← hsplit, h, List.append_assoc, lexemes_blanks p hb, hq,
      ih (Piece.coherent_after hr _) q List.takeWhile_append_dropWhile
        fun _ h => List.mem_takeWhile_imp h]
    rfl

end Scanner

/-- The scanner refines the reading by pieces: whatever the text, it finds the lexemes of the
text's pieces. -/
theorem lexemes_eq_pieces (source : String) :
    lexemes source = (pieces .initial source.toList).flatMap Piece.lexemes := by
  rw [Scanner.lexemes_eq]
  exact Scanner.lexemes_ready Resume.coherent_initial .origin source.toList

end ZyxtLexer
