import ZyxtLexer.Proofs.Scanner.Reached

/-! Comments are transparent. One that stands between words brings forth its own tokens and moves
those behind it, of which it changes neither the kinds nor the values. -/
namespace ZyxtLexer

inductive Comment where
  | line (body : String)
  | block (body : String)
deriving DecidableEq

namespace Comment

def opener : Comment → Lexeme
  | line _ => ⟨.commentStart, "//"⟩
  | block _ => ⟨.multilineCommentStart, "/*"⟩

def body : Comment → String
  | line body | block body => body

def closer : Comment → Lexeme
  | line _ => ⟨.commentEnd, "\n"⟩
  | block _ => ⟨.multilineCommentEnd, "*/"⟩

def text (c : Comment) : String := c.opener.value ++ c.body ++ c.closer.value

/-- The comment ends with its text, since nothing closes it before. -/
def Closed (c : Comment) : Prop := ¬ c.closer.value.toList <:+: c.body.toList

def tokens (c : Comment) (p : Position) : List Token :=
  [⟨c.opener, p⟩, ⟨⟨.comment, c.body⟩, p.past c.opener.value.toList⟩,
    ⟨c.closer, p.past (c.opener.value ++ c.body).toList⟩]

end Comment

namespace Scanner

theorem step_ready_slash (r : Resume) (p : Position) :
    (ready r p).step '/' = ([], within r ['/'] p (p.advance '/')) := by
  rw [ready, step_within, readCode, if_neg (by decide), if_neg (by simp), if_neg (by decide),
    if_neg (by simp [within]), if_neg (by simp [within])]
  rfl

theorem run_line_comment (r : Resume) (p : Position) {body : List Char} (h : '\n' ∉ body) :
    (ready r p).run ('/' :: '/' :: (body ++ ['\n'])) =
      ([.emit ⟨⟨.commentStart, "//"⟩, p⟩,
        .emit ⟨⟨.comment, String.ofList body⟩, p.past ['/', '/']⟩,
        .emit ⟨⟨.commentEnd, "\n"⟩, p.past ('/' :: '/' :: body)⟩],
        ready r (p.past ('/' :: '/' :: (body ++ ['\n'])))) := by
  rw [run_cons, step_ready_slash, run_cons, step_within_lineOpener, run_concat, run_line_text h]
  simp only [step_inLine_newline, List.append_nil, List.reverse_reverse, Position.past_cons,
    Position.past_append]
  rfl

theorem run_block_comment (r : Resume) (p : Position) {body : List Char}
    (h : ¬ ['*', '/'] <:+: body) :
    (ready r p).run ('/' :: '*' :: (body ++ ['*', '/'])) =
      ([.emit ⟨⟨.multilineCommentStart, "/*"⟩, p⟩,
        .emit ⟨⟨.comment, String.ofList body⟩, p.past ['/', '*']⟩,
        .emit ⟨⟨.multilineCommentEnd, "*/"⟩, p.past ('/' :: '*' :: body)⟩],
        ready r (p.past ('/' :: '*' :: (body ++ ['*', '/'])))) := by
  have hstar : ¬ ['*', '/'] <:+: ([] : List Char).reverse ++ (body ++ ['*']) :=
    mt (closer_infix_concat (by decide)).1 h
  have hheld : (body ++ ['*']).reverse ++ [] = '*' :: body.reverse := by simp
  have hleft : ((p.past ('/' :: '*' :: body)).advance '*').left = p.past ('/' :: '*' :: body) :=
    Position.left_advance (by decide)
      (Position.one_le_column_past (Position.one_le_column_advance _ '*') body)
  have hsplit : body ++ ['*', '/'] = (body ++ ['*']) ++ ['/'] := by simp
  rw [run_cons, step_ready_slash, run_cons, step_within_blockOpener, hsplit, run_concat,
    run_block_text hstar, hheld]
  simp only [step_inBlock_closer, List.reverse_reverse, Position.past_cons, Position.past_append]
    at hleft ⊢
  rw [Position.past_nil, hleft]
  rfl

/-- A closed comment brings forth its own tokens, and behind it the scanner goes on as before. -/
theorem run_comment (r : Resume) (p : Position) {c : Comment} (h : c.Closed) :
    (ready r p).run c.text.toList =
      ((c.tokens p).map .emit, ready r (p.past c.text.toList)) := by
  cases c with
  | line body =>
    have hbody : '\n' ∉ body.toList := by
      intro hm
      obtain ⟨u, v, huv⟩ := List.mem_iff_append.1 hm
      exact h ⟨u, v, by simp [Comment.closer, Comment.body, huv]⟩
    have htext : (Comment.line body).text.toList = '/' :: '/' :: (body.toList ++ ['\n']) := by
      simp [Comment.text, Comment.opener, Comment.body, Comment.closer]
    rw [htext, run_line_comment r p hbody, String.ofList_toList]
    simp [Comment.tokens, Comment.opener, Comment.body, Comment.closer]
  | block body =>
    have hbody : ¬ ['*', '/'] <:+: body.toList := by
      simpa [Comment.Closed, Comment.closer, Comment.body] using h
    have htext : (Comment.block body).text.toList = '/' :: '*' :: (body.toList ++ ['*', '/']) := by
      simp [Comment.text, Comment.opener, Comment.body, Comment.closer]
    rw [htext, run_block_comment r p hbody, String.ofList_toList]
    simp [Comment.tokens, Comment.opener, Comment.body, Comment.closer]

end Scanner

open Scanner

/-- A comment between words, whatever it holds and wherever it stands, leaves the tokens before it
alone and of those behind it only moves the places. -/
theorem tokenize_insert_comment (p q : String) (hm : (after p.toList).mode.endsWords)
    (hh : (after p.toList).held = []) :
    ∃ rest, tokenize (p ++ q) = tokens {} p.toList ++ rest ∧
      ∀ c : Comment, c.Closed → ∃ rest',
        tokenize (p ++ c.text ++ q) =
          tokens {} p.toList ++ c.tokens (after p.toList).cursor ++ rest' ∧
        rest'.map Token.toLexeme = rest.map Token.toLexeme := by
  have hready := after_eq_ready hm hh
  generalize hcur : (after p.toList).cursor = cur at hready ⊢
  generalize (after p.toList).context = r at hready
  refine ⟨(ready r cur).tokens (closed q), ?_, fun c hc => ?_⟩
  · rw [tokenize_append, hready]
  have hrun := run_comment r cur hc
  have hmove := tokens_move (movable_ready r cur (cur.past c.text.toList)) (closed q)
  rw [move_ready] at hmove
  refine ⟨(ready r (cur.past c.text.toList)).tokens (closed q), ?_, ?_⟩
  · have htokens : (ready r cur).tokens c.text.toList = c.tokens cur := by
      rw [tokens, hrun, filterMap_token_emit]
    rw [String.append_assoc, tokenize_append, hready, closed_append, tokens_append, htokens, hrun,
      List.append_assoc]
  · simp only [hmove, List.map_map, Function.comp_def, Token.toLexeme_move]

/-- A comment within a flag, whose body holds what would mean something elsewhere. -/
theorem tokenize_insert_comment_in_flag :
    (after ":\r\n".toList).mode.endsWords ∧ (after ":\r\n".toList).held = [] ∧
      (Comment.block "a:\r//\n*").Closed ∧
        ∃ rest rest', tokenize (":\r\n" ++ "b: c") = tokens {} ":\r\n".toList ++ rest ∧
          tokenize (":\r\n" ++ (Comment.block "a:\r//\n*").text ++ "b: c") =
            tokens {} ":\r\n".toList ++ (Comment.block "a:\r//\n*").tokens ⟨2, 1⟩ ++ rest' ∧
          rest'.map Token.toLexeme = rest.map Token.toLexeme := by
  have hclosed : (Comment.block "a:\r//\n*").Closed := by
    have hnone : ¬ ['*', '/'] <:+: ['a', ':', '\r', '/', '/', '\n', '*'] :=
      splitCloser_eq_none.1 rfl
    simpa [Comment.Closed, Comment.closer, Comment.body] using hnone
  have hcursor : (after ":\r\n".toList).cursor = ⟨2, 1⟩ := by decide
  obtain ⟨rest, hrest, h⟩ :=
    tokenize_insert_comment ":\r\n" "b: c" (by decide) (by decide)
  obtain ⟨rest', hrest', hlex⟩ := h _ hclosed
  rw [hcursor] at hrest'
  exact ⟨by decide, by decide, hclosed, rest, rest', hrest, hrest', hlex⟩

end ZyxtLexer
