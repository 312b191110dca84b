import ZyxtLexer.Token.Basic

/-! Source text for a list of lexemes. The blanks of a text are not kept in its tokens, so they
are made up anew: one space after whatever only a blank can end. -/
namespace ZyxtLexer

/-- What is written between a lexeme and the one that follows it. A label stays attached to the
colon that closes it; comments, up to the closer of a block, and flags end themselves. -/
def gap (kind : Kind) (next : Option Kind) : String :=
  match kind with
  | .commentStart | .commentEnd | .multilineCommentStart | .comment | .flag => ""
  | .flagLabel => if next = some .flag then "" else " "
  | _ => " "

/-- Writes the lexemes at the end of `out`. -/
def renderOnto (out : String) : List Lexeme → String
  | [] => out
  | x :: xs => renderOnto (out ++ x.value ++ gap x.kind (xs.head?.map Lexeme.kind)) xs

def render (xs : List Lexeme) : String := renderOnto "" xs

theorem renderOnto_eq (out : String) (xs : List Lexeme) : renderOnto out xs = out ++ render xs := by
  induction xs generalizing out with
  | nil => simp [renderOnto, render]
  | cons x xs ih => rw [render, renderOnto, renderOnto, ih, ih]; simp [String.append_assoc]

@[simp] theorem render_nil : render [] = "" := rfl

theorem render_cons (x : Lexeme) (xs : List Lexeme) :
    render (x :: xs) = x.value ++ gap x.kind (xs.head?.map Lexeme.kind) ++ render xs := by
  rw [render, renderOnto, renderOnto_eq]; simp

end ZyxtLexer
