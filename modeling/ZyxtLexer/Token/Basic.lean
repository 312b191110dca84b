/-! Tokens: the closed set of their kinds, with the names under which they are printed and read,
and their places. A token is a lexeme, which is a classified piece of text, with the place of its
first character. -/
namespace ZyxtLexer

structure Position where
  line : Nat := 1
  column : Nat := 1
deriving DecidableEq

namespace Position

def origin : Position := {}

/-- The place just after `c`, for a character `c` that stands at `p`. -/
def advance (p : Position) (c : Char) : Position :=
  if c = '\n' then ⟨p.line + 1, 1⟩ else ⟨p.line, p.column + 1⟩

/-- The place just after all of `cs`, whose first character stands at `p`. -/
def past (p : Position) (cs : List Char) : Position := cs.foldl advance p

/-- One column to the left on the same line; the first column stays where it is. -/
def left (p : Position) : Position := ⟨p.line, max (p.column - 1) 1⟩

/-- Reading order: by line, then by column. -/
instance : Ord Position :=
  ⟨fun p q => (compare p.line q.line).then (compare p.column q.column)⟩

instance : ToString Position := ⟨fun p => toString p.line ++ ":" ++ toString p.column⟩

theorem advance_newline (p : Position) : p.advance '\n' = ⟨p.line + 1, 1⟩ := rfl

theorem advance_of_ne {c : Char} (h : c ≠ '\n') (p : Position) :
    p.advance c = ⟨p.line, p.column + 1⟩ := by simp [advance, h]

@[simp] theorem past_nil (p : Position) : p.past [] = p := rfl

@[simp] theorem past_cons (p : Position) (c : Char) (cs : List Char) :
    p.past (c :: cs) = (p.advance c).past cs := rfl

theorem past_append (p : Position) (cs ds : List Char) :
    p.past (cs ++ ds) = (p.past cs).past ds := by simp [past]

theorem left_advance {p : Position} {c : Char} (h : c ≠ '\n') (hp : 1 ≤ p.column) :
    (p.advance c).left = p := by
  rw [advance_of_ne h]
  cases p
  simp only [left, Nat.add_sub_cancel, Position.mk.injEq, true_and] at *
  omega

end Position

/-- What a token is. No word of the language is a `unaryOperator` or a `statementEnd`; the
latter also stands for the kind before the first token of a text. -/
inductive Kind where
  | commentStart
  | commentEnd
  | multilineCommentStart
  | multilineCommentEnd
  | comment
  | flag
  | flagLabel
  | unaryOperator
  | assignmentOperator
  | arithmeticOrBitwiseOperator
  | relationalOperator
  | logicalOperator
  | concatOperator
  | swapOperator
  | typeOperator
  | literal
  | statementEnd
  | variableName
deriving DecidableEq

namespace Kind

def all : List Kind :=
  [commentStart, commentEnd, multilineCommentStart, multilineCommentEnd, comment, flag, flagLabel,
    unaryOperator, assignmentOperator, arithmeticOrBitwiseOperator, relationalOperator,
    logicalOperator, concatOperator, swapOperator, typeOperator, literal, statementEnd, variableName]

theorem mem_all (k : Kind) : k ∈ all := by cases k <;> decide

def name : Kind → String
  | commentStart => "CommentStart"
  | commentEnd => "CommentEnd"
  | multilineCommentStart => "MultilineCommentStart"
  | multilineCommentEnd => "MultilineCommentEnd"
  | comment => "Comment"
  | flag => "Flag"
  | flagLabel => "FlagLabel"
  | unaryOperator => "UnaryOperator"
  | assignmentOperator => "AssignmentOperator"
  | arithmeticOrBitwiseOperator => "ArithmeticOrBitwiseOperator"
  | relationalOperator => "RelationalOperator"
  | logicalOperator => "LogicalOperator"
  | concatOperator => "ConcatOperator"
  | swapOperator => "SwapOperator"
  | typeOperator => "TypeOperator"
  | literal => "Literal"
  | statementEnd => "StatementEnd"
  | variableName => "Variable"

def ofName? (s : String) : Option Kind := all.find? fun k => k.name = s

theorem ofName?_name (k : Kind) : ofName? k.name = some k := by cases k <;> decide

theorem name_injective {j k : Kind} (h : j.name = k.name) : j = k :=
  Option.some.inj (by rw [← ofName?_name j, ← ofName?_name k, h])

def isComment : Kind → Bool
  | commentStart | commentEnd | multilineCommentStart | multilineCommentEnd | comment => true
  | _ => false

end Kind

structure Lexeme where
  kind : Kind
  value : String
deriving DecidableEq

structure Token extends Lexeme where
  pos : Position
deriving DecidableEq

end ZyxtLexer
