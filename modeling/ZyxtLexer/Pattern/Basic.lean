import ZyxtLexer.Text.Classes

/-! The parts of a pattern: its flags, its symbols and its brackets.

A list of letters switches flags on, or off if a minus sign stands before the letter; each letter
and the sign may come once, and the sign not at the end.

A symbol is a literal character, a sort of characters such as the digits, or an edge, where
something begins or ends. All but literals are written with a backslash.

A bracket is a set of characters, made up of literals, ranges, sorts and nested brackets, which can
be intersected, subtracted and so on. Only its depth is kept. -/
namespace ZyxtLexer.Pattern
open Text

structure Flags where
  /-- A letter stands for both of its cases. -/
  anyCase : Bool := false
  /-- The pattern is about characters, and otherwise about bytes. -/
  unicode : Bool := true
  /-- Blanks and comments in the pattern stand for nothing. -/
  spaced : Bool := false
deriving DecidableEq

/-- What follows the blanks and the comments in front. A comment goes from a number sign to the end
of the line; the first argument says whether the text starts inside of one. -/
def dropSpace : Bool → List Char → List Char
  | _, [] => []
  | true, c :: cs => dropSpace (c != '\n') cs
  | false, c :: cs =>
    if isBlank c then dropSpace false cs
    else if c = '#' then dropSpace true cs
    else c :: cs

namespace Flags

def skip (f : Flags) (cs : List Char) : List Char := if f.spaced then dropSpace false cs else cs

/-- The character that is looked at ahead of the next one. The text of a comment counts here. -/
def ahead (f : Flags) (cs : List Char) : Option Char :=
  if f.spaced then
    match cs.dropWhile isBlank with
    | '#' :: rest => (rest.dropWhile isBlank).head?
    | rest => rest.head?
  else cs.head?

/-- Characters in both of their cases can be had for bytes only. -/
def folds (f : Flags) : Bool := f.anyCase && f.unicode

def letters : List Char := ['i', 'm', 's', 'U', 'u', 'R', 'x']

def switch (f : Flags) (list : List Char) : Flags :=
  let on := list.takeWhile (· != '-')
  let off := list.dropWhile (· != '-')
  let value (letter : Char) (before : Bool) : Bool :=
    on.contains letter || before && !off.contains letter
  { anyCase := value 'i' f.anyCase, unicode := value 'u' f.unicode, spaced := value 'x' f.spaced }

/-- Reads letters up to the colon or the parenthesis that ends the list; `list` has been read
before. -/
def readList (list : List Char) : List Char → Option (List Char × List Char)
  | [] => none
  | c :: rest =>
    if c = ':' ∨ c = ')' then
      if list.getLast? = some '-' then none else some (list, c :: rest)
    else if (c = '-' ∨ letters.contains c) ∧ !list.contains c then readList (list ++ [c]) rest
    else none

end Flags

inductive Symbol where
  /-- A character; or the byte of its number, if it is written with two digits. -/
  | literal (c : Char) (short : Bool)
  | sort (negated : Bool)
  | edge (ofWord : Bool)
deriving DecidableEq

namespace Symbol

/-- Whether the symbol can stand in a pattern. There are no tables for the cases and the sorts of
Unicode, and bytes have to add up to characters. -/
def isUsable (f : Flags) : Symbol → Bool
  | literal c short => !f.folds && (f.unicode || !short || c.toNat < 0x80)
  | sort negated => !f.unicode && !negated
  | edge _ => true

def isMember (f : Flags) : Symbol → Bool
  | literal c _ => !f.folds && (f.unicode || c.toNat < 0x80)
  | sort negated => !f.unicode && !negated
  | edge _ => false

/-- The characters for which a backslash changes nothing but that they are literals. -/
def isEscapable (c : Char) : Bool :=
  c.toNat < 0x80 && !c.isAlphanum && c != '<' && c != '>'

def hexDigit? (c : Char) : Option Nat :=
  let n := c.toNat
  if 0x30 ≤ n ∧ n ≤ 0x39 then some (n - 0x30)
  else if 0x41 ≤ n ∧ n ≤ 0x46 then some (n - 0x37)
  else if 0x61 ≤ n ∧ n ≤ 0x66 then some (n - 0x57)
  else none

def readNumber (f : Flags) : Nat → Nat → List Char → Option (Nat × List Char)
  | 0, value, cs => some (value, cs)
  | _ + 1, _, [] => none
  | n + 1, value, c :: rest =>
    match hexDigit? c with
    | some d => readNumber f n (value * 16 + d) (f.skip rest)
    | none => none

def readNumbered (f : Flags) (digits : Nat) (cs : List Char) : Option (Symbol × List Char) :=
  match readNumber f digits 0 (f.skip cs) with
  | some (value, rest) =>
    if value.isValidChar then some (literal (Char.ofNat value) (digits == 2), rest) else none
  | none => none

/-- Reads what follows a backslash. -/
def read (f : Flags) : List Char → Option (Symbol × List Char)
  | [] => none
  | c :: rest =>
    match c with
    | 'x' => readNumbered f 2 rest
    | 'u' => readNumbered f 4 rest
    | 'U' => readNumbered f 8 rest
    | 'd' | 's' | 'w' => some (sort false, rest)
    | 'D' | 'S' | 'W' => some (sort true, rest)
    | 'a' => some (literal '\x07' false, rest)
    | 'f' => some (literal '\x0c' false, rest)
    | 't' => some (literal '\t' false, rest)
    | 'n' => some (literal '\n' false, rest)
    | 'r' => some (literal '\r' false, rest)
    | 'v' => some (literal '\x0b' false, rest)
    | 'A' | 'z' => some (edge false, rest)
    | 'b' | 'B' | '<' | '>' => some (edge true, rest)
    | c => if isEscapable c then some (literal c false, rest) else none

end Symbol

/-- The depth of things side by side: one of them alone is as deep as it is, and several are one
level deeper than the deepest. -/
def together : List Nat → Nat
  | [] => 0
  | [d] => d
  | ds => ds.foldl Nat.max 0 + 1

/-- A bracket that is still open: the depth of what is left of its last operator, and of its members
from there on. At its opening a bracket and a minus sign are literals. -/
structure Bracket where
  operand : Option Nat := none
  members : List Nat := []
  opening : Bool := true
deriving DecidableEq

namespace Bracket

def depth (b : Bracket) : Nat :=
  match b.operand with
  | none => together b.members
  | some d => Nat.max d (together b.members) + 1

def insert (b : Bracket) (d : Nat) : Bracket := { b with members := d :: b.members }

/-- What is left of an operator becomes its operand. -/
def operate (b : Bracket) : Bracket := { operand := some b.depth, opening := false }

def sortNames : List String :=
  ["alnum", "alpha", "ascii", "blank", "cntrl", "digit", "graph", "lower", "print", "punct",
    "space", "upper", "word", "xdigit"]

/-- Reads the name of a sort between colons, after the bracket that opens it, and tells whether the
sort is negated. -/
def readSort? (cs : List Char) : Option (Bool × List Char) :=
  let named (negated : Bool) (cs : List Char) : Option (Bool × List Char) :=
    match cs.dropWhile (· != ':') with
    | ':' :: ']' :: rest =>
      if sortNames.contains (String.ofList (cs.takeWhile (· != ':'))) then some (negated, rest)
      else none
    | _ => none
  match cs with
  | ':' :: '^' :: rest => named true rest
  | ':' :: rest => named false rest
  | _ => none

def isSortUsable (f : Flags) (negated : Bool) : Bool := !f.folds && (f.unicode || !negated)

def readSymbol (f : Flags) : List Char → Option (Symbol × List Char)
  | [] => none
  | '\\' :: rest => Symbol.read f rest
  | c :: rest => some (.literal c false, rest)

/-- Reads a member: a symbol, or a range from one literal to another that does not lie before it.
A minus sign is a literal if the bracket closes or another minus sign follows. -/
def readMember (f : Flags) (cs : List Char) : Option (List Char) := do
  let (first, rest) ← readSymbol f cs
  match f.skip rest with
  | [] => none
  | '-' :: after =>
    if f.ahead after = some ']' ∨ f.ahead after = some '-' then
      if first.isMember f then some ('-' :: after) else none
    else
      let (last, rest) ← readSymbol f (f.skip after)
      match first, last with
      | .literal a _, .literal z _ =>
        if first.isMember f ∧ last.isMember f ∧ a.toNat ≤ z.toNat then some rest else none
      | _, _ => none
  | rest => if first.isMember f then some rest else none

end Bracket

end ZyxtLexer.Pattern
