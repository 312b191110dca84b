import ZyxtLexer.Pattern.Basic
import ZyxtLexer.Text.Classes

/-! Patterns: regular expressions that a log filter compares values with. What a pattern matches
does not matter here, but whether it is one: it has to be well formed, it must not nest too deeply,
and a machine that reads UTF-8 byte by byte must be able to follow it.

A pattern comes from between the braces of a filter, so nothing in it closes a brace. A brace that
opens a count or a name therefore makes it malformed. -/
namespace ZyxtLexer.Pattern
open Text

/-- A part of a branch. Flags that are switched for what follows cannot be repeated. -/
inductive Part where
  | flags
  | piece (depth : Nat)
deriving DecidableEq

def Part.depth : Part → Nat
  | flags => 0
  | piece d => d

structure Group where
  flags : Flags
  branch : List Part
  branches : List Nat
deriving DecidableEq

structure Reading where
  flags : Flags := {}
  names : List (List Char) := []
  /-- The parts of the branch that is being read, from the last on. -/
  branch : List Part := []
  /-- The depths of the branches beside it that have been read. -/
  branches : List Nat := []
  groups : List Group := []
  brackets : List Bracket := []
  /-- Whether there is an edge of a word in the sense of Unicode. -/
  wordEdge : Bool := false
deriving DecidableEq

namespace Reading

def branchDepth (s : Reading) : Nat := together (s.branch.map Part.depth)

def depth (s : Reading) : Nat := together (s.branchDepth :: s.branches)

def append (s : Reading) (p : Part) : Reading := { s with branch := p :: s.branch }

def enter (s : Reading) (f : Flags) : Reading :=
  { s with
    flags := f
    branch := []
    branches := []
    groups := ⟨s.flags, s.branch, s.branches⟩ :: s.groups }

def leave (s : Reading) : Option Reading :=
  match s.groups with
  | [] => none
  | g :: groups =>
    some
      { s with
        flags := g.flags
        branch := .piece (s.depth + 1) :: g.branch
        branches := g.branches
        groups }

def isName : List Char → Bool
  | [] => false
  | c :: cs =>
    (c == '_' || isAlphabetic c) &&
      cs.all fun c => c == '_' || c == '.' || c == '[' || c == ']' || isAlphanumeric c

/-- Opens a group that has a name, which no other group may have. -/
def readNamed (s : Reading) (cs : List Char) : Option (Reading × List Char) :=
  let name := cs.takeWhile (· != '>')
  match cs.dropWhile (· != '>') with
  | _ :: rest =>
    if isName name ∧ !s.names.contains name then
      some ({ s with names := name :: s.names }.enter s.flags, rest)
    else none
  | [] => none

def readGroup (s : Reading) (cs : List Char) : Option (Reading × List Char) :=
  match s.flags.skip cs with
  | '?' :: 'P' :: '<' :: rest => s.readNamed rest
  | '?' :: '<' :: rest => s.readNamed rest
  | '?' :: rest =>
    match Flags.readList [] rest with
    | some (list, ':' :: rest) => some (s.enter (s.flags.switch list), rest)
    | some (c :: list, _ :: rest) =>
      some ({ s with flags := s.flags.switch (c :: list) }.append .flags, rest)
    | _ => none
  | rest => some (s.enter s.flags, rest)

/-- Repeats the part before, or asks for a repetition to be as short as possible. -/
def readRepetition (s : Reading) (cs : List Char) : Option (Reading × List Char) :=
  match s.branch with
  | .piece d :: branch =>
    let s := { s with branch := .piece (d + 1) :: branch }
    match cs with
    | '?' :: rest => some (s, rest)
    | _ => some (s, cs)
  | _ => none

def take (s : Reading) (x : Symbol) : Option Reading :=
  if x.isUsable s.flags then
    some { s.append (.piece 0) with
      wordEdge := s.wordEdge || x == .edge true && s.flags.unicode }
  else none

/-- Opens a bracket. Negated, it would contain bytes that are no characters. -/
def readBracket (s : Reading) (cs : List Char) : Option (Reading × List Char) :=
  let s' := { s with brackets := {} :: s.brackets }
  match s.flags.skip cs with
  | '^' :: rest => if s.flags.unicode then some (s', rest) else none
  | rest => some (s', rest)

def closeBracket (s : Reading) (b : Bracket) (outer : List Bracket) : Reading :=
  match outer with
  | [] => { s.append (.piece (b.depth + 1)) with brackets := [] }
  | o :: os => { s with brackets := o.insert (b.depth + 1) :: os }

def stepOutside (s : Reading) : Char → List Char → Option (Reading × List Char)
  | '(', rest => s.readGroup rest
  | ')', rest => s.leave.map fun s => (s, rest)
  | '|', rest => some ({ s with branch := [], branches := s.branchDepth :: s.branches }, rest)
  | '[', rest => s.readBracket rest
  | '?', rest | '*', rest | '+', rest => s.readRepetition rest
  | '{', _ => none
  | '.', rest => if s.flags.unicode then some (s.append (.piece 0), rest) else none
  | '^', rest | '$', rest => some (s.append (.piece 0), rest)
  | '\\', rest => do
    let (x, rest) ← Symbol.read s.flags rest
    return (← s.take x, rest)
  | c, rest => (s.take (.literal c false)).map fun s => (s, rest)

def stepInside (s : Reading) (b : Bracket) (outer : List Bracket) :
    Char → List Char → Option (Reading × List Char)
  | '[', rest =>
    let s := { s with brackets := { b with opening := false } :: outer }
    match Bracket.readSort? rest with
    | some (negated, rest) =>
      if Bracket.isSortUsable s.flags negated then
        some ({ s with brackets := { b.insert 0 with opening := false } :: outer }, rest)
      else none
    | none => s.readBracket rest
  | ']', rest =>
    if b.opening ∧ b.members = [] then
      if s.flags.folds then none
      else some ({ s with brackets := { b.insert 0 with opening := false } :: outer }, rest)
    else some (s.closeBracket b outer, rest)
  | c, rest =>
    if b.opening ∧ c = '-' then
      if s.flags.folds then none else some ({ s with brackets := b.insert 0 :: outer }, rest)
    else if (c = '&' ∨ c = '-' ∨ c = '~') ∧ rest.head? = some c then
      some ({ s with brackets := b.operate :: outer }, rest.tail)
    else
      (Bracket.readMember s.flags (c :: rest)).map fun rest =>
        ({ s with brackets := { b.insert 0 with opening := false } :: outer }, rest)

def step (s : Reading) (c : Char) (rest : List Char) : Option (Reading × List Char) :=
  match s.brackets with
  | [] => s.stepOutside c rest
  | b :: outer => s.stepInside b outer c rest

/-- Reads to the end. A step takes a character at least, so that as many steps as there are
characters are enough, and one more to see the end. -/
def run : Nat → Reading → List Char → Option Reading
  | 0, _, _ => none
  | n + 1, s, cs =>
    match s.flags.skip cs with
    | [] => some s
    | c :: rest =>
      match s.step c rest with
      | some (s, rest) => run n s rest
      | none => none

end Reading

inductive Flaw where
  | malformed
  /-- The edges of words in the sense of Unicode cannot be seen byte by byte. -/
  | wordEdge
deriving DecidableEq

def greatestDepth : Nat := 250

def flaw? (cs : List Char) : Option Flaw :=
  match Reading.run (cs.length + 1) {} cs with
  | some s =>
    if s.groups = [] ∧ s.brackets = [] ∧ s.depth ≤ greatestDepth then
      if s.wordEdge then some .wordEdge else none
    else some .malformed
  | none => some .malformed

end ZyxtLexer.Pattern
