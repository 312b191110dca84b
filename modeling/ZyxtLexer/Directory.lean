import ZyxtLexer.Json.Fault

/-! The files that a command can see. A directory is a list of entries, each under a path of its
own; a path leads from the directory, step by step, to an entry or to nothing. -/
namespace ZyxtLexer

inductive Entry where
  | file (bytes : Json.Bytes)
  | directory
  /-- What is there, but cannot be opened, or be read once it is open, and why. -/
  | unreadable (opened : Bool) (reason : String)
deriving DecidableEq

/-- A location among the files: `names` lead down to it from the root, or else from a level `above`
the directory. -/
structure Location where
  rooted : Bool := false
  above : Nat := 0
  names : List (List Char) := []
deriving DecidableEq

namespace Location

def start (path : String) : Location := { rooted := path.toList.head? = some '/' }

/-- Where one step of a path leads. Nothing lies above the root. -/
def step (p : Location) (s : List Char) : Location :=
  if s = [] ∨ s = ['.'] then p
  else if s = ['.', '.'] then
    if p.names ≠ [] then { p with names := p.names.dropLast }
    else if p.rooted then p
    else { p with above := p.above + 1 }
  else { p with names := p.names ++ [s] }

/-- What the steps of a path leave behind, from the first on. -/
def passed : Location → List (List Char) → List Location
  | _, [] => []
  | p, s :: rest => p :: passed (p.step s) rest

end Location

/-- Entries under their paths. What these paths pass through is there as well. -/
abbrev Directory := List (String × Entry)

namespace Directory

def common : Directory :=
  ("/dev/null", .file []) ::
    ["/bin", "/etc", "/lib", "/proc", "/sbin", "/sys", "/tmp", "/usr", "/var"].map
      fun path => (path, .directory)

/-- The steps of a path; those between slashes that follow each other are empty. -/
def steps (path : String) : List (List Char) := path.toList.splitOn '/'

/-- Of the entries for the same location the last one holds. -/
def at? (d : Directory) (p : Location) : Option Entry :=
  if p.names = [] then some .directory
  else
    match (d.filter fun e => (steps e.1).foldl Location.step (Location.start e.1) = p).getLast? with
    | some e => some e.2
    | none =>
      if d.any fun e => p ∈ Location.passed (Location.start e.1) (steps e.1) then some .directory
      else none

/-- What the steps of a path lead to. Only from a directory can a step be taken. -/
def walk (d : Directory) : Location → List (List Char) → Option Entry
  | p, [] => d.at? p
  | p, s :: rest => if d.at? p = some .directory then d.walk (p.step s) rest else none

def longestPath : Nat := 4095

def entry? (d : Directory) (path : String) : Option Entry :=
  if path = "" ∨ longestPath < path.utf8ByteSize then none
  else walk (common ++ d) (Location.start path) (steps path)

end Directory
end ZyxtLexer
