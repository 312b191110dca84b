import ZyxtLexer.Text.Quoted
import ZyxtLexer.Token.Basic

/-! How tokens are written: one by one for a reader, one to a line, or as a JSON list. -/
namespace ZyxtLexer

inductive OutputFormat where
  /-- One token to a line. -/
  | debug
  /-- A JSON list with an object for each token. -/
  | json
deriving DecidableEq

namespace OutputFormat

def all : List OutputFormat := [debug, json]

def name : OutputFormat → String
  | debug => "debug"
  | json => "json"

def ofName? (s : String) : Option OutputFormat := all.find? fun f => f.name = s

theorem ofName?_name (f : OutputFormat) : ofName? f.name = some f := by cases f <;> decide

end OutputFormat

namespace Token

def display (t : Token) : String :=
  t.kind.name ++ " " ++ Text.quoted t.value ++ " at " ++ toString t.pos

/-- A token as a line of a listing, without the newline. -/
def debug (t : Token) : String :=
  "Token \x7b value: " ++ Text.quoted t.value ++ ", kind: " ++ t.kind.name
    ++ ", line: " ++ toString t.pos.line ++ ", column: " ++ toString t.pos.column ++ " \x7d"

/-- The members of the object that stands for a token: names and written values, in order. -/
def members (t : Token) : List (String × String) :=
  [("value", Json.quoted t.value), ("kind", Json.quoted t.kind.name),
    ("line", toString t.pos.line), ("column", toString t.pos.column)]

/-- A token as a JSON object without blanks. -/
def json (t : Token) : String :=
  "\x7b" ++ ",".intercalate (t.members.map fun m => Json.quoted m.1 ++ ":" ++ m.2) ++ "\x7d"

/-- A token as an element of a JSON list with one member to a line. -/
def jsonLines (t : Token) : String :=
  "  \x7b\n"
    ++ ",\n".intercalate (t.members.map fun m => "    " ++ Json.quoted m.1 ++ ": " ++ m.2)
    ++ "\n  \x7d"

end Token

def listing : OutputFormat → List Token → String
  | .debug, ts => String.join (ts.map fun t => t.debug ++ "\n")
  | .json, [] => "[]\n"
  | .json, ts => "[\n" ++ ",\n".intercalate (ts.map Token.jsonLines) ++ "\n]\n"

end ZyxtLexer
