import ZyxtLexer.Decimal.Shortest
import ZyxtLexer.Token.Basic
import ZyxtLexer.Text.Quoted

/-! Why a JSON text is refused, and where. The text is read as bytes. A fault remembers which
bytes were not consumed, so the places of all faults come from one rule. -/
namespace ZyxtLexer.Json

/-- Bytes still to be read, the next one first. -/
abbrev Bytes := List UInt8

def bytesOf (s : String) : Bytes := s.toList.flatMap String.utf8EncodeChar

/-- A value that was found where another type was expected. -/
inductive Found where
  | null
  | boolean (b : Bool)
  | integer (i : Int)
  | float (x : Decimal)
  | string (s : String)
  | sequence
  | map
deriving DecidableEq

def Found.text : Found → String
  | null => "null"
  | boolean b => "boolean `" ++ toString b ++ "`"
  | integer i => "integer `" ++ toString i ++ "`"
  | float x => "floating point `" ++ x.text ++ "`"
  | string s => "string " ++ Text.quoted s
  | sequence => "sequence"
  | map => "map"

inductive Cause where
  | endInValue
  | endInString
  | endInList
  | endInObject
  | expectedValue
  | expectedIdent
  | expectedColon
  | expectedListCommaOrEnd
  | expectedObjectCommaOrEnd
  | keyMustBeString
  | trailingComma
  | trailingCharacters
  | invalidNumber
  | numberOutOfRange
  | invalidEscape
  | controlCharacter
  | unpairedSurrogate
  | missingSurrogate
  | invalidCodePoint
  | wrongType (found : Found) (expected : String)
  | duplicateField (name : String)
  | unknownVariant (name : String) (expected : String)
deriving DecidableEq

def Cause.message : Cause → String
  | endInValue => "EOF while parsing a value"
  | endInString => "EOF while parsing a string"
  | endInList => "EOF while parsing a list"
  | endInObject => "EOF while parsing an object"
  | expectedValue => "expected value"
  | expectedIdent => "expected ident"
  | expectedColon => "expected `:`"
  | expectedListCommaOrEnd => "expected `,` or `]`"
  | expectedObjectCommaOrEnd => "expected `,` or `\x7d`"
  | keyMustBeString => "key must be a string"
  | trailingComma => "trailing comma"
  | trailingCharacters => "trailing characters"
  | invalidNumber => "invalid number"
  | numberOutOfRange => "number out of range"
  | invalidEscape => "invalid escape"
  | controlCharacter => "control character (\\u0000-\\u001F) found while parsing a string"
  | unpairedSurrogate => "lone leading surrogate in hex escape"
  | missingSurrogate => "unexpected end of hex escape"
  | invalidCodePoint => "invalid unicode code point"
  | wrongType found expected => "invalid type: " ++ found.text ++ ", expected " ++ expected
  | duplicateField name => "duplicate field `" ++ name ++ "`"
  | unknownVariant name expected => "unknown variant `" ++ name ++ "`, expected " ++ expected

/-- Where a fault lies, seen from the first byte that was not consumed. -/
inductive Place where
  /-- Just before that byte. -/
  | here
  /-- Just before that byte, which had been looked at. -/
  | seen
  /-- Just after that byte. -/
  | ahead
  /-- So many columns before that byte. -/
  | back (columns : Nat)
deriving DecidableEq

structure Fault where
  cause : Cause
  place : Place
  rest : Bytes
deriving DecidableEq

/-- Where the bytes come from. A byte of a stream has to be taken before it can be looked at. -/
inductive Source where
  | memory
  | stream
deriving DecidableEq

/-- The place after `bs`: lines from one, and the bytes since the latest newline. -/
def placeAfter (bs : Bytes) : Position :=
  bs.foldl (fun p b => if b = '\n'.toUInt8 then ⟨p.line + 1, 0⟩ else ⟨p.line, p.column + 1⟩) ⟨1, 0⟩

namespace Fault

def left (f : Fault) (source : Source) : Bytes :=
  match f.place, source with
  | .here, _ | .back _, _ | .seen, .memory => f.rest
  | .seen, .stream | .ahead, _ => f.rest.tail

def offset (f : Fault) (source : Source) (whole : Bytes) : Nat :=
  whole.length - (f.left source).length

def position (f : Fault) (source : Source) (whole : Bytes) : Position :=
  let p := placeAfter (whole.take (f.offset source whole))
  match f.place with
  | .back columns => ⟨p.line, p.column - columns⟩
  | .here | .seen | .ahead => p

end Fault

def refuse {α : Type} (cause : Cause) (place : Place) (rest : Bytes) : Except Fault α :=
  .error ⟨cause, place, rest⟩

theorem bind_eq_ok {ε α β : Type} {x : Except ε α} {f : α → Except ε β} {b : β} :
    (x >>= f) = .ok b ↔ ∃ a, x = .ok a ∧ f a = .ok b := by
  cases x <;> simp [bind, Except.bind]

end ZyxtLexer.Json
