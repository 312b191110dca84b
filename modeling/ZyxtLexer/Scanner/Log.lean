import ZyxtLexer.Scanner.Basic
import ZyxtLexer.Token.Listing

/-! The log of a scan: what a text was, what was found in it and what was lost. -/
namespace ZyxtLexer

inductive Level where
  | debug
  | trace
deriving DecidableEq

def Level.name : Level → String
  | debug => "DEBUG"
  | trace => "TRACE"

inductive LogEntry where
  /-- The span around all other entries, with the size of the text in bytes of UTF-8. -/
  | opened (size : Nat)
  | emitted (token : Token)
  | dropped (text : String) (colon : Position)
  /-- The text ended within a block comment that begins at `start`. -/
  | unclosed (start : Position)
  | finished (count : Nat)
deriving DecidableEq

inductive LogField where
  | number (name : String) (value : Nat)
  | text (name : String) (value : String)
deriving DecidableEq

namespace LogEntry

def ofEvent : Event → LogEntry
  | .emit t => emitted t
  | .drop text colon => dropped text colon

def message : LogEntry → String
  | opened _ => "tokenize"
  | emitted _ => "emit"
  | dropped _ _ => "text before opening flag dropped"
  | unclosed _ => "block comment not closed before end of input"
  | finished _ => "tokenized input"

def level : LogEntry → Level
  | emitted _ => .trace
  | opened _ | dropped _ _ | unclosed _ | finished _ => .debug

def fields : LogEntry → List LogField
  | opened size => [.number "len" size]
  | emitted t => [.text "token" t.display]
  | dropped text colon => [.text "text" text, .text "at" (toString colon)]
  | unclosed start => [.text "start" (toString start)]
  | finished count => [.number "count" count]

end LogEntry

/-- Everything that tokenizing `source` writes to the log, in order. -/
def scanLog (source : String) : List LogEntry :=
  [.opened source.utf8ByteSize]
    ++ (events source).map LogEntry.ofEvent
    ++ (Scanner.run {} (closed source)).2.unclosed?.toList.map LogEntry.unclosed
    ++ [.finished (tokenize source).length]

end ZyxtLexer
