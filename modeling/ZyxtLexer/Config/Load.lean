import ZyxtLexer.Config.Fetch
import ZyxtLexer.Directory
import ZyxtLexer.Failure

/-! Settings from a text in memory or from a file, which is read as a stream. Both are read by the
same rules; only what is said of a fault differs. -/
namespace ZyxtLexer

open Json

inductive LoadError where
  | missing
  | directory
  | unreadable (opened : Bool) (reason : String)
  | malformed (source : Source) (cause : Cause) (pos : Position)
deriving DecidableEq

namespace LoadError

def message : LoadError → String
  | missing => "Failed to open config file: No such file or directory (os error 2)"
  | directory => "Failed to parse config file: Is a directory (os error 21)"
  | unreadable false reason => "Failed to open config file: " ++ reason
  | unreadable true reason => "Failed to parse config file: " ++ reason
  | malformed source cause pos =>
    (match source with
      | .memory => "Failed to parse config: "
      | .stream => "Failed to parse config file: ")
      ++ cause.message ++ " at line " ++ toString pos.line ++ " column " ++ toString pos.column

def failure (e : LoadError) : Failure := .config e.message

end LoadError

def readFrom {α : Type} (source : Source) (read : Bytes → Except Fault (α × Bytes)) (bs : Bytes) :
    Except LoadError α :=
  match readWhole read bs with
  | .ok a => .ok a
  | .error fault => .error (.malformed source fault.cause (fault.position source bs))

def readFromText {α : Type} (read : Bytes → Except Fault (α × Bytes)) (text : String) :
    Except LoadError α :=
  readFrom .memory read (bytesOf text)

/-- A reader that reads from a stream too, and finds there what it finds in memory. -/
class Streamed {α : Type} (read : Bytes → Except Fault (α × Bytes)) where
  fetch : Stream → Except Fault (α × Stream)
  agree : ∀ s, Agree (Same Unread) (fetch s) (read s.unread)

instance : Streamed Config.read := ⟨Config.fetch, Config.agree_fetch⟩

instance : Streamed OutputFormat.read where
  fetch := OutputFormat.fetch
  agree s := (OutputFormat.agree_fetch s).mono fun _ _ h => ⟨h.1, h.2.unread⟩

def readFromFile {α : Type} (read : Bytes → Except Fault (α × Bytes)) [Streamed read]
    (entry : Option Entry) : Except LoadError α :=
  match entry with
  | none => .error .missing
  | some .directory => .error .directory
  | some (.unreadable opened reason) => .error (.unreadable opened reason)
  | some (.file bs) =>
    match Stream.readWhole (Streamed.fetch read) bs with
    | .ok a => .ok a
    | .error fault => .error (.malformed .stream fault.cause (fault.position .stream bs))

/-- The settings in a file, or the defaults where there is none. -/
def Config.load (entry : Option Entry) : Except LoadError Config :=
  match entry with
  | none => .ok {}
  | some e => readFromFile Config.read (some e)

end ZyxtLexer
