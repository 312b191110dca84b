/-! What can go wrong on the way from a command line to a listing. Tokenizing cannot fail; getting
a text and writing its tokens can. -/
namespace ZyxtLexer

inductive Failure where
  | noFile
  | fileNotFound (path : String)
  /-- The file is there, but no text could be read from it. -/
  | unreadable (path : String) (reason : String)
  | config (message : String)
  | output (message : String)
deriving DecidableEq

namespace Failure

/-- A stable code: `0.x` for faults of the command line, `1.x` for those of files. -/
def code : Failure → String
  | noFile => "0.1"
  | fileNotFound _ => "1.0"
  | unreadable _ _ => "1.1"
  | config _ => "1.2"
  | output _ => "1.3"

def message : Failure → String
  | noFile => "No file given"
  | fileNotFound path => "File `" ++ path ++ "` does not exist"
  | unreadable path reason => "File `" ++ path ++ "` cannot be opened: " ++ reason
  | config message => "Config error: " ++ message
  | output message => "Output error: " ++ message

def source? : Failure → Option String
  | unreadable _ reason => some reason
  | noFile | fileNotFound _ | config _ | output _ => none

def report (f : Failure) : String := "Error: [" ++ f.code ++ "] " ++ f.message

end Failure
end ZyxtLexer
