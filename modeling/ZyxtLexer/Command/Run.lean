import ZyxtLexer.Command.Arguments
import ZyxtLexer.Config.Load
import ZyxtLexer.LogFilter.Setup
import ZyxtLexer.Scanner.Basic

/-! Carrying out a command: the settings are read first, then the log is set up as the environment
or the settings ask, then the file is read, and only then is anything written. -/
namespace ZyxtLexer

inductive Answer where
  | tokens (format : OutputFormat) (timed : Bool) (list : List Token)
  | note (line : String)
  | nothing
deriving DecidableEq

inductive Stop where
  | failed (failure : Failure)
  /-- The log could not be set up. -/
  | brokenOff
deriving DecidableEq

def versionNumber : String := "0.1.0"

/-- What is written, given the time taken in microseconds. -/
def Answer.text (elapsed : String) : Answer → String
  | tokens format timed list =>
    listing format list ++ if timed then "Lexing time: " ++ elapsed ++ "µs\n" else ""
  | note line => line ++ "\n"
  | nothing => ""

def readSource (files : String → Option Entry) (path : String) : Except Failure String :=
  match files path with
  | none => .error (.fileNotFound path)
  | some .directory => .error (.unreadable path "Is a directory (os error 21)")
  | some (.unreadable _ reason) => .error (.unreadable path reason)
  | some (.file bytes) =>
    match String.fromUTF8? bytes.toByteArray with
    | some source => .ok source
    | none => .error (.unreadable path "stream did not contain valid UTF-8")

namespace Invocation

/-- The settings `c` with what the command line says put over them. -/
def overlay (i : Invocation) (c : Config) : Config :=
  { output := i.format.getD c.output
    timings := c.timings || i.timings
    logFilter := if i.verbose then "debug" else c.logFilter }

def settings (i : Invocation) (files : String → Option Entry) : Except Failure Config :=
  match Config.load (files i.config) with
  | .error e => .error e.failure
  | .ok c => .ok (i.overlay c)

/-- The log under the settings `c` that hold for a command. Whoever wants to know more gets their
filter, whatever the environment names. -/
def logSetup (i : Invocation) (envFilter : Option String) (c : Config) : LogSetup :=
  if i.verbose then LogFilter.setUp c.logFilter else LogFilter.setUpBy envFilter c.logFilter

def answer (i : Invocation) (c : Config) (files : String → Option Entry) :
    Except Failure Answer := do
  match i.verb, i.file with
  | .run, none => throw .noFile
  | .run, some path =>
    let source ← readSource files path
    return .tokens c.output c.timings (tokenize source)
  | .compile, _ | .interpret, _ => return .note "Coming soon!"
  | .version, _ => return .note ("Zyxt version " ++ versionNumber)

/-- Carries out a command on the files that it can see, given the log filter that the environment
names, if it names one. -/
def execute (i : Invocation) (files : String → Option Entry) (envFilter : Option String) :
    Except Stop Answer := do
  let c ← (i.settings files).mapError .failed
  if (i.logSetup envFilter c).complete then (i.answer c files).mapError .failed
  else throw .brokenOff

/-- What is reported before the command is carried out: trouble with log filters, and to those who
want to know more, that there was no file with settings. Nothing else that goes into the log is
kept. -/
def notices (i : Invocation) (files : String → Option Entry) (envFilter : Option String) :
    List String :=
  match i.settings files with
  | .error _ => []
  | .ok c =>
    (i.logSetup envFilter c).notices ++
      if i.verbose ∧ files i.config = none then
        ["no config at " ++ i.config ++ ", using defaults"]
      else []

def paths (i : Invocation) : List String := i.config :: i.file.toList

end Invocation

def Request.perform (r : Request) (files : String → Option Entry) (envFilter : Option String) :
    Except Stop Answer :=
  match r with
  | .invoke i => i.execute files envFilter
  | .showVersion => .ok (.note ("zyxt " ++ versionNumber))
  | .showHelp => .ok .nothing

def Request.notices (r : Request) (files : String → Option Entry) (envFilter : Option String) :
    List String :=
  match r with
  | .invoke i => i.notices files envFilter
  | .showVersion | .showHelp => []

/-- How the program ends: its exit status, what it has written, and what it has reported, one
message after the other. -/
structure Outcome where
  status : Nat
  output : String
  messages : List String
deriving DecidableEq

namespace Outcome

/-- The end of a request, given what it has led to, what was reported before, and the time taken in
microseconds. -/
def ofResult (elapsed : String) (notices : List String) : Except Stop Answer → Outcome
  | .ok answer => ⟨0, answer.text elapsed, notices⟩
  | .error (.failed failure) => ⟨1, "", notices ++ [failure.report]⟩
  | .error .brokenOff => ⟨101, "", notices⟩

/-- The end of a program whose arguments ask for nothing that can be done. -/
def misused : Outcome := ⟨2, "", []⟩

/-- The end of the program. `envFilter` is the value of the variable `RUST_LOG`, if it is set. -/
def ofArguments (arguments : List String) (files : String → Option Entry) (elapsed : String)
    (envFilter : Option String := none) : Outcome :=
  match Request.ofArguments? arguments with
  | none => misused
  | some r => ofResult elapsed (r.notices files envFilter) (r.perform files envFilter)

end Outcome
end ZyxtLexer
