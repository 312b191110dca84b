import ZyxtLexer.Config.Basic

/-! What a command line asks for. Options may stand on both sides of the word that says what to
do, each once on a side; what stands after the word counts more. -/
namespace ZyxtLexer

inductive Verb where
  | run
  | compile
  | interpret
  | version
deriving DecidableEq

namespace Verb

def all : List Verb := [run, compile, interpret, version]

def name : Verb → String
  | run => "run"
  | compile => "compile"
  | interpret => "interpret"
  | version => "version"

def ofName? (s : String) : Option Verb := all.find? fun v => v.name = s

theorem ofName?_name (v : Verb) : ofName? v.name = some v := by cases v <;> decide

def takesFile : Verb → Bool
  | run | compile | interpret => true
  | version => false

end Verb

structure Options where
  config : Option String := none
  verbose : Bool := false
  format : Option OutputFormat := none
  timings : Bool := false
deriving DecidableEq

structure Invocation where
  verb : Verb
  file : Option String := none
  config : String := Config.defaultPath
  verbose : Bool := false
  format : Option OutputFormat := none
  timings : Bool := false
deriving DecidableEq

inductive Request where
  | invoke (invocation : Invocation)
  | showVersion
  | showHelp
deriving DecidableEq

inductive Valued where
  | config
  | format
deriving DecidableEq

namespace Valued

/-- Records the value of an option, unless the option has one or the value is none for it. -/
def record (v : Valued) (o : Options) (value : String) : Option Options :=
  match v with
  | config => if o.config.isSome ∨ value = "" then none else some { o with config := some value }
  | format =>
    if o.format.isSome then none
    else (OutputFormat.ofName? value).map fun f => { o with format := some f }

end Valued

namespace Options

def recordVerbose (o : Options) : Option Options :=
  if o.verbose then none else some { o with verbose := true }

def recordTimings (o : Options) : Option Options :=
  if o.timings then none else some { o with timings := true }

def invocation (before after : Options) (verb : Verb) (file : Option String) : Invocation where
  verb
  file
  config := (after.config <|> before.config).getD Config.defaultPath
  verbose := before.verbose || after.verbose
  format := after.format <|> before.format
  timings := before.timings || after.timings

end Options

inductive Progress where
  | options (o : Options)
  /-- The value of the option is the next argument. -/
  | await (o : Options) (option : Valued)
  | answer (request : Request)
deriving DecidableEq

namespace Arguments

/-- Whether an argument is neither an option nor the end of the options. -/
def isWord (argument : String) : Bool :=
  argument = "-" || argument.toList.head? ≠ some '-'

def takeValue (v : Valued) (o : Options) : Option String → Option Progress
  | some s => (v.record o s).map .options
  | none => some (.await o v)

def takeNone (p : Option Progress) : Option String → Option Progress
  | some _ => none
  | none => p

/-- An option after two dashes. The version is asked for only before the verb. -/
def readLong (atTop : Bool) (o : Options) (name : String) (value : Option String) :
    Option Progress :=
  match name with
  | "config" => takeValue .config o value
  | "format" => takeValue .format o value
  | "verbose" => takeNone (o.recordVerbose.map .options) value
  | "timings" => takeNone (o.recordTimings.map .options) value
  | "help" => takeNone (some (.answer .showHelp)) value
  | "version" => takeNone (if atTop then some (.answer .showVersion) else none) value
  | _ => none

/-- The letters after a single dash. The value of `c` is the rest of them, or the next argument. -/
def readLetters (atTop : Bool) (o : Options) : List Char → Option Progress
  | [] => some (.options o)
  | 'v' :: rest => o.recordVerbose.bind fun o => readLetters atTop o rest
  | 'h' :: _ => some (.answer .showHelp)
  | 'V' :: _ => if atTop then some (.answer .showVersion) else none
  | ['c'] => some (.await o .config)
  | 'c' :: '=' :: value => (Valued.config.record o (String.ofList value)).map .options
  | 'c' :: value => (Valued.config.record o (String.ofList value)).map .options
  | _ => none

def readOption (atTop : Bool) (o : Options) (argument : String) : Option Progress :=
  match argument.toList with
  | '-' :: '-' :: body =>
    let name := body.takeWhile (· ≠ '=')
    let value := body.drop (name.length + 1)
    readLong atTop o (String.ofList name)
      (if name.length < body.length then some (String.ofList value) else none)
  | '-' :: letters => readLetters atTop o letters
  | _ => none

/-- The arguments after the verb, once the options have ended: at most the file. -/
def readFile (before after : Options) (verb : Verb) : Option String → List String → Option Request
  | file, [] => some (.invoke (before.invocation after verb file))
  | none, [file] =>
    if verb.takesFile ∧ file ≠ "" then some (.invoke (before.invocation after verb (some file)))
    else none
  | _, _ => none

def readAfter (before : Options) (verb : Verb) :
    Options → Option String → List String → Option Request
  | after, file, [] => some (.invoke (before.invocation after verb file))
  | after, file, argument :: rest =>
    if isWord argument then
      if verb.takesFile ∧ file = none ∧ argument ≠ "" then
        readAfter before verb after (some argument) rest
      else none
    else if argument = "--" then readFile before after verb file rest
    else
      match readOption false after argument, rest with
      | none, _ => none
      | some (.options o), rest => readAfter before verb o file rest
      | some (.answer request), _ => some request
      | some (.await _ _), [] => none
      | some (.await o option), value :: rest =>
        if isWord value then
          (option.record o value).bind fun o => readAfter before verb o file rest
        else none

def readHelp : List String → Option Request
  | [] => some .showHelp
  | [word] => if (Verb.ofName? word).isSome ∨ word = "help" then some .showHelp else none
  | _ => none

def verbFirst : List String → Bool
  | [] => false
  | argument :: _ => (Verb.ofName? argument).isSome || argument = "help"

/-- The arguments up to the verb. A value that stands right before the verb is judged last: if help
is asked for behind the verb it is given, whatever the value. -/
def readBefore : Options → List String → Option Request
  | _, [] => none
  | before, argument :: rest =>
    match Verb.ofName? argument with
    | some verb => readAfter before verb {} none rest
    | none =>
      if argument = "help" then readHelp rest
      else if isWord argument ∨ argument = "--" then none
      else
        match readOption true before argument, rest with
        | none, _ => none
        | some (.options o), rest => readBefore o rest
        | some (.answer request), _ => some request
        | some (.await _ _), [] => none
        | some (.await o option), value :: rest =>
          if isWord value then
            match option.record o value with
            | some o => readBefore o rest
            | none =>
              if verbFirst rest then (readBefore o rest).filter (· = .showHelp) else none
          else none

end Arguments

def Request.ofArguments? (arguments : List String) : Option Request :=
  Arguments.readBefore {} arguments

end ZyxtLexer
