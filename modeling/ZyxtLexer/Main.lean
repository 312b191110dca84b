import ZyxtLexer.Command.Run

/-! The program: it looks up the paths that a command may read and the filter that the environment
names, performs the command and writes what comes of it. -/
open ZyxtLexer

def ZyxtLexer.reasonOf : IO.Error → String
  | .permissionDenied _ code details | .resourceExhausted _ code details
  | .inappropriateType _ code details | .noSuchThing _ code details
  | .hardwareFault code details | .unsupportedOperation code details
  | .resourceBusy code details | .otherError code details =>
    details ++ " (os error " ++ toString code ++ ")"
  | e => toString e

/-- What a path leads to in the file system. Where the path itself cannot be followed, it leads to
nothing. -/
def ZyxtLexer.lookUp (path : String) : IO (Option Entry) := do
  let .ok path ← (IO.FS.realPath path).toBaseIO | return none
  match ← (IO.FS.Handle.mk path .read).toBaseIO with
  | .error e => return some (.unreadable false (reasonOf e))
  | .ok handle =>
    match ← handle.readBinToEnd.toBaseIO with
    | .ok bytes => return some (.file bytes.toList)
    | .error (.inappropriateType ..) => return some .directory
    | .error e => return some (.unreadable true (reasonOf e))

def main (arguments : List String) : IO UInt32 := do
  let request := Request.ofArguments? arguments
  let paths := match request with
    | some (.invoke i) => i.paths
    | _ => []
  let entries ← paths.mapM fun path => do return (path, ← lookUp path)
  let files (path : String) : Option Entry := (entries.lookup path).join
  let envFilter ← IO.getEnv "RUST_LOG"
  let started ← IO.monoNanosNow
  let result := request.map fun r => r.perform files envFilter
  let finished ← IO.monoNanosNow
  let elapsed := toString ((finished - started) / 1000)
  let outcome := match request, result with
    | some r, some result => Outcome.ofResult elapsed (r.notices files envFilter) result
    | _, _ => Outcome.misused
  IO.print outcome.output
  for message in outcome.messages do
    IO.eprintln message
  return UInt32.ofNat outcome.status
