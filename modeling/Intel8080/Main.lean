import Intel8080.Session.Basic

/-! The program: it gives a session its arguments, the environment and the files, and passes on
what the session leaves. -/
namespace Intel8080

def ReadFailure.ofError : IO.Error → ReadFailure
  | .noFileOrDirectory .. => .missing
  | .inappropriateType _ code _ => if code = 21 then .directory else .notDirectory
  | .permissionDenied .. => .denied
  | .invalidArgument _ 36 _ => .nameTooLong
  | e => .other (toString e)

def readBytes (path : String) : IO (Except ReadFailure (List Byte)) := do
  try
    let bytes ← IO.FS.readBinFile path
    return .ok (bytes.toList.map (·.toBitVec))
  catch e => return .error (.ofError e)

def CommandLine.Command.path? : CommandLine.Command → Option String
  | .run options => some options.path
  | .disasm path _ => some path
  | _ => none

/-- Colours are forced on, or wanted on a terminal. -/
def wantsColors : IO Bool := do
  let forced ← IO.getEnv "CLICOLOR_FORCE"
  if (forced.getD "0") != "0" then return true
  if (← IO.getEnv "NO_COLOR").isSome then return false
  return (← (← IO.getStdout).isTty)

end Intel8080

open Intel8080 in
def main (arguments : List String) : IO UInt32 := do
  let path? := (CommandLine.parse arguments).toOption.bind (·.path?)
  let file : Except ReadFailure (List Byte) ←
    match path? with
    | some path => readBytes path
    | none => pure (.error .missing)
  let colors ← wantsColors
  let logSetting? ← IO.getEnv "I8080_LOG"
  let result := Session.start { colors, logSetting?, fileNamed := fun _ => file } arguments
  IO.print result.output
  IO.eprint result.errors
  return result.exitCode.toUInt32
