import Intel8080.CommandLine.Parse
import Intel8080.Listing
import Intel8080.Log.Setting
import Intel8080.Session.Run
import Intel8080.Terminal.Plain

/-! A session: one use of the program from its arguments to its exit code. The arguments are read
first, then the level of the log is set, the opcode table is checked, and the command is carried
out. -/
namespace Intel8080

structure Surroundings where
  colors : Bool := false
  logSetting? : Option String := none
  fileNamed : String → Except ReadFailure (List Byte)

structure SessionResult where
  exitCode : Nat
  output : String
  errors : String
  deriving DecidableEq

namespace Session

def programName : String := "i8080"

def programVersion : String := "0.1.0"

def logo : String :=
  "\n   ___   ___    ___    ___\n  ( _ ) / _ \\  ( _ )  / _ \\\n  / _ \\| | | | / _ \\ | | | |\n" ++
    " | (_) | |_| || (_) || |_| |\n  \\___/ \\___/  \\___/  \\___/ "

def shortInfo : String :=
  "\nRuns raw Intel 8080 binary images and prints their listings.\n" ++
    "Please use \x60-h\x60 or \x60--help\x60 to access the usage instructions and documentation.\n"

def banner (colors : Bool) : String :=
  "\n~ " ++ programName ++ " v" ++ programVersion ++ " ~\n" ++
    Terminal.paint colors .banner 0 logo ++ "\n" ++ shortInfo ++ "\n"

def versionLine : String := programName ++ " " ++ programVersion ++ "\n"

def usage : CommandLine.Scope → String
  | .top =>
    "Emulator and disassembler for Intel 8080 machine code\n\nUsage: i8080 [PATH] [COMMAND]\n\n" ++
      "Commands:\n" ++
      "  run     Load a binary image, run it and print the register file\n" ++
      "  disasm  Print a listing of a binary image\n" ++
      "  help    Print this message or the help of the given subcommand(s)\n\n" ++
      "Arguments:\n  [PATH]  Quickly provide a binary image to run\n\n" ++
      "Options:\n  -h, --help     Print help\n  -V, --version  Print version\n"
  | .run =>
    "Load a binary image, run it and print the register file\n\n" ++
      "Usage: i8080 run [OPTIONS] <NAME>\n\nArguments:\n  <NAME>  Raw binary image\n\nOptions:\n" ++
      "  -b, --base <BASE>          Load address and initial program counter [default: 0]\n" ++
      "  -f, --features <FEATURES>  Instruction groups to execute [default: all]\n" ++
      "  -l, --limit <LIMIT>        Stop after this many instructions\n" ++
      "  -m, --minimal              Produce minimal output, suited for blackbox tests\n" ++
      "  -h, --help                 Print help\n"
  | .disasm =>
    "Print a listing of a binary image\n\nUsage: i8080 disasm [OPTIONS] <NAME>\n\n" ++
      "Arguments:\n  <NAME>  Raw binary image\n\nOptions:\n" ++
      "  -b, --base <BASE>  Address of the first byte [default: 0]\n" ++
      "  -h, --help         Print help\n"

def success (output : String) : SessionResult := ⟨0, output, ""⟩

def failure (output log : String) (d : Diagnostic) : SessionResult :=
  ⟨1, output, log ++ d.report⟩

/-- A session whose arguments make no sense. What it says about them is plain text. -/
def misuse (e : CommandLine.UsageError) : SessionResult :=
  let help := "\n\nFor more information, try " ++ CommandLine.literal "--help" ++ ".\n"
  ⟨2, "", Terminal.plain ("error: " ++ e.message ++ help)⟩

def ofReport (r : RunReport) : SessionResult :=
  match r.result with
  | .ok _ => ⟨0, r.output, Log.text r.log⟩
  | .error e => failure r.output (Log.text r.log) e.diagnostic

def list (colors : Bool) (path : String) (base : Word)
    (file : Except ReadFailure (List Byte)) : SessionResult :=
  match file with
  | .error e => failure "" "" (Unreadable.diagnostic ⟨path, e⟩)
  | .ok image =>
    success <| Terminal.statusLine colors .green "Listing" ("target " ++ path) ++ "\n" ++
      Listing.text colors (disassemble image base)

def perform (around : Surroundings) (kept : Log.Level) : CommandLine.Command → SessionResult
  | .banner => success (banner around.colors)
  | .run options => ofReport (options.run around.colors kept (around.fileNamed options.path))
  | .disasm path base => list around.colors path base (around.fileNamed path)
  | .help scope => success (usage scope)
  | .version => success versionLine

def start (around : Surroundings) (arguments : List String) : SessionResult :=
  match CommandLine.parse arguments with
  | .error e => misuse e
  | .ok command =>
    match Opcode.defect? Opcode.table.toList with
    | some d => failure "" "" d.diagnostic
    | none => perform around (.ofVariable around.logSetting?) command

end Session
end Intel8080
