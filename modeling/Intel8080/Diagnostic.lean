import Intel8080.Machine.Basic
import Intel8080.Opcode.Check
import Intel8080.Text.Wrap

/-! Diagnostics: what went wrong, under a code, with its cause and with help where there is some,
and the report in which a diagnostic is shown. -/
namespace Intel8080

structure Diagnostic where
  message : String
  code : String
  cause : Option String := none
  help : Option String := none
  deriving DecidableEq

inductive ReadFailure
  | missing
  | directory
  | notDirectory
  | nameTooLong
  | denied
  | other (reason : String)
  deriving DecidableEq

def ReadFailure.message : ReadFailure → String
  | .missing => "No such file or directory (os error 2)"
  | .directory => "Is a directory (os error 21)"
  | .notDirectory => "Not a directory (os error 20)"
  | .nameTooLong => "File name too long (os error 36)"
  | .denied => "Permission denied (os error 13)"
  | .other reason => reason

structure Unreadable where
  path : String
  failure : ReadFailure
  deriving DecidableEq

def Unreadable.diagnostic (e : Unreadable) : Diagnostic where
  message := "Could not read image \x60" ++ e.path ++ "\x60"
  code := "load::io"
  cause := some e.failure.message
  help := some "make sure the file exists and is readable"

def TooLarge.message (e : TooLarge) : String :=
  "Image of " ++ toString e.length ++ " bytes does not fit in memory when loaded at 0x" ++
    Text.upperHex 4 e.base.toNat

def TooLarge.diagnostic (e : TooLarge) : Diagnostic where
  message := e.message
  code := "load::too_large"
  help := some "memory is 65,536 bytes; use a lower base address or a smaller image"

def Fault.message (f : Fault) : String :=
  "Unimplemented opcode 0x" ++ Text.upperHex 2 f.code.toNat ++ " (" ++ f.mnemonic ++
    ") at address 0x" ++ Text.upperHex 4 f.address.toNat

def Fault.diagnostic (f : Fault) : Diagnostic where
  message := f.message
  code := "run::unimplemented"
  help := some
    "the instruction group of this opcode is disabled; check the \x60--features\x60 list"

def TableDefect.diagnostic (d : TableDefect) : Diagnostic where
  message := d.message
  code := match d with
    | .size _ => "table::size"
    | .misplaced _ _ => "table::misplaced"
    | .length _ _ _ => "table::length"
    | .unnamed _ => "table::unnamed"

namespace Diagnostic

def width : Nat := 78

def part (mark indent text : String) : String :=
  Text.indented mark indent (Text.wrap (width - mark.length) text)

def report (d : Diagnostic) : String :=
  "Error: " ++ d.code ++ "\n\n" ++ part "  × " "  │ " d.message ++
    (d.cause.map (part "  ╰─▶ " "      ")).getD "" ++
    (d.help.map (part "  help: " "        ")).getD "" ++ "\n"

end Diagnostic
end Intel8080
