import Intel8080.Diagnostic
import Intel8080.Log.Level
import Intel8080.Text.Column

/-! What a machine says while it runs, and the lines of a log. A line gives the level, the part of
the program that speaks, a message, and fields with their values. -/
namespace Intel8080.Log

inductive Event
  | executing (pc : Word) (code : Byte) (mnemonic : String) (a : Byte) (bc de hl sp : Word)
  | halted (pc : Word)
  | fellThrough (pc : Word)
  | reachedEnd (pc : Word)
  | faulted (fault : Fault)
  | unconnectedRead (port : Byte)
  | unconnectedWrite (port value : Byte)
  deriving DecidableEq

namespace Event

def level : Event → Level
  | .executing .. => .trace
  | .faulted _ => .warn
  | _ => .debug

def source : Event → String
  | .unconnectedRead _ | .unconnectedWrite _ _ => "i8080::port"
  | _ => "i8080::runtime"

def field (name : String) {w : Nat} (value : BitVec w) : String :=
  name ++ "=" ++ toString value.toNat

/-- The message and the fields. -/
def parts : Event → List String
  | .executing pc code mnemonic a bc de hl sp =>
    [field "pc" pc, field "opcode" code, "mnemonic=\"" ++ mnemonic ++ "\"", field "a" a,
      field "bc" bc, field "de" de, field "hl" hl, field "sp" sp]
  | .halted pc => ["halted", field "pc" pc]
  | .fellThrough pc => ["fell through the top of memory", field "pc" pc]
  | .reachedEnd pc => ["reached end of program", field "pc" pc]
  | .faulted fault => ["execution faulted", "fault=" ++ fault.message]
  | .unconnectedRead port => ["read from unconnected port", field "port" port]
  | .unconnectedWrite port value =>
    ["write to unconnected port", field "port" port, field "value" value]

def line (e : Event) : String :=
  Text.padLeft 5 e.level.name ++ " " ++ e.source ++ ": " ++ String.intercalate " " e.parts

end Event

def text (events : List Event) : String := String.join (events.map fun e => e.line ++ "\n")

end Intel8080.Log
