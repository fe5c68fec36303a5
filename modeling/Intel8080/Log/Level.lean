import Intel8080.Text.Blank
import Intel8080.Text.Numeral

/-! Levels of a log, from the gravest to the most talkative, and how one is chosen by name or
number. -/
namespace Intel8080.Log

inductive Level
  | error | warn | info | debug | trace
  deriving DecidableEq, Inhabited

namespace Level

def all : List Level := [.error, .warn, .info, .debug, .trace]

/-- The number of a level. A log keeps what has at most the number of its own level. -/
def rank : Level → Nat
  | .error => 1
  | .warn => 2
  | .info => 3
  | .debug => 4
  | .trace => 5

def name : Level → String
  | .error => "ERROR"
  | .warn => "WARN"
  | .info => "INFO"
  | .debug => "DEBUG"
  | .trace => "TRACE"

def shows (kept level : Level) : Bool := decide (level.rank ≤ kept.rank)

def ofWord? (word : List Char) : Option Level :=
  match Text.readNumeral 10 0xFFFFFFFFFFFFFFFF word with
  | .ok n => all.find? (·.rank == n)
  | .error _ => all.find? (·.name.toList == word.map Char.toUpper)

def parse? (text : String) : Option Level := ofWord? (Text.trim text.toList)

end Level
end Intel8080.Log
