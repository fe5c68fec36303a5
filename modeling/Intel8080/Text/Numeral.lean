import Intel8080.Text.Hex

/-! Unsigned numerals: one plus sign at most, and then digits of a radix, with a largest number
that is accepted. Digits are read from the left, and the first that is none, or that makes the
number too large, decides the error. -/
namespace Intel8080.Text

inductive NumeralError
  | empty | invalidDigit | tooLarge
  deriving DecidableEq

def NumeralError.message : NumeralError → String
  | .empty => "cannot parse integer from empty string"
  | .invalidDigit => "invalid digit found in string"
  | .tooLarge => "number too large to fit in target type"

def digit? (radix : Nat) (c : Char) : Option Nat := (hexValue? c).filter (· < radix)

def readDigits (radix largest : Nat) : Nat → List Char → Except NumeralError Nat
  | n, [] => .ok n
  | n, c :: cs =>
    match digit? radix c with
    | none => .error .invalidDigit
    | some d =>
      if n * radix + d ≤ largest then readDigits radix largest (n * radix + d) cs
      else .error .tooLarge

/-- Read a numeral of a number up to `largest`. A sign needs a digit after it. -/
def readNumeral (radix largest : Nat) : List Char → Except NumeralError Nat
  | [] => .error .empty
  | ['+'] => .error .invalidDigit
  | '+' :: digits => readDigits radix largest 0 digits
  | digits => readDigits radix largest 0 digits

end Intel8080.Text
