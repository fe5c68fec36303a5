import Intel8080.Text.Blank
import Intel8080.Text.Numeral

/-! Addresses as they are written: a decimal numeral, or a hexadecimal numeral after `0x`, `0X` or a
dollar sign, with blanks around it. -/
namespace Intel8080

structure AddressError where
  text : String
  deriving DecidableEq

def AddressError.message (e : AddressError) : String :=
  "'" ++ e.text ++ "' is not an address between 0 and 0xFFFF"

namespace Address

def readNumeral : List Char → Except Text.NumeralError Nat
  | '0' :: 'x' :: digits => Text.readNumeral 16 0xFFFF digits
  | '0' :: 'X' :: digits => Text.readNumeral 16 0xFFFF digits
  | '$' :: digits => Text.readNumeral 16 0xFFFF digits
  | digits => Text.readNumeral 10 0xFFFF digits

def parse (text : String) : Except AddressError Word :=
  let inner := Text.trim text.toList
  match readNumeral inner with
  | .ok n => .ok (BitVec.ofNat 16 n)
  | .error _ => .error ⟨String.ofList inner⟩

end Address
end Intel8080
