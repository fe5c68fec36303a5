import Intel8080.Opcode.Basic
import Intel8080.Text.Hex

/-! The self-check of an opcode table. It accepts a list of definitions exactly if there are 256
of them and each stands in its place, with the length that its operands need and with words to
print; it reports the first defect otherwise. -/
namespace Intel8080

inductive TableDefect
  | size (entries : Nat)
  | misplaced (slot : Nat) (code : Byte)
  | length (code : Byte) (declared needed : Nat)
  | unnamed (code : Byte)
  deriving DecidableEq

namespace Opcode

def defectAt? (slot : Nat) (entry : Opcode) : Option TableDefect :=
  if entry.code.toNat ≠ slot then some (.misplaced slot entry.code)
  else if entry.length ≠ 1 + entry.instruction.operandCount then
    some (.length entry.code entry.length (1 + entry.instruction.operandCount))
  else if entry.mnemonic = "" ∨ entry.summary = "" then some (.unnamed entry.code)
  else none

def firstDefect? : Nat → List Opcode → Option TableDefect
  | _, [] => none
  | slot, entry :: entries => (defectAt? slot entry).or (firstDefect? (slot + 1) entries)

/-- The first defect of a table. A wrong size is reported before anything else. -/
def defect? (entries : List Opcode) : Option TableDefect :=
  if entries.length ≠ 256 then some (.size entries.length) else firstDefect? 0 entries

end Opcode

namespace TableDefect

def message : TableDefect → String
  | .size entries => "Opcode table has " ++ toString entries ++ " entries instead of 256"
  | .misplaced slot code =>
    "Opcode table slot 0x" ++ Text.upperHex 2 slot ++ " holds the definition of 0x" ++
      Text.upperHex 2 code.toNat
  | .length code declared needed =>
    "Opcode 0x" ++ Text.upperHex 2 code.toNat ++ " declares length " ++ toString declared ++
      ", its operands need " ++ toString needed
  | .unnamed code => "Opcode 0x" ++ Text.upperHex 2 code.toNat ++ " has no mnemonic or summary"

end TableDefect
end Intel8080
