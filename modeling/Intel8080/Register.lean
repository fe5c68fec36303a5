/-! The operand fields of an opcode byte: registers, register pairs, branch conditions and
accumulator operations. A field of three or two bits selects one of eight or four of them, in the
order of `all`. -/
namespace Intel8080

/-- An eight-bit operand. `m` is the memory byte at the address in `H` and `L`. -/
inductive Register
  | b | c | d | e | h | l | m | a
  deriving DecidableEq, Inhabited

namespace Register

def all : Vector Register 8 := #v[.b, .c, .d, .e, .h, .l, .m, .a]

def ofBits (field : BitVec 3) : Register := all[field.toNat]

def name : Register → String
  | .b => "B"
  | .c => "C"
  | .d => "D"
  | .e => "E"
  | .h => "H"
  | .l => "L"
  | .m => "M"
  | .a => "A"

theorem exists_ofBits (r : Register) : ∃ field, ofBits field = r := by
  cases r <;> decide

end Register

inductive Pair
  | bc | de | hl | sp | psw
  deriving DecidableEq, Inhabited

namespace Pair

def all : Vector Pair 4 := #v[.bc, .de, .hl, .sp]

/-- The pairs that go to and come from the stack have `psw` in the place of `sp`. -/
def stacked : Vector Pair 4 := #v[.bc, .de, .hl, .psw]

def ofBits (field : BitVec 2) : Pair := all[field.toNat]

def ofStackBits (field : BitVec 2) : Pair := stacked[field.toNat]

/-- The assembler's name: a pair of registers is called by its first. -/
def name : Pair → String
  | .bc => "B"
  | .de => "D"
  | .hl => "H"
  | .sp => "SP"
  | .psw => "PSW"

end Pair

inductive Condition
  | nonzero | zero | noCarry | carry | parityOdd | parityEven | plus | minus
  deriving DecidableEq, Inhabited

namespace Condition

def all : Vector Condition 8 :=
  #v[.nonzero, .zero, .noCarry, .carry, .parityOdd, .parityEven, .plus, .minus]

def ofBits (field : BitVec 3) : Condition := all[field.toNat]

def suffix : Condition → String
  | .nonzero => "NZ"
  | .zero => "Z"
  | .noCarry => "NC"
  | .carry => "C"
  | .parityOdd => "PO"
  | .parityEven => "PE"
  | .plus => "P"
  | .minus => "M"

end Condition

inductive AluOp
  | add | adc | sub | sbb | ana | xra | ora | cmp
  deriving DecidableEq, Inhabited

namespace AluOp

def all : Vector AluOp 8 := #v[.add, .adc, .sub, .sbb, .ana, .xra, .ora, .cmp]

def ofBits (field : BitVec 3) : AluOp := all[field.toNat]

end AluOp
end Intel8080
