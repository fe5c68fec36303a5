import Intel8080.Group
import Intel8080.Instruction.Text

/-! The definition of every opcode byte. `decode` reads the fields of the byte, and `table` holds
its answers for the 256 bytes in order, so that `lookup` need not decode again. -/
namespace Intel8080

structure Opcode where
  code : Byte
  mnemonic : String
  summary : String
  /-- The number of bytes of the instruction, the opcode byte included. -/
  length : Nat
  flags : List Flag
  instruction : Instruction
  group : Group
  deriving DecidableEq, Inhabited

namespace Opcode

def middle (code : Byte) : BitVec 3 := code.extractLsb' 3 3

def low (code : Byte) : BitVec 3 := code.extractLsb' 0 3

def pairField (code : Byte) : BitVec 2 := code.extractLsb' 4 2

def transfers : Vector Instruction 8 :=
  #v[.stax .bc, .ldax .bc, .stax .de, .ldax .de, .shld, .lhld, .sta, .lda]

def adjustments : Vector Instruction 8 := #v[.rlc, .rrc, .ral, .rar, .daa, .cma, .stc, .cmc]

def decodeFirst (code : Byte) : Instruction × Group :=
  let register := Register.ofBits (middle code)
  let pair := Pair.ofBits (pairField code)
  match (low code).toNat with
  | 0 => (.nop, if code = 0 then .base else .undocumented)
  | 1 => (if code.getLsbD 3 then .dad pair else .lxi pair, .base)
  | 2 => (transfers[(middle code).toNat], .base)
  | 3 => (if code.getLsbD 3 then .dcx pair else .inx pair, .base)
  | 4 => (.inr register, .base)
  | 5 => (.dcr register, .base)
  | 6 => (.mvi register, .base)
  | _ => (adjustments[(middle code).toNat], if middle code = 4 then .decimal else .base)

def decodeReturn (code : Byte) : Instruction × Group :=
  match (middle code).toNat with
  | 1 => (.ret, .base)
  | 3 => (.ret, .undocumented)
  | 5 => (.pchl, .base)
  | 7 => (.sphl, .base)
  | _ => (.pop (.ofStackBits (pairField code)), .base)

def decodeCall (code : Byte) : Instruction × Group :=
  match (middle code).toNat with
  | 1 => (.call, .base)
  | 3 | 5 | 7 => (.call, .undocumented)
  | _ => (.push (.ofStackBits (pairField code)), .base)

def jumps : Vector (Instruction × Group) 8 :=
  #v[(.jmp, .base), (.jmp, .undocumented), (.output, .io), (.input, .io), (.xthl, .base),
    (.xchg, .base), (.di, .interrupt), (.ei, .interrupt)]

def decodeLast (code : Byte) : Instruction × Group :=
  let condition := Condition.ofBits (middle code)
  match (low code).toNat with
  | 0 => (.retIf condition, .base)
  | 1 => decodeReturn code
  | 2 => (.jmpIf condition, .base)
  | 3 => jumps[(middle code).toNat]
  | 4 => (.callIf condition, .base)
  | 5 => decodeCall code
  | 6 => (.aluImm (.ofBits (middle code)), .base)
  | _ => (.rst (middle code), .restart)

/-- The instruction and the group that an opcode byte stands for. The place of `MOV M,M` is taken by
`HLT`. -/
def decodeFields (code : Byte) : Instruction × Group :=
  match code.toNat / 64 with
  | 0 => decodeFirst code
  | 1 => (if code = 0x76 then .hlt else .mov (.ofBits (middle code)) (.ofBits (low code)), .base)
  | 2 => (.alu (.ofBits (middle code)) (.ofBits (low code)), .base)
  | _ => decodeLast code

def decode (code : Byte) : Opcode where
  code
  mnemonic := (decodeFields code).1.mnemonic
  summary := (decodeFields code).1.summary
  length := (decodeFields code).1.length
  flags := (decodeFields code).1.affected
  instruction := (decodeFields code).1
  group := (decodeFields code).2

def table : Vector Opcode 256 := Vector.ofFn fun i => decode (BitVec.ofFin i)

def lookup (code : Byte) : Opcode := table[code.toNat]

theorem lookup_eq_decode (code : Byte) : lookup code = decode code := by
  simp [lookup, table]

@[simp] theorem code_lookup (code : Byte) : (lookup code).code = code := by
  rw [lookup_eq_decode]; rfl

@[simp] theorem length_lookup (code : Byte) :
    (lookup code).length = 1 + (lookup code).instruction.operandCount := by
  rw [lookup_eq_decode]; rfl

@[simp] theorem flags_lookup (code : Byte) :
    (lookup code).flags = (lookup code).instruction.affected := by
  rw [lookup_eq_decode]; rfl

@[simp] theorem mnemonic_lookup (code : Byte) :
    (lookup code).mnemonic = (lookup code).instruction.mnemonic := by
  rw [lookup_eq_decode]; rfl

@[simp] theorem summary_lookup (code : Byte) :
    (lookup code).summary = (lookup code).instruction.summary := by
  rw [lookup_eq_decode]; rfl

/-- Every instruction has one to three bytes. -/
theorem length_lookup_bounds (code : Byte) :
    1 ≤ (lookup code).length ∧ (lookup code).length ≤ 3 := by
  have h := (lookup code).instruction.operandCount_le
  rw [length_lookup]; omega

end Opcode
end Intel8080
