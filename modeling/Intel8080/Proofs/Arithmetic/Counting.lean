import Intel8080.Proofs.Arithmetic.Binary
import Intel8080.Proofs.Machine.Sequence

/-! Counting. `INR` and `DCR` count a register, or the byte in memory at `HL`, up and down. They
leave the byte and the condition codes that the accumulator has after 1 is added to it or subtracted
from it, but keep the carry. One after the other they leave the operand as it was. Main statement:
`counting_agrees`. -/
namespace Intel8080

inductive Counting
  | up | down
  deriving DecidableEq

namespace Counting

def instruction : Counting → Register → Instruction
  | .up, r => .inr r
  | .down, r => .dcr r

def op : Counting → AluOp
  | .up => .add
  | .down => .sub

def back : Counting → Counting
  | .up => .down
  | .down => .up

def apply : Counting → Byte → Flags → Byte × Flags
  | .up => Alu.increment
  | .down => Alu.decrement

theorem isBasic_instruction (k : Counting) (r : Register) : (k.instruction r).isBasic = true := by
  cases k <;> rfl

theorem isPlain_instruction (k : Counting) (r : Register) : (k.instruction r).isPlain = true := by
  cases k <;> rfl

/-- The low digit borrows for 1 unless it is zero, which is when 0FH carries out of it. -/
theorem nibbleCarry_complement_one (v : Byte) :
    Flags.nibbleCarry v (~~~1) true = Flags.nibbleCarry v 0x0F false := by
  revert v
  decide +kernel

theorem apply_eq (k : Counting) (v : Byte) (flags : Flags) (carry : Bool) : k.apply v flags =
    ((Alu.apply k.op v 1 carry).1,
      { (Alu.apply k.op v 1 carry).2 with carry := flags.carry }) := by
  cases k with
  | up =>
    have value : (Alu.add v 1 false).1 = v + 1 := by
      apply BitVec.eq_of_toNat_eq
      rw [Alu.toNat_fst_add, BitVec.toNat_add]
      rfl
    calc Alu.increment v flags
        = (v + 1, (flags.setResult (v + 1)).setAuxCarry v 1 false) := rfl
      _ = ((Alu.add v 1 false).1,
            (flags.setResult (Alu.add v 1 false).1).setAuxCarry v 1 false) := by rw [value]
      _ = _ := rfl
  | down =>
    have value : (Alu.sub v 1 false).1 = v - 1 := by
      apply BitVec.eq_of_toNat_eq
      have sum : (Alu.sub v 1 false).1.toNat = (v.toNat + (~~~1 : Byte).toNat + 1) % 256 :=
        Alu.toNat_fst_add v (~~~1) true
      have complement : (~~~1 : Byte).toNat = 254 := rfl
      have one : (1 : Byte).toNat = 1 := rfl
      rw [sum, complement, BitVec.toNat_sub, one]
      omega
    calc Alu.decrement v flags
        = (v - 1, (flags.setResult (v - 1)).setAuxCarry v 0x0F false) := rfl
      _ = ((Alu.sub v 1 false).1,
            (flags.setResult (Alu.sub v 1 false).1).setAuxCarry v (~~~1) true) := by
          rw [value, Flags.setAuxCarry, Flags.setAuxCarry, nibbleCarry_complement_one]
      _ = _ := rfl

theorem apply_back (k : Counting) (v : Byte) (flags later : Flags) :
    (k.back.apply (k.apply v flags).1 later).1 = v := by
  cases k with
  | up => exact BitVec.add_sub_cancel v 1
  | down => exact BitVec.sub_add_cancel v 1

theorem carry_apply (k : Counting) (v : Byte) (flags : Flags) :
    (k.apply v flags).2.carry = flags.carry := by
  cases k <;> rfl

end Counting

namespace Memory

theorem write_write_read (m : Memory) (a : Word) (v : Byte) :
    (m.write a v).write a (m.read a) = m := by
  ext b
  by_cases h : b = a
  · rw [h, read_write_self]
  · rw [read_write_of_ne h, read_write_of_ne h]

end Memory

namespace Processor

theorem setReg_setReg_reg (p : Processor) (r : Register) (v : Byte) :
    (p.setReg r v).setReg r (p.reg r) = p := by
  cases r with
  | m =>
    have memory := p.memory.write_write_read (p.pair .hl) v
    exact congrArg (fun memory => { p with memory }) memory
  | _ => rfl

theorem carryOut_counting (p : Processor) (k : Counting) (r : Register) :
    p.carryOut (k.instruction r) = { p.setReg r (k.apply (p.reg r) p.flags).1 with
      flags := (k.apply (p.reg r) p.flags).2 } := by
  cases k <;> cases r <;> rfl

theorem reg_withFlags (p : Processor) (flags : Flags) (r : Register) :
    ({ p with flags } : Processor).reg r = p.reg r := by
  cases r <;> rfl

theorem setReg_withFlags (p : Processor) (flags : Flags) (r : Register) (v : Byte) :
    ({ p with flags } : Processor).setReg r v = { p.setReg r v with flags } := by
  cases r <;> rfl

theorem carryOut_counting_back (p : Processor) (k : Counting) (r : Register) :
    (p.carryOut (k.instruction r)).carryOut (k.back.instruction r) = { p with
      flags := ((p.carryOut (k.instruction r)).carryOut (k.back.instruction r)).flags } := by
  simp only [carryOut_counting, reg_withFlags, setReg_withFlags, reg_setReg_self, k.apply_back,
    setReg_setReg_reg]

end Processor

namespace Machine
variable {σ : Type} [Ports σ]

/-- Machines with a device of type `σ` that add 1 to `x` in the accumulator, or subtract 1 from it,
leave `y` there and the given condition codes, the carry apart. There are such machines. -/
def AgreesOn (σ : Type) [Ports σ] (k : Counting) (x y : Byte) (flags : Flags) : Prop :=
  (∃ n : Machine σ, n.Combines k.op 1 ∧ n.processor.a = x) ∧
  ∀ n : Machine σ, n.Combines k.op 1 → n.processor.a = x →
    n.step.processor.a = y ∧ ∀ f, f ≠ .carry → n.step.processor.flags.get f = flags.get f

theorem agreesOn_apply (device : σ) (k : Counting) (v : Byte) (flags : Flags) :
    AgreesOn σ k v (k.apply v flags).1 (k.apply v flags).2 := by
  constructor
  · obtain ⟨_, _, n, accumulator, -, combines, -, -⟩ := exists_binaryRound device k.op v 1 false
    exact ⟨n, combines, accumulator⟩
  · intro n combines accumulator
    obtain ⟨ha, hf⟩ := accumulated_of_combines combines
    rw [ha, hf, accumulator, k.apply_eq v flags n.processor.flags.carry]
    refine ⟨rfl, fun f hf => ?_⟩
    cases f with
    | carry => exact absurd rfl hf
    | _ => rfl

theorem AgreesOn.eq_apply {k : Counting} {x y : Byte} {flags : Flags}
    (h : AgreesOn σ k x y flags) : k.apply x flags = (y, flags) := by
  obtain ⟨⟨n, combines, accumulator⟩, agrees⟩ := h
  obtain ⟨sameByte, sameCodes⟩ := agrees n combines accumulator
  obtain ⟨ha, hf⟩ := accumulated_of_combines combines
  rw [k.apply_eq x flags n.processor.flags.carry, ← accumulator, ← ha, ← hf, sameByte]
  refine Prod.ext rfl (Flags.ext_get fun f => ?_)
  cases f with
  | carry => rfl
  | zero => exact sameCodes .zero Flag.noConfusion
  | sign => exact sameCodes .sign Flag.noConfusion
  | parity => exact sameCodes .parity Flag.noConfusion
  | auxCarry => exact sameCodes .auxCarry Flag.noConfusion

section Counts
variable {m : Machine σ} {k : Counting} {r : Register}

omit [Ports σ] in
theorem executes_of_counts (running : m.status = .running)
    (counts : m.opcode.instruction = k.instruction r) : m.Executes :=
  executes_of_isBasic running (counts ▸ k.isBasic_instruction r)

theorem processor_step_of_counts (running : m.status = .running)
    (counts : m.opcode.instruction = k.instruction r) : m.step.processor =
      { m.processor.carryOut (k.instruction r) with pc := m.processor.pc + 1 } :=
  processor_step_of_isPlain (executes_of_counts running counts) counts (k.isPlain_instruction r)

theorem counted_of_counts (running : m.status = .running)
    (counts : m.opcode.instruction = k.instruction r) :
    m.step.processor.reg r = (k.apply (m.processor.reg r) m.processor.flags).1 ∧
    m.step.processor.flags = (k.apply (m.processor.reg r) m.processor.flags).2 := by
  rw [processor_step_of_counts running counts, Processor.reg_withPC, Processor.carryOut_counting,
    Processor.reg_withFlags, Processor.reg_setReg_self]
  exact ⟨rfl, rfl⟩

theorem opcode_step_of_counts (running : m.status = .running)
    (counts : m.opcode.instruction = k.instruction r)
    (behind : r = .m → m.processor.pair .hl ≠ m.processor.pc + 1) :
    m.step.opcode = .lookup (m.processor.memory.read (m.processor.pc + 1)) := by
  have kept (v : Byte) : (m.processor.setReg r v).memory.read (m.processor.pc + 1) =
      m.processor.memory.read (m.processor.pc + 1) := by
    cases r with
    | m => exact Memory.read_write_of_ne (behind rfl).symm
    | _ => rfl
  rw [opcode, processor_step_of_counts running counts, Processor.carryOut_counting, kept]

/-- `INR` and `DCR` count a register, or the byte at `HL`, and set the condition codes, but keep the
carry. The byte and the other codes are those that `ADD` and `SUB` leave of the byte and 1. If the
other of the two comes next, which it does if it stands there and the first one does not count its
opcode byte, the processor is left as it was, but for the codes that the second one sets and the
program counter. -/
theorem counting_agrees (running : m.status = .running)
    (counts : m.opcode.instruction = k.instruction r) :
    let before := m.processor
    let after := m.step.processor
    after = { before.setReg r (after.reg r) with
      flags := after.flags
      pc := before.pc + 1 } ∧
    after.flags.carry = before.flags.carry ∧
    AgreesOn σ k (before.reg r) (after.reg r) after.flags ∧
    ((r = .m → before.pair .hl ≠ before.pc + 1) →
      m.step.opcode = .lookup (before.memory.read (before.pc + 1))) ∧
    (m.step.opcode.instruction = k.back.instruction r →
      let last := m.step.step.processor
      last = { before with flags := last.flags, pc := before.pc + 2 } ∧
      last.flags.carry = before.flags.carry ∧
      AgreesOn σ k.back (after.reg r) (before.reg r) last.flags) := by
  intro before after
  have effect : after = _ := processor_step_of_counts running counts
  obtain ⟨value, codes⟩ : after.reg r = _ ∧ after.flags = _ := counted_of_counts running counts
  refine ⟨?_, ?_, ?_, opcode_step_of_counts running counts, fun countsBack => ?_⟩
  · rw [value, codes, effect, Processor.carryOut_counting]
  · rw [codes, k.carry_apply]
  · rw [value, codes]
    exact agreesOn_apply m.ports k _ _
  · intro last
    have running' : m.step.status = .running :=
      status_step_of_isPlain (executes_of_counts running counts) counts (k.isPlain_instruction r)
    have codes' : last.flags = (k.back.apply (after.reg r) after.flags).2 :=
      (counted_of_counts running' countsBack).2
    -- the two instructions, performed on a processor whose program counter does not move
    let both := (before.carryOut (k.instruction r)).carryOut (k.back.instruction r)
    have unmoved : both = { before with flags := both.flags } := before.carryOut_counting_back k r
    have moved : last = { both with pc := before.pc + 2 } := by
      have later : last = { after.carryOut (k.back.instruction r) with pc := after.pc + 1 } :=
        processor_step_of_counts running' countsBack
      rw [later, effect, Processor.carryOut_withPC (k.back.isPlain_instruction r),
        BitVec.add_assoc]
      rfl
    refine ⟨?_, ?_, ?_⟩
    · have same : last.flags = both.flags := by rw [moved]
      calc last = { both with pc := before.pc + 2 } := moved
        _ = { ({ before with flags := both.flags } : Processor) with pc := before.pc + 2 } := by
          rw [← unmoved]
        _ = { before with flags := last.flags, pc := before.pc + 2 } := by rw [same]
    · rw [codes', k.back.carry_apply, codes, k.carry_apply]
    · have restored : (k.back.apply (after.reg r) after.flags).1 = before.reg r := by
        rw [value, k.apply_back]
      rw [codes', ← restored]
      exact agreesOn_apply m.ports k.back _ _

end Counts

/-- `INR M` and `DCR M`, with FFH at the address in `HL`. -/
def countsOver : Machine Unconnected where
  processor := { l := 8, memory := Memory.zero.storeAll [(0, 0x34), (1, 0x35), (8, 0xFF)] }
  ports := ⟨⟩

theorem countsOver_agrees :
    countsOver.opcode.instruction = .inr .m ∧ countsOver.step.opcode.instruction = .dcr .m ∧
    countsOver.processor.reg .m = 0xFF ∧ countsOver.step.processor.reg .m = 0 ∧
    countsOver.step.processor.flags = { zero := true, parity := true, auxCarry := true } ∧
    countsOver.step.step.processor =
      { countsOver.processor with flags := { sign := true, parity := true }, pc := 2 } := by
  have at8 : countsOver.processor.reg .m = 0xFF := by
    change countsOver.processor.memory.read 8 = 0xFF
    simp [countsOver]
  have inr : countsOver.opcode.instruction = .inr .m := by
    have code : countsOver.processor.memory.read 0 = 0x34 := by
      simp [countsOver, Memory.read_write]
    rw [opcode_of_read code]
    rfl
  obtain ⟨-, carry, agrees, behind, undone⟩ :=
    counting_agrees (k := .up) (r := .m) (m := countsOver) rfl inr
  have dcr : countsOver.step.opcode.instruction = .dcr .m := by
    have apart : countsOver.processor.pair .hl ≠ countsOver.processor.pc + 1 := by decide
    have code : countsOver.processor.memory.read (countsOver.processor.pc + 1) = 0x35 := by
      change countsOver.processor.memory.read 1 = 0x35
      simp [countsOver, Memory.read_write]
    rw [behind fun _ => apart, code, Opcode.lookup_eq_decode]
    rfl
  obtain ⟨restored, carry', agrees'⟩ := undone dcr
  have up (flags : Flags) : Counting.up.apply 0xFF flags =
      (0, { zero := true, parity := true, auxCarry := true, carry := flags.carry }) := rfl
  have down (flags : Flags) : Counting.down.apply 0 flags =
      (0xFF, { sign := true, parity := true, carry := flags.carry }) := rfl
  have counted := agrees.eq_apply
  rw [at8, up, carry] at counted
  obtain ⟨zero, codes⟩ := Prod.mk.inj counted
  have countedBack := agrees'.eq_apply
  rw [← zero, Counting.back, down, carry'] at countedBack
  rw [← (Prod.mk.inj countedBack).2] at restored
  exact ⟨inr, dcr, at8, zero.symm, codes.symm, restored⟩

end Machine
end Intel8080
