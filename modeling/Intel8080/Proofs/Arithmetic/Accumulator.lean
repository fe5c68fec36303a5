import Intel8080.Proofs.Machine.Step

/-! Steps that calculate. An operation on the accumulator takes its second operand from a register,
from memory or from the instruction itself, and does the same with it in every form. -/
namespace Intel8080.Machine
variable {σ : Type} [Ports σ]

/-- The next step performs an operation on the accumulator and the given byte. -/
def Combines (m : Machine σ) (op : AluOp) (v : Byte) : Prop :=
  m.Executes ∧
    ((∃ src, m.opcode.instruction = .alu op src ∧ m.processor.reg src = v) ∨
      m.opcode.instruction = .aluImm op ∧ m.operand.lo = v)

def Adjusts (m : Machine σ) : Prop := m.Executes ∧ m.opcode.instruction = .daa

omit [Ports σ] in
theorem adjusts_of_read {m : Machine σ} (executes : m.Executes)
    (h : m.processor.memory.read m.processor.pc = 0x27) : m.Adjusts := by
  refine ⟨executes, ?_⟩
  rw [opcode_of_read h]
  rfl

theorem processor_step_of_combines {m : Machine σ} {op : AluOp} {v : Byte} (h : m.Combines op v) :
    m.step.processor = { m.processor.accumulate op v with pc := m.nextAddress } := by
  obtain ⟨executes, ⟨src, hi, rfl⟩ | ⟨hi, rfl⟩⟩ := h
  · exact processor_step_of_next executes hi Instruction.noConfusion Instruction.noConfusion rfl
  · exact processor_step_of_next executes hi Instruction.noConfusion Instruction.noConfusion rfl

theorem processor_step_of_adjusts {m : Machine σ} (h : m.Adjusts) :
    m.step.processor = { m.processor with
      a := (Alu.decimalAdjust m.processor.a m.processor.flags).1
      flags := (Alu.decimalAdjust m.processor.a m.processor.flags).2
      pc := m.nextAddress } := by
  obtain ⟨executes, hi⟩ := h
  exact processor_step_of_next executes hi Instruction.noConfusion Instruction.noConfusion rfl

end Intel8080.Machine
