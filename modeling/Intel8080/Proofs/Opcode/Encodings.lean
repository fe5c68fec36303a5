import Intel8080.Opcode.Basic

/-! What the opcode bytes encode. The field for a register pair has two bits, and with each
instruction its fourth value means either the stack pointer or the accumulator with the condition
codes, so that some instructions have no byte. The groups of the ports and of the interrupts have
two instructions each, and most instructions are in no group that can be disabled. -/
namespace Intel8080

/-- Every machine executes the instruction, whatever its features. -/
def Instruction.isBasic : Instruction → Bool
  | .nop | .daa | .jmp | .call | .ret | .rst _ | .input | .output | .ei | .di => false
  | _ => true

namespace Opcode

theorem lookup_not_mem_psw (code : Byte) :
    (lookup code).instruction ∉ [.lxi .psw, .inx .psw, .dcx .psw] := by
  rw [lookup_eq_decode]
  revert code
  decide +kernel

theorem lookup_ne_dad_psw (code : Byte) : (lookup code).instruction ≠ .dad .psw := by
  rw [lookup_eq_decode]
  revert code
  decide +kernel

theorem lookup_ne_pop_sp (code : Byte) : (lookup code).instruction ≠ .pop .sp := by
  rw [lookup_eq_decode]
  revert code
  decide +kernel

theorem group_lookup_eq_io_iff (code : Byte) :
    (lookup code).group = .io ↔ (lookup code).instruction ∈ [.input, .output] := by
  rw [lookup_eq_decode]
  revert code
  decide +kernel

theorem group_lookup_eq_interrupt_iff (code : Byte) :
    (lookup code).group = .interrupt ↔ (lookup code).instruction ∈ [.ei, .di] := by
  rw [lookup_eq_decode]
  revert code
  decide +kernel

theorem group_lookup_of_isBasic (code : Byte) :
    (lookup code).instruction.isBasic = true → (lookup code).group = .base := by
  rw [lookup_eq_decode]
  revert code
  decide +kernel

theorem exists_lookup_aluImm (op : AluOp) : ∃ code, (lookup code).instruction = .aluImm op := by
  simp only [lookup_eq_decode]
  cases op <;> decide +kernel

end Opcode
end Intel8080
