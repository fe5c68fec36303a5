import Intel8080.Proofs.Machine.Step
import Mathlib.Tactic.IntervalCases

/-! The operand of an instruction. A step takes two bytes from behind the opcode byte, whatever the
instruction, but an instruction depends only on the operand bytes that it has. -/
namespace Intel8080.Machine
variable {σ : Type}

theorem length_opcode (m : Machine σ) : m.opcode.length = m.opcode.instruction.length := by
  rw [opcode, Opcode.length_lookup, Instruction.length]

theorem take_operand (m : Machine σ) {n : Nat} (hn : n ≤ 2) :
    [m.operand.lo, m.operand.hi].take n = (List.range n).map fun j =>
      m.processor.memory.read (m.processor.pc + BitVec.ofNat 16 (1 + j)) := by
  interval_cases n
  · rfl
  · simp [operand, Memory.readWord]
  · simp [operand, Memory.readWord, List.range_succ, BitVec.add_assoc]

variable [Ports σ]

/-- An instruction reads no operand byte beyond those that it has. -/
theorem perform_congr {v w : Word} {i : Instruction}
    (h : [v.lo, v.hi].take i.operandCount = [w.lo, w.hi].take i.operandCount) (p : Processor)
    (ports : σ) (next : Word) : perform p ports v next i = perform p ports w next i := by
  have two (hc : i.operandCount = 2) : v = w := by
    rw [hc] at h
    obtain ⟨hl, hh⟩ : v.lo = w.lo ∧ v.hi = w.hi := by simpa using h
    rw [← Word.ofBytes_hi_lo v, ← Word.ofBytes_hi_lo w, hl, hh]
  have one (hc : i.operandCount = 1) : v.lo = w.lo := by
    rw [hc] at h
    simpa using h
  cases i with
  | lxi _ | sta | lda | shld | lhld | jmp | jmpIf _ | call | callIf _ => rw [two rfl]
  | mvi _ | aluImm _ => simp only [perform, Processor.execute, one rfl]
  | input | output => simp only [perform, one rfl]
  | _ => rfl

end Intel8080.Machine
