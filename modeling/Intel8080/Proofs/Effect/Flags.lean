import Intel8080.Proofs.Arithmetic.Accumulator
import Intel8080.Proofs.Opcode.Encodings

/-! Which condition codes a step changes. An instruction leaves the codes alone that it does not
declare, and each code that it declares is changed on some machine, with one exception: `SBB A`
declares the carry and always leaves it as it was. Main statement: `step_changes_iff`. -/
namespace Intel8080

namespace Opcode

theorem lookup_eq_sbb_a_iff (code : Byte) :
    (lookup code).instruction = .alu .sbb .a ↔ code = 0x9F := by
  rw [lookup_eq_decode]
  revert code
  decide +kernel

end Opcode

theorem Instruction.mem_affected_inr_iff {r : Register} {f : Flag} :
    f ∈ (inr r).affected ↔ f ≠ .carry := by
  cases f <;> simp [affected]

theorem Instruction.mem_affected_dcr_iff {r : Register} {f : Flag} :
    f ∈ (dcr r).affected ↔ f ≠ .carry := by
  cases f <;> simp [affected]

def Flags.full : Flags := ⟨true, true, true, true, true⟩

namespace Alu
open Flags (full)

theorem carry_snd_sub_self (a : Byte) (borrow : Bool) : (sub a a borrow).2.carry = borrow := by
  have complement : a.toNat + (~~~a).toNat = 255 := by
    have := a.isLt
    rw [BitVec.toNat_not]
    omega
  have carried : (sub a a borrow).2.carry =
      !decide (0xFF < a.toNat + (~~~a).toNat + (!borrow).toNat) := rfl
  rw [carried, complement]
  cases borrow <;> rfl

theorem exists_apply_changes (op : AluOp) (f : Flag) :
    ∃ t ∈ [((0 : Byte), full), (0, {}), (0, { full with carry := false }), (1, full)],
      (apply op t.1 0 t.2.carry).2.get f ≠ t.2.get f ∧
        (t.1 = 0 ∨ op = .sbb ∧ f = .carry) := by
  cases op <;> cases f <;> decide

theorem exists_increment_changes {f : Flag} (h : f ≠ .carry) :
    ∃ flags ∈ [full, {}], (increment 0 flags).2.get f ≠ flags.get f := by
  cases f with
  | carry => exact absurd rfl h
  | _ => decide

theorem exists_decrement_changes {f : Flag} (h : f ≠ .carry) :
    ∃ flags ∈ [full, {}], (decrement 0 flags).2.get f ≠ flags.get f := by
  cases f with
  | carry => exact absurd rfl h
  | _ => decide

theorem exists_decimalAdjust_changes (f : Flag) :
    ∃ t ∈ [((0 : Byte), full), (0, {}), (0xA0, {})],
      (decimalAdjust t.1 t.2).2.get f ≠ t.2.get f := by
  cases f <;> decide

end Alu

namespace Processor

@[simp] theorem flags_setReg (p : Processor) (r : Register) (v : Byte) :
    (p.setReg r v).flags = p.flags := by
  cases r <;> rfl

theorem flags_setPair_of_ne {rp : Pair} (h : rp ≠ .psw) (p : Processor) (w : Word) :
    (p.setPair rp w).flags = p.flags := by
  cases rp with
  | psw => exact absurd rfl h
  | _ => rfl

theorem get_flags_execute {i : Instruction} {f : Flag}
    (encoded : i ∉ [.lxi .psw, .inx .psw, .dcx .psw]) (undeclared : f ∉ i.affected)
    (p : Processor) (operand next : Word) :
    (p.execute operand next i).1.flags.get f = p.flags.get f := by
  cases i with
  | mov dest src => exact congrArg (·.get f) (p.flags_setReg dest _)
  | mvi dest => exact congrArg (·.get f) (p.flags_setReg dest _)
  | lxi rp | inx rp | dcx rp =>
    have hne : rp ≠ .psw := fun e => encoded (by simp [e])
    exact congrArg (·.get f) (flags_setPair_of_ne hne p _)
  | pop rp =>
    have hne : rp ≠ .psw := fun e => undeclared (by subst e; exact f.mem_all)
    exact congrArg (·.get f) (flags_setPair_of_ne hne p.drop p.top)
  | alu op src | aluImm op | daa => exact absurd f.mem_all undeclared
  | inr r =>
    obtain rfl : f = .carry := not_ne_iff.mp (undeclared ∘ Instruction.mem_affected_inr_iff.mpr)
    exact congrArg (·.get .carry) (flags_setReg _ r _)
  | dcr r =>
    obtain rfl : f = .carry := not_ne_iff.mp (undeclared ∘ Instruction.mem_affected_dcr_iff.mpr)
    exact congrArg (·.get .carry) (flags_setReg _ r _)
  | dad rp | rlc | rrc | ral | rar | stc | cmc =>
    cases f with
    | carry => exact absurd (List.mem_singleton_self _) undeclared
    | _ => rfl
  | callIf cond | retIf cond =>
    simp only [execute]
    split <;> rfl
  | _ => rfl

def blank (a : Byte) (flags : Flags) (memory : Memory) : Processor := { a, flags, memory, pc := 8 }

@[simp] theorem pair_hl_blank (a : Byte) (flags : Flags) (memory : Memory) :
    (blank a flags memory).pair .hl = 0 := by
  change Word.ofBytes 0 0 = 0
  decide

theorem reg_blank {a : Byte} {flags : Flags} {memory : Memory} (zero : memory.read 0 = 0)
    {r : Register} (h : a = 0 ∨ r ≠ .a) : (blank a flags memory).reg r = 0 := by
  cases r with
  | a => exact h.resolve_right fun hne => hne rfl
  | m =>
    rw [reg, pair_hl_blank]
    exact zero
  | _ => rfl

theorem carry_dad_blank (a : Byte) (flags : Flags) (memory : Memory) (operand next : Word)
    (rp : Pair) :
    ((blank a flags memory).execute operand next (.dad rp)).1.flags.carry = false := by
  have small := ((blank a flags memory).pair rp).isLt
  have carried : ((blank a flags memory).execute operand next (.dad rp)).1.flags.carry =
      decide (0xFFFF < ((blank a flags memory).pair .hl).toNat +
        ((blank a flags memory).pair rp).toNat) := rfl
  have zero : (0 : Word).toNat = 0 := rfl
  rw [carried, pair_hl_blank, zero]
  exact decide_eq_false (by omega)

theorem flags_pop_psw_blank {a : Byte} {flags : Flags} {memory : Memory}
    (first : memory.read 0 = 0) (second : memory.read 1 = 0) (operand next : Word) :
    ((blank a flags memory).execute operand next (.pop .psw)).1.flags = {} := by
  have top : (blank a flags memory).top = 0 := congrArg₂ Word.ofBytes second first
  rw [execute, top]
  rfl

/-- Each condition code that an instruction declares is changed by it where it works on zeros, but
for the carry of `SBB A`. -/
theorem exists_execute_changes {i : Instruction} {f : Flag} {memory : Memory}
    (declared : f ∈ i.affected) (able : ¬(i = .alu .sbb .a ∧ f = .carry))
    (first : memory.read 0 = 0) (second : memory.read 1 = 0) (next : Word) :
    ∃ a flags, ((blank a flags memory).execute 0 next i).1.flags.get f ≠ flags.get f := by
  cases i with
  | inr r =>
    obtain ⟨flags, -, changes⟩ :=
      Alu.exists_increment_changes (Instruction.mem_affected_inr_iff.mp declared)
    refine ⟨0, flags, ?_⟩
    simp only [execute, flags_setReg, reg_blank first (Or.inl rfl)]
    exact changes
  | dcr r =>
    obtain ⟨flags, -, changes⟩ :=
      Alu.exists_decrement_changes (Instruction.mem_affected_dcr_iff.mp declared)
    refine ⟨0, flags, ?_⟩
    simp only [execute, flags_setReg, reg_blank first (Or.inl rfl)]
    exact changes
  | alu op src =>
    obtain ⟨⟨a, flags⟩, -, changes, small⟩ := Alu.exists_apply_changes op f
    have hr : (blank a flags memory).reg src = 0 := by
      refine reg_blank first (small.imp id ?_)
      rintro ⟨rfl, rfl⟩ rfl
      exact able ⟨rfl, rfl⟩
    refine ⟨a, flags, ?_⟩
    rw [execute, hr]
    exact changes
  | aluImm op =>
    obtain ⟨⟨a, flags⟩, -, changes, -⟩ := Alu.exists_apply_changes op f
    exact ⟨a, flags, changes⟩
  | daa =>
    obtain ⟨⟨a, flags⟩, -, changes⟩ := Alu.exists_decimalAdjust_changes f
    exact ⟨a, flags, changes⟩
  | pop rp =>
    cases rp with
    | psw =>
      refine ⟨0, Flags.full, ?_⟩
      rw [flags_pop_psw_blank first second]
      cases f <;> decide
    | _ => cases declared
  | dad rp =>
    obtain rfl : f = .carry := List.mem_singleton.mp declared
    exact ⟨0, Flags.full, ne_true_of_eq_false (carry_dad_blank 0 Flags.full memory 0 next rp)⟩
  | rlc | ral =>
    obtain rfl : f = .carry := List.mem_singleton.mp declared
    refine ⟨0, Flags.full, ?_⟩
    simp [execute, rotated, blank, Alu.rotateLeft, Alu.rotateLeftCarry, Flags.get, Flags.full]
  | rrc | rar =>
    obtain rfl : f = .carry := List.mem_singleton.mp declared
    refine ⟨0, Flags.full, ?_⟩
    simp [execute, rotated, blank, Alu.rotateRight, Alu.rotateRightCarry, Flags.get, Flags.full]
  | stc | cmc =>
    obtain rfl : f = .carry := List.mem_singleton.mp declared
    exact ⟨0, {}, Bool.false_ne_true.symm⟩
  | _ => cases declared

end Processor

namespace Machine
variable {σ : Type} [Ports σ]

theorem get_flags_step {m : Machine σ} (executes : m.Executes) {f : Flag}
    (undeclared : f ∉ m.opcode.flags) :
    m.step.processor.flags.get f = m.processor.flags.get f := by
  rw [flags_step executes]
  have undeclared' : f ∉ m.opcode.instruction.affected := by
    rwa [opcode, ← Opcode.flags_lookup]
  have encoded : m.opcode.instruction ∉ [.lxi .psw, .inx .psw, .dcx .psw] := by
    rw [opcode]
    exact Opcode.lookup_not_mem_psw _
  by_cases hi : m.opcode.instruction = .input
  · rw [performed, hi]
    rfl
  by_cases ho : m.opcode.instruction = .output
  · rw [performed, ho]
    rfl
  rw [performed_of_ne hi ho, Processor.get_flags_execute encoded undeclared']

/-- Subtracting the accumulator and the carry from the accumulator leaves the carry as it was. -/
theorem carry_step_of_sbb_a {m : Machine σ} (executes : m.Executes)
    (code : m.processor.memory.read m.processor.pc = 0x9F) :
    m.step.processor.flags.carry = m.processor.flags.carry := by
  have combines : m.Combines .sbb m.processor.a := by
    refine ⟨executes, Or.inl ⟨.a, ?_, rfl⟩⟩
    rw [opcode, code, Opcode.lookup_eq_sbb_a_iff]
  rw [processor_step_of_combines combines]
  exact Alu.carry_snd_sub_self m.processor.a m.processor.flags.carry

theorem exists_step_changes (ports : σ) {c : Byte} {f : Flag}
    (declared : f ∈ (Opcode.lookup c).flags) (able : ¬(c = 0x9F ∧ f = .carry)) :
    ∃ m : Machine σ, m.Executes ∧ m.processor.memory.read m.processor.pc = c ∧
      m.step.processor.flags.get f ≠ m.processor.flags.get f := by
  rw [Opcode.flags_lookup] at declared
  rw [← Opcode.lookup_eq_sbb_a_iff] at able
  obtain ⟨input, output⟩ := ne_port (List.ne_nil_of_mem declared) rfl rfl
  have first : (Memory.zero.write 8 c).read 0 = 0 := by simp [Memory.read_write]
  have second : (Memory.zero.write 8 c).read 1 = 0 := by simp [Memory.read_write]
  obtain ⟨a, flags, changes⟩ := Processor.exists_execute_changes declared able first second
    (8 + BitVec.ofNat 16 (Opcode.lookup c).length)
  -- the machine stands for itself, or its step would be evaluated
  obtain ⟨m, hm, running, complete⟩ : ∃ m : Machine σ,
      m.processor = .blank a flags (Memory.zero.write 8 c) ∧ m.status = .running ∧
        m.features = .all :=
    ⟨{ processor := .blank a flags (Memory.zero.write 8 c), ports }, rfl, rfl, rfl⟩
  have executes : m.Executes := executes_of_all running complete
  have code : m.processor.memory.read m.processor.pc = c := by
    rw [hm]
    exact Memory.read_write_self Memory.zero 8 c
  have hc : m.opcode = Opcode.lookup c := by rw [opcode, code]
  have ho : m.operand = 0 := by
    simp [operand, hm, Processor.blank, Memory.readWord, Memory.read_write, Word.ofBytes]
  have hn : m.nextAddress = 8 + BitVec.ofNat 16 (Opcode.lookup c).length := by
    rw [nextAddress, hc, hm]
    rfl
  rw [← hc] at input output
  refine ⟨m, executes, code, ?_⟩
  rw [flags_step executes, performed_of_ne input output, ho, hn, hc, hm]
  exact changes

/-- The condition codes that an opcode byte declares are exactly those that a step at this byte
changes on some machine, but for the carry of `SBB A`, which no step changes. -/
theorem step_changes_iff (ports : σ) (c : Byte) (f : Flag) :
    (∃ m : Machine σ, m.Executes ∧ m.processor.memory.read m.processor.pc = c ∧
        m.step.processor.flags.get f ≠ m.processor.flags.get f) ↔
      f ∈ (Opcode.lookup c).flags ∧ ¬(c = 0x9F ∧ f = .carry) := by
  constructor
  · rintro ⟨m, executes, code, changes⟩
    constructor
    · by_contra undeclared
      rw [← code] at undeclared
      exact changes (get_flags_step executes undeclared)
    · rintro ⟨rfl, rfl⟩
      exact changes (carry_step_of_sbb_a executes code)
  · rintro ⟨declared, able⟩
    exact exists_step_changes ports declared able

/-- `SBB A` declares the carry, but no step at it changes the carry. -/
theorem sbb_a_keeps_carry : Flag.carry ∈ (Opcode.lookup 0x9F).flags ∧
    ¬∃ (σ : Type) (_ : Ports σ) (m : Machine σ), m.Executes ∧
      m.processor.memory.read m.processor.pc = 0x9F ∧
      m.step.processor.flags.get .carry ≠ m.processor.flags.get .carry := by
  constructor
  · rw [Opcode.lookup_eq_decode]
    decide
  · rintro ⟨σ, _, m, executes, code, changes⟩
    exact changes (carry_step_of_sbb_a executes code)

end Machine
end Intel8080
