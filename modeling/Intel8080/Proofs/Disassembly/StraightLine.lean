import Intel8080.Proofs.Disassembly.Execution

/-! Programs without halts, branches and stores. Such a program executes the records of its listing
one after the other and then leaves the program. Main statement: `run_of_straight`. -/
namespace Intel8080

/-- The instruction may send control to another address than the next. -/
def Instruction.branches : Instruction → Bool
  | .jmp | .jmpIf _ | .call | .callIf _ | .ret | .retIf _ | .rst _ | .pchl => true
  | _ => false

/-- The instruction goes on to the next one and leaves memory alone. -/
structure Instruction.Straight (i : Instruction) : Prop where
  not_halt : i ≠ .hlt
  not_branch : i.branches = false
  not_write : i.writesMemory = false

namespace Machine
variable {σ : Type} [Ports σ]

theorem perform_of_straight {i : Instruction} (h : i.Straight) (p : Processor) (ports : σ)
    (operand next : Word) : (perform p ports operand next i).2.2 = .next := by
  cases i with
  | hlt => exact absurd rfl h.not_halt
  | jmp | jmpIf _ | call | callIf _ | ret | retIf _ | rst _ | pchl => cases h.not_branch
  | _ => rfl

/-- The machine stands at a record and has executed one instruction for each record before it. -/
structure ReachesRecord (m : Machine σ) (image : List Byte) (base : Word) (i : Nat) : Prop where
  stands : m.StandsAt image base i
  program : m.HoldsProgram image base
  running : m.status = .running
  features : m.features = .all
  steps : m.steps = i

variable {m : Machine σ} {image : List Byte} {base : Word}

omit [Ports σ] in
theorem ReachesRecord.goesOn {i : Nat} (h : m.ReachesRecord image base i)
    (record : i < (disassemble image base).length) : m.outcome? = none :=
  outcome?_eq_none_iff.mpr ⟨h.running, h.stands.inside.mpr record⟩

theorem ReachesRecord.next {i : Nat} (h : m.ReachesRecord image base i)
    (record : i < (disassemble image base).length)
    (straight : ∀ r ∈ disassemble image base, r.opcode.instruction.Straight) :
    m.step.ReachesRecord image base (i + 1) := by
  have executes := executes_of_all h.running h.features
  have hr := List.getElem?_eq_getElem record
  have hi : m.opcode.instruction.Straight := by
    rw [h.program.opcode_eq hr (h.stands.address hr)]
    exact straight _ (List.mem_of_getElem? hr)
  have next : m.flow = .next := perform_of_straight hi _ _ _ _
  refine ⟨?_, ?_, ?_, ?_, ?_⟩
  · have falls : m.flow.fallsThrough = true := by rw [next]; rfl
    exact h.stands.step_of_fallsThrough h.program executes (h.stands.inside.mpr record) falls
  · refine h.program.congr m.programStart_step m.programEnd_step fun a _ => ?_
    rw [memory_step_of_not_writesMemory hi.not_write]
  · rw [status_step executes, next, if_neg Flow.noConfusion]
  · rw [features_step, h.features]
  · rw [steps_step executes, h.steps]

theorem ReachesRecord.iterate (h : m.ReachesRecord image base 0)
    (straight : ∀ r ∈ disassemble image base, r.opcode.instruction.Straight) {i : Nat}
    (hi : i ≤ (disassemble image base).length) : (step^[i] m).ReachesRecord image base i := by
  induction i with
  | zero => exact h
  | succ i ih =>
    rw [Function.iterate_succ_apply']
    exact (ih (Nat.le_of_succ_le hi)).next hi straight

/-- A program without halts, branches and stores can be loaded wherever it fits. Its run executes
exactly the records of its listing, in their order, and ends behind the last one. -/
theorem run_of_straight (ports : σ) (fits : Memory.Fits base image)
    (straight : ∀ r ∈ disassemble image base, r.opcode.instruction.Straight) :
    ∃ m, ofImage ports image base = .ok m ∧
      m.run.1 = .ok .endOfProgram ∧
      m.run.2.steps = (disassemble image base).length ∧
      m.visited maxLimit = (disassemble image base).map (fun r => r.address) ∧
      m.run.2.processor.pc =
        base + BitVec.ofNat 16 (declaredLength (disassemble image base)) := by
  refine ⟨(ofPorts ports).loaded image base, load_eq_ok_iff.mpr ⟨fits, rfl⟩, ?_⟩
  have start : ((ofPorts ports).loaded image base).ReachesRecord image base 0 :=
    ⟨standsAt_loaded _ image base, holdsProgram_loaded _ fits, rfl, rfl, rfl⟩
  generalize (ofPorts ports).loaded image base = m at start
  have reaches (i : Nat) (hi : i ≤ (disassemble image base).length) := start.iterate straight hi
  have runs : m.Runs (disassemble image base).length := fun k hk =>
    (reaches k (Nat.le_of_lt hk)).goesOn hk
  have last := reaches _ (Nat.le_refl _)
  have stops : (step^[(disassemble image base).length] m).outcome? =
      some (.ok .endOfProgram) := by
    have left : (step^[(disassemble image base).length] m).atEnd = true := by
      rw [← Bool.not_eq_false, last.stands.inside]
      exact Nat.lt_irrefl _
    simp [outcome?, last.running, left]
  have within : (disassemble image base).length ≤ maxLimit := by
    have hl := length_disassemble_le image base
    have hf := Memory.fits_iff.mp fits
    rw [maxLimit]
    omega
  rw [run, runLimit_of_runs_of_outcome runs stops within,
    visited_of_runs_of_outcome runs stops within]
  refine ⟨rfl, last.steps, ?_, ?_⟩
  · apply List.ext_getElem (by rw [List.length_map, List.length_map, List.length_range])
    intro k hk hr
    rw [List.length_map] at hr
    rw [List.getElem_map, List.getElem_map, List.getElem_range]
    exact (reaches k (Nat.le_of_lt hr)).stands.address (List.getElem?_eq_getElem hr)
  · rw [last.stands.pc, offset_length]

/-- `MVI A,7`, `NOP` and an `LXI H` that lacks the last byte, up to the end of memory. -/
def loadAtTop : List Byte := [0x3E, 0x07, 0x00, 0x21, 0x34]

theorem disassemble_loadAtTop : disassemble loadAtTop 0xFFFB =
    [⟨0xFFFB, .decode 0x3E, [0x07]⟩, ⟨0xFFFD, .decode 0x00, []⟩,
      ⟨0xFFFE, .decode 0x21, [0x34]⟩] := by
  have move : (Opcode.decode 0x3E).length = 1 + 1 := rfl
  have nop : (Opcode.decode 0x00).length = 0 + 1 := rfl
  have load : (Opcode.decode 0x21).length = 2 + 1 := rfl
  rw [loadAtTop, disassemble_cons_of_length move, List.drop_one, List.tail_cons,
    disassemble_cons_of_length nop, List.drop_zero, disassemble_cons_of_length load,
    List.drop_succ_cons, List.drop_nil, disassemble_nil]
  rfl

theorem loadAtTop_straight :
    ∀ r ∈ disassemble loadAtTop 0xFFFB, r.opcode.instruction.Straight := by
  rw [disassemble_loadAtTop]
  intro r hr
  simp only [List.mem_cons, List.not_mem_nil, or_false] at hr
  rcases hr with rfl | rfl | rfl <;> exact ⟨by decide, rfl, rfl⟩

/-- The three records at the end of memory are executed, and the program counter wraps around behind
the one that is truncated. -/
theorem run_loadAtTop : Memory.Fits 0xFFFB loadAtTop ∧
    (∀ r ∈ disassemble loadAtTop 0xFFFB, r.opcode.instruction.Straight) ∧
    ∃ m : Machine Unconnected, ofImage ⟨⟩ loadAtTop 0xFFFB = .ok m ∧
      m.run.1 = .ok .endOfProgram ∧ m.run.2.steps = 3 ∧
      m.visited maxLimit = [0xFFFB, 0xFFFD, 0xFFFE] ∧ m.run.2.processor.pc = 1 := by
  have fits : Memory.Fits 0xFFFB loadAtTop := by decide
  obtain ⟨m, hm, ends, steps, visits, pc⟩ :=
    run_of_straight (⟨⟩ : Unconnected) fits loadAtTop_straight
  rw [disassemble_loadAtTop] at steps visits pc
  exact ⟨fits, loadAtTop_straight, m, hm, ends, steps, visits, pc⟩

end Machine
end Intel8080
