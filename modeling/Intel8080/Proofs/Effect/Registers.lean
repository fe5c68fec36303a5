import Intel8080.Proofs.Stack.Matching

/-! Which registers a step changes. An instruction names the parts of the register file that it
may change, and leaves all others as they were; pushes, calls, pops and returns move the stack
pointer by one word. Main statement: `step_registers`. -/
namespace Intel8080

inductive Part
  | a | b | c | d | e | h | l | sp | interrupts
  deriving DecidableEq

abbrev Part.Content : Part → Type
  | .sp => Word
  | .interrupts => Bool
  | _ => Byte

def Register.parts : Register → List Part
  | .b => [.b]
  | .c => [.c]
  | .d => [.d]
  | .e => [.e]
  | .h => [.h]
  | .l => [.l]
  | .m => []
  | .a => [.a]

def Pair.parts : Pair → List Part
  | .bc => [.b, .c]
  | .de => [.d, .e]
  | .hl => [.h, .l]
  | .sp => [.sp]
  | .psw => [.a]

/-- The parts that an instruction may change. -/
def Instruction.footprint (flags : Flags) : Instruction → List Part
  | .mov dest _ | .mvi dest | .inr dest | .dcr dest => dest.parts
  | .lxi rp | .inx rp | .dcx rp => rp.parts
  | .alu op _ | .aluImm op => if op = .cmp then [] else [.a]
  | .ldax _ | .lda | .input | .daa | .rlc | .rrc | .ral | .rar | .cma => [.a]
  | .lhld | .dad _ | .xthl => [.h, .l]
  | .xchg => [.d, .e, .h, .l]
  | .sphl | .push _ | .call | .rst _ | .ret => [.sp]
  | .callIf cond | .retIf cond => if cond.holds flags then [.sp] else []
  | .pop rp => .sp :: rp.parts
  | .ei | .di => [.interrupts]
  | .nop | .hlt | .stax _ | .sta | .shld | .stc | .cmc | .jmp | .jmpIf _ | .pchl | .output => []

namespace Processor

def part (p : Processor) : (x : Part) → x.Content
  | .a => p.a
  | .b => p.b
  | .c => p.c
  | .d => p.d
  | .e => p.e
  | .h => p.h
  | .l => p.l
  | .sp => p.sp
  | .interrupts => p.interrupts

variable {p : Processor} {x : Part}

theorem part_setReg {r : Register} (h : x ∉ r.parts) (p : Processor) (v : Byte) :
    (p.setReg r v).part x = p.part x := by
  cases r <;> cases x <;> simp_all [Register.parts, setReg, part]

theorem part_setPair {rp : Pair} (h : x ∉ rp.parts) (p : Processor) (w : Word) :
    (p.setPair rp w).part x = p.part x := by
  cases rp <;> cases x <;> simp_all [Pair.parts, setPair, part]

theorem part_withFlags (p : Processor) (flags : Flags) :
    ({ p with flags } : Processor).part x = p.part x := by
  cases x <;> rfl

theorem part_withMemory (p : Processor) (memory : Memory) :
    ({ p with memory } : Processor).part x = p.part x := by
  cases x <;> rfl

theorem part_withPC (p : Processor) (pc : Word) :
    ({ p with pc } : Processor).part x = p.part x := by
  cases x <;> rfl

theorem part_withAccumulator (h : x ∉ [Part.a]) (p : Processor) (a : Byte) (flags : Flags) :
    ({ p with a, flags } : Processor).part x = p.part x := by
  cases x <;> simp_all [part]

theorem part_withStack (h : x ∉ [Part.sp]) (p : Processor) (sp : Word) (memory : Memory) :
    ({ p with sp, memory } : Processor).part x = p.part x := by
  cases x <;> simp_all [part]

theorem part_accumulate {op : AluOp} (h : x ∉ (if op = .cmp then [] else [Part.a]))
    (p : Processor) (v : Byte) : (p.accumulate op v).part x = p.part x := by
  cases op with
  | cmp => exact p.part_withFlags _
  | _ => exact part_withAccumulator h p _ _

theorem part_execute {i : Instruction} (h : x ∉ i.footprint p.flags) (operand next : Word) :
    (p.execute operand next i).1.part x = p.part x := by
  cases i with
  | mov dest _ | mvi dest => exact part_setReg h p _
  | inr r | dcr r => exact (part_setReg h _ _).trans (p.part_withFlags _)
  | lxi rp | inx rp | dcx rp => exact part_setPair h p _
  | lhld => exact part_setPair h p _
  | dad rp => exact (part_setPair h _ _).trans (p.part_withFlags _)
  | xthl => exact (part_setPair h _ _).trans (p.part_withMemory _)
  | alu op _ | aluImm op => exact part_accumulate h p _
  | ldax _ | lda | daa | rlc | rrc | ral | rar | cma => exact part_withAccumulator h p _ _
  | sphl | push _ | call | rst _ | ret => exact part_withStack h p _ _
  | callIf cond | retIf cond =>
    by_cases holds : cond.holds p.flags
    · simp only [Instruction.footprint, holds, if_true] at h
      simp only [execute, holds, if_true]
      exact part_withStack h p _ _
    · simp [execute, holds]
  | pop rp =>
    rw [Instruction.footprint, List.mem_cons, not_or] at h
    have away : x ∉ [Part.sp] := by simpa using h.1
    exact (part_setPair h.2 _ _).trans (part_withStack away p _ _)
  | xchg | ei | di => cases x <;> simp_all [Instruction.footprint, execute, part]
  | stax _ | sta | shld => exact p.part_withMemory _
  | stc | cmc => exact p.part_withFlags _
  | nop | hlt | jmp | jmpIf _ | pchl | input | output => rfl

end Processor

namespace Machine
variable {σ : Type}

def footprint (m : Machine σ) : List Part :=
  if m.Executes then m.opcode.instruction.footprint m.processor.flags else []

variable [Ports σ] {x : Part}

theorem part_performed {m : Machine σ}
    (h : x ∉ m.opcode.instruction.footprint m.processor.flags) :
    m.performed.part x = m.processor.part x := by
  by_cases hi : m.opcode.instruction = .input
  · rw [hi] at h
    rw [performed, hi]
    exact Processor.part_withAccumulator h m.processor _ m.processor.flags
  by_cases ho : m.opcode.instruction = .output
  · rw [performed, ho]
    rfl
  rw [performed_of_ne hi ho, Processor.part_execute h]

theorem part_step {m : Machine σ} (h : x ∉ m.footprint) :
    m.step.processor.part x = m.processor.part x := by
  by_cases executes : m.Executes
  · rw [footprint, if_pos executes] at h
    rw [processor_step executes, Processor.part_withPC, part_performed h]
  · rw [processor_step_of_not_executes executes]

/-- A part that no step of a run names holds what it held. -/
theorem part_iterate {m : Machine σ} {n : Nat} (h : ∀ k < n, x ∉ (step^[k] m).footprint) :
    (step^[n] m).processor.part x = m.processor.part x := by
  induction n with
  | zero => rfl
  | succ n ih =>
    have before := ih fun k hk => h k (Nat.lt_succ_of_lt hk)
    rw [Function.iterate_succ_apply', part_step (h n (Nat.lt_succ_self n)), before]

/-- An instruction leaves the registers and the interrupt switch that it does not name as they were,
so that along a run each of them changes with the instructions alone that name it. What is pushed
moves the stack pointer down by one word, and what is taken from the stack moves it up by one. The
instruction counts as one step, only `HLT` changes the status, and nothing changes the features or
the bounds of the program. -/
theorem step_registers {m : Machine σ} (executes : m.Executes) :
    let p := m.processor
    let i := m.opcode.instruction
    (∀ x ∉ i.footprint p.flags, m.step.processor.part x = p.part x) ∧
    (∀ w, p.stackMove m.nextAddress i = .push w → m.step.processor.sp = p.sp - 2) ∧
    (p.stackMove m.nextAddress i = .pop → m.step.processor.sp = p.sp + 2) ∧
    m.step.status = (if i = .hlt then .halted else .running) ∧
    m.step.steps = m.steps + 1 ∧ m.step.features = m.features ∧
    m.step.programStart = m.programStart ∧ m.step.programEnd = m.programEnd ∧
    ∀ x n, (∀ k < n, x ∉ (step^[k] m).footprint) →
      (step^[n] m).processor.part x = p.part x := by
  intro p i
  have move : m.stackMove = p.stackMove m.nextAddress i := if_pos executes
  refine ⟨?_, ?_, ?_, ?_, steps_step executes, m.features_step, m.programStart_step,
    m.programEnd_step, fun x n h => part_iterate h⟩
  · intro x h
    exact part_step (by rwa [footprint, if_pos executes])
  · intro w pushes
    exact (step_of_stackMove_push (move.trans pushes)).1
  · intro pops
    exact (step_of_stackMove_pop (move.trans pops)).1
  · simp only [status_step executes, flow_eq_halt_iff, i]

/-- `POP PSW` at address 0010 with the stack pointer at the last address, and `INX H` behind it. -/
def popsAcrossTop : Machine Unconnected where
  processor :=
    { a := 1, b := 2, h := 0xFF, l := 0xFF, sp := 0xFFFF, pc := 0x10, interrupts := true
      memory := Memory.zero.storeAll [(0x10, 0xF1), (0x11, 0x23), (0xFFFF, 0x83), (0, 0x44)] }
  ports := ⟨⟩

/-- `POP PSW` takes its word across the top of memory and changes the stack pointer and the
accumulator alone. Both instructions together leave all but these and `HL` as they were. -/
theorem popsAcrossTop_registers : popsAcrossTop.Executes ∧
    popsAcrossTop.step.processor.sp = 1 ∧
    (∀ x ∉ [Part.sp, .a], popsAcrossTop.step.processor.part x = popsAcrossTop.processor.part x) ∧
    popsAcrossTop.step.status = .running ∧ popsAcrossTop.step.steps = 1 ∧
    ∀ x ∉ [Part.sp, .a, .h, .l],
      (step^[2] popsAcrossTop).processor.part x = popsAcrossTop.processor.part x := by
  have executes : popsAcrossTop.Executes := executes_of_all rfl rfl
  have pop : popsAcrossTop.opcode = .decode 0xF1 :=
    opcode_of_read (by simp [popsAcrossTop, Memory.read_write])
  have second : popsAcrossTop.step.opcode = .decode 0x23 := by
    have onward : popsAcrossTop.step.processor.pc = 0x11 := by
      rw [pc_step executes, flow, nextAddress, pop]
      rfl
    apply opcode_of_read
    rw [onward, memory_step_of_not_writesMemory (by rw [pop]; rfl)]
    simp [popsAcrossTop, Memory.read_write]
  obtain ⟨keeps, -, pops, status, steps, -, -, -, run⟩ := step_registers executes
  rw [pop] at keeps pops status
  refine ⟨executes, pops rfl, keeps, status, steps, fun x h => run x 2 fun k hk => ?_⟩
  simp only [List.mem_cons, List.not_mem_nil, or_false, not_or] at h
  obtain ⟨sp, a, high, low⟩ := h
  interval_cases k
  · have names : popsAcrossTop.footprint = [.sp, .a] := by
      rw [footprint, if_pos executes, pop]
      rfl
    simp [names, sp, a]
  · have executes' : popsAcrossTop.step.Executes := executes_of_all status (features_step _)
    have names : popsAcrossTop.step.footprint = [.h, .l] := by
      rw [footprint, if_pos executes', second]
      rfl
    simp [names, high, low]

end Machine
end Intel8080
