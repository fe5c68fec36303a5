import Intel8080.Machine.Run
import Intel8080.Proofs.Opcode.Encodings
import Mathlib.Logic.Function.Iterate

/-! One step of a machine. A step executes the instruction at the program counter, faults on it, or
leaves the machine alone, and `step_cases` says which. What an executed instruction makes of each
field of the machine is stated once here, so that nothing below unfolds `step` again. -/
namespace Intel8080.Machine
variable {σ : Type} [Ports σ]

def Executes (m : Machine σ) : Prop :=
  m.status = .running ∧ m.features.enables m.opcode.group = true

instance (m : Machine σ) : Decidable m.Executes := inferInstanceAs (Decidable (_ ∧ _))

omit [Ports σ] in
theorem executes_of_all {m : Machine σ} (running : m.status = .running)
    (features : m.features = .all) : m.Executes :=
  ⟨running, by rw [features, FeatureSet.enables_all]⟩

omit [Ports σ] in
theorem executes_of_isBasic {m : Machine σ} (running : m.status = .running)
    (basic : m.opcode.instruction.isBasic = true) : m.Executes := by
  have base : m.opcode.group = .base := Opcode.group_lookup_of_isBasic _ basic
  exact ⟨running, by rw [base, FeatureSet.enables]⟩

omit [Ports σ] in
theorem opcode_of_read {m : Machine σ} {code : Byte}
    (h : m.processor.memory.read m.processor.pc = code) : m.opcode = .decode code := by
  rw [opcode, h, Opcode.lookup_eq_decode]

def nextAddress (m : Machine σ) : Word := m.processor.pc + BitVec.ofNat 16 m.opcode.length

/-- The processor after the instruction, the program counter apart. -/
def performed (m : Machine σ) : Processor :=
  (perform m.processor m.ports m.operand m.nextAddress m.opcode.instruction).1

def answered (m : Machine σ) : σ :=
  (perform m.processor m.ports m.operand m.nextAddress m.opcode.instruction).2.1

def flow (m : Machine σ) : Flow :=
  (perform m.processor m.ports m.operand m.nextAddress m.opcode.instruction).2.2

theorem flow_of_read {m : Machine σ} {code : Byte}
    (h : m.processor.memory.read m.processor.pc = code) : m.flow =
      (perform m.processor m.ports m.operand m.nextAddress
        (Opcode.decode code).instruction).2.2 := by
  rw [flow, opcode_of_read h]

/-- The next step executes an instruction that passes the last address of memory without a jump. -/
def PassesTop (m : Machine σ) : Prop :=
  m.Executes ∧ m.flow.fallsThrough = true ∧ 0xFFFF < m.processor.pc.toNat + m.opcode.length

theorem execute_eq (m : Machine σ) : m.execute =
    { m with
      processor := { m.performed with pc := m.flow.target m.nextAddress }
      ports := m.answered
      status := if m.flow = .halt then .halted else m.status
      wrapped := m.wrapped || (m.flow.fallsThrough && reachesTop m.processor.pc m.opcode.length)
      steps := m.steps + 1 } := by
  -- the result of `perform` stands for itself, or the opcode table would be evaluated
  rcases hp : perform m.processor m.ports m.operand m.nextAddress m.opcode.instruction with
    ⟨p, ports, flow⟩
  simp only [performed, answered, Machine.flow, hp]
  simp only [nextAddress] at hp
  simp only [execute, hp, nextAddress]

theorem step_of_executes {m : Machine σ} (h : m.Executes) : m.step = m.execute := by
  simp only [step, if_pos h.1, if_pos h.2]

def executeAt (m : Machine σ) (pc operand : Word) (i : Instruction) : Machine σ :=
  let next := pc + BitVec.ofNat 16 i.length
  let (p, ports, flow) := perform m.processor m.ports operand next i
  { m with
    processor := { p with pc := flow.target next }
    ports
    status := if flow = .halt then .halted else m.status
    wrapped := m.wrapped || (flow.fallsThrough && reachesTop pc i.length)
    steps := m.steps + 1 }

theorem step_eq_of_read {m n : Machine σ} (pc : Word) (code : Byte) (operand : Word)
    (running : m.status = .running)
    (enabled : m.features.enables (Opcode.decode code).group = true)
    (hpc : m.processor.pc = pc) (atPC : m.processor.memory.read pc = code)
    (behind : m.processor.memory.readWord (pc + 1) = operand)
    (result : m.executeAt pc operand (Opcode.decode code).instruction = n) : m.step = n := by
  subst hpc
  have hc := opcode_of_read atPC
  have ho : m.operand = operand := behind
  rw [step_of_executes ⟨running, hc ▸ enabled⟩, execute, hc, ho]
  exact result

theorem ne_port {α : Type} {f : Instruction → α} {i : Instruction} {a : α} (h : f i ≠ a)
    (input : f .input = a) (output : f .output = a) : i ≠ .input ∧ i ≠ .output :=
  ⟨fun hi => h (hi ▸ input), fun ho => h (ho ▸ output)⟩

/-- Only the port instructions need the device. -/
theorem perform_of_ne {i : Instruction} (hi : i ≠ .input) (ho : i ≠ .output) (p : Processor)
    (ports : σ) (operand next : Word) : perform p ports operand next i =
      ((p.execute operand next i).1, ports, (p.execute operand next i).2) := by
  cases i with
  | input => exact absurd rfl hi
  | output => exact absurd rfl ho
  | _ => rfl

theorem performed_of_ne {m : Machine σ} (hi : m.opcode.instruction ≠ .input)
    (ho : m.opcode.instruction ≠ .output) : m.performed =
      (m.processor.execute m.operand m.nextAddress m.opcode.instruction).1 := by
  rw [performed, perform_of_ne hi ho]

theorem flow_of_ne {m : Machine σ} (hi : m.opcode.instruction ≠ .input)
    (ho : m.opcode.instruction ≠ .output) : m.flow =
      (m.processor.execute m.operand m.nextAddress m.opcode.instruction).2 := by
  rw [flow, perform_of_ne hi ho]

theorem flow_perform_eq_halt_iff {p : Processor} {ports : σ} {operand next : Word}
    {i : Instruction} : (perform p ports operand next i).2.2 = .halt ↔ i = .hlt := by
  cases i with
  | jmpIf cond => cases h : cond.holds p.flags <;> simp [perform, Processor.execute, h]
  | callIf cond =>
    cases h : cond.holds p.flags <;> simp [perform, Processor.execute, Processor.call, h]
  | retIf cond =>
    cases h : cond.holds p.flags <;> simp [perform, Processor.execute, Processor.ret, h]
  | _ => simp [perform, Processor.execute, Processor.call, Processor.ret]

theorem flow_eq_halt_iff {m : Machine σ} : m.flow = .halt ↔ m.opcode.instruction = .hlt := by
  rw [flow, flow_perform_eq_halt_iff]

/-- Everything that a step can be. -/
theorem step_cases (m : Machine σ) :
    m.Executes ∧ m.step = m.execute ∨
      (m.status = .running ∧ m.features.enables m.opcode.group = false) ∧
        m.step = { m with status := .faulted m.fault } ∨
      m.status ≠ .running ∧ m.step = m := by
  by_cases running : m.status = .running
  · cases enabled : m.features.enables m.opcode.group with
    | true => exact Or.inl ⟨⟨running, enabled⟩, step_of_executes ⟨running, enabled⟩⟩
    | false => exact Or.inr (Or.inl ⟨⟨running, rfl⟩, by simp [step, running, enabled]⟩)
  · exact Or.inr (Or.inr ⟨running, if_neg running⟩)

theorem processor_step_of_not_executes {m : Machine σ} (h : ¬m.Executes) :
    m.step.processor = m.processor := by
  rcases m.step_cases with ⟨he, -⟩ | ⟨-, hs⟩ | ⟨-, hs⟩
  · exact absurd he h
  · rw [hs]
  · rw [hs]

theorem processor_step {m : Machine σ} (h : m.Executes) :
    m.step.processor = { m.performed with pc := m.flow.target m.nextAddress } := by
  rw [step_of_executes h, execute_eq]

theorem processor_step_of_next {m : Machine σ} {i : Instruction} {p : Processor}
    (executes : m.Executes) (hi : m.opcode.instruction = i) (input : i ≠ .input)
    (output : i ≠ .output) (effect : m.processor.execute m.operand m.nextAddress i = (p, .next)) :
    m.step.processor = { p with pc := m.nextAddress } := by
  subst hi
  rw [processor_step executes, performed_of_ne input output, flow_of_ne input output, effect]
  rfl

@[simp] theorem sp_step {m : Machine σ} (h : m.Executes) :
    m.step.processor.sp = m.performed.sp := by
  rw [processor_step h]

@[simp] theorem pc_step {m : Machine σ} (h : m.Executes) :
    m.step.processor.pc = m.flow.target m.nextAddress := by
  rw [processor_step h]

@[simp] theorem memory_step {m : Machine σ} (h : m.Executes) :
    m.step.processor.memory = m.performed.memory := by
  rw [processor_step h]

@[simp] theorem flags_step {m : Machine σ} (h : m.Executes) :
    m.step.processor.flags = m.performed.flags := by
  rw [processor_step h]

theorem steps_step {m : Machine σ} (h : m.Executes) : m.step.steps = m.steps + 1 := by
  rw [step_of_executes h, execute_eq]

theorem status_step {m : Machine σ} (h : m.Executes) :
    m.step.status = if m.flow = .halt then .halted else .running := by
  rw [step_of_executes h, execute_eq, h.1]

theorem wrapped_step (m : Machine σ) :
    m.step.wrapped = true ↔ m.wrapped = true ∨ m.PassesTop := by
  rcases m.step_cases with ⟨he, hs⟩ | ⟨⟨-, disabled⟩, hs⟩ | ⟨idle, hs⟩
  · simp [hs, execute_eq, PassesTop, he, reachesTop]
  · simp [hs, PassesTop, Executes, disabled]
  · simp [hs, PassesTop, Executes, idle]

/-! What no step changes: the features of the machine and the bounds of its program. -/

@[simp] theorem features_step (m : Machine σ) : m.step.features = m.features := by
  rcases m.step_cases with ⟨-, hs⟩ | ⟨-, hs⟩ | ⟨-, hs⟩ <;> simp only [hs, execute_eq]

@[simp] theorem programStart_step (m : Machine σ) : m.step.programStart = m.programStart := by
  rcases m.step_cases with ⟨-, hs⟩ | ⟨-, hs⟩ | ⟨-, hs⟩ <;> simp only [hs, execute_eq]

@[simp] theorem programEnd_step (m : Machine σ) : m.step.programEnd = m.programEnd := by
  rcases m.step_cases with ⟨-, hs⟩ | ⟨-, hs⟩ | ⟨-, hs⟩ <;> simp only [hs, execute_eq]

/-- What every step keeps, any number of steps keeps. -/
theorem iterate_keeps {α : Type} {f : Machine σ → α} (keeps : ∀ m, f m.step = f m)
    (m : Machine σ) (n : Nat) : f (step^[n] m) = f m := by
  induction n with
  | zero => rfl
  | succ n ih => rw [Function.iterate_succ_apply', keeps, ih]

@[simp] theorem features_iterate (m : Machine σ) (n : Nat) :
    (step^[n] m).features = m.features :=
  iterate_keeps features_step m n

@[simp] theorem programStart_iterate (m : Machine σ) (n : Nat) :
    (step^[n] m).programStart = m.programStart :=
  iterate_keeps programStart_step m n

@[simp] theorem programEnd_iterate (m : Machine σ) (n : Nat) :
    (step^[n] m).programEnd = m.programEnd :=
  iterate_keeps programEnd_step m n

end Intel8080.Machine
