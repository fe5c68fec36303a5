import Intel8080.Ports.Recorded
import Intel8080.Proofs.Features.Extension
import Intel8080.Proofs.Machine.Load

/-! Faults are final. A step that meets an opcode of a disabled group notes the fault and changes
nothing else, and no other step faults. Afterwards nothing lets the machine go on: no interrupt
request, no other program and no further group. Main statement: `fault_final`. -/
namespace Intel8080

inductive Operation
  | act (action : Action)
  | load (image : List Byte) (base : Word)
  | replaceFeatures (features : FeatureSet)

namespace Machine
variable {σ : Type}

/-- Place another program. The machine stays as it is if the program does not fit. -/
def reload (m : Machine σ) (image : List Byte) (base : Word) : Machine σ :=
  match m.load image base with
  | .ok n => n
  | .error _ => m

theorem reload_eq (m : Machine σ) (image : List Byte) (base : Word) :
    m.reload image base = if Memory.Fits base image then m.loaded image base else m := by
  rw [reload, load_eq]
  by_cases fits : Memory.Fits base image
  · rw [if_pos fits, if_pos fits]
  · rw [if_neg fits, if_neg fits]

structure SameProgress (m n : Machine σ) : Prop where
  status : n.status = m.status
  steps : n.steps = m.steps
  ports : n.ports = m.ports

theorem SameProgress.refl (m : Machine σ) : m.SameProgress m := ⟨rfl, rfl, rfl⟩

theorem SameProgress.trans {m n k : Machine σ} (first : m.SameProgress n)
    (second : n.SameProgress k) : m.SameProgress k :=
  ⟨second.status.trans first.status, second.steps.trans first.steps,
    second.ports.trans first.ports⟩

theorem SameProgress.faulted {m n : Machine σ} (same : m.SameProgress n) (h : m.Faulted) :
    n.Faulted := by
  obtain ⟨f, hf⟩ := h
  exact ⟨f, same.status.trans hf⟩

theorem sameProgress_reload (m : Machine σ) (image : List Byte) (base : Word) :
    m.SameProgress (m.reload image base) := by
  rw [reload_eq]
  split
  · exact ⟨rfl, rfl, rfl⟩
  · exact .refl m

theorem sameProgress_withFeatures (m : Machine σ) (features : FeatureSet) :
    m.SameProgress (m.withFeatures features) := ⟨rfl, rfl, rfl⟩

theorem fault_eq (m : Machine σ) :
    let code := m.processor.memory.read m.processor.pc
    m.fault = ⟨m.processor.pc, code, (Opcode.lookup code).mnemonic⟩ := by
  intro code
  have hc : m.opcode.code = code := Opcode.code_lookup code
  rw [fault, hc]
  rfl

variable [Ports σ]

def operate (m : Machine σ) : Operation → Machine σ
  | .act action => m.act action
  | .load image base => m.reload image base
  | .replaceFeatures features => m.withFeatures features

def operated (m : Machine σ) (operations : List Operation) : Machine σ :=
  operations.foldl operate m

theorem sameProgress_operate {m : Machine σ} (h : m.Faulted) (operation : Operation) :
    m.SameProgress (m.operate operation) := by
  cases operation with
  | act action =>
    rw [operate, act_of_faulted h]
    exact .refl m
  | load image base => exact m.sameProgress_reload image base
  | replaceFeatures features => exact m.sameProgress_withFeatures features

theorem sameProgress_operated {m : Machine σ} (h : m.Faulted) (operations : List Operation) :
    m.SameProgress (m.operated operations) := by
  induction operations generalizing m with
  | nil => exact .refl m
  | cons operation operations ih =>
    have now := sameProgress_operate h operation
    exact now.trans (ih (now.faulted h))

theorem not_faulted_step_of_executes {m : Machine σ} (h : m.Executes) : ¬m.step.Faulted := by
  intro faulted
  obtain ⟨-, lacks⟩ := faults_of_faulted_step (not_faulted_of_running h.1) faulted
  exact absurd (h.2.symm.trans lacks) Bool.noConfusion

/-- A running machine faults exactly on the opcodes of the groups that it lacks, and notes the
place, the byte and its mnemonic without any other effect. A machine that has faulted stays so under
all further operations: it executes nothing and its device is left alone, and none of its steps,
runs and interrupt requests changes it. -/
theorem fault_final (m : Machine σ) :
    let code := m.processor.memory.read m.processor.pc
    (m.status = .running → m.features.enables (Opcode.lookup code).group = false →
      m.step = { m with
        status := .faulted ⟨m.processor.pc, code, (Opcode.lookup code).mnemonic⟩ }) ∧
    (m.status = .running → m.features.enables (Opcode.lookup code).group = true →
      ¬m.step.Faulted) ∧
    (∀ f, m.status = .faulted f → ∀ operations : List Operation,
      let last := m.operated operations
      last.status = .faulted f ∧ last.steps = m.steps ∧ last.ports = m.ports ∧
        last.step = last ∧ (∀ limit, last.runLimit limit = (.error f, last)) ∧
        last.run = (.error f, last) ∧ ∀ v, last.interrupt v = (false, last)) := by
  intro code
  refine ⟨fun running lacks => ?_, fun running enabled => ?_, fun f hf operations => ?_⟩
  · rw [step_of_faults ⟨running, lacks⟩, fault_eq]
  · exact not_faulted_step_of_executes ⟨running, enabled⟩
  · have same := sameProgress_operated ⟨f, hf⟩ operations
    have stays : (m.operated operations).status = .faulted f := same.status.trans hf
    exact ⟨stays, same.steps, same.ports, step_faulted stays, runLimit_of_faulted stays,
      runLimit_of_faulted stays maxLimit, interrupt_of_faulted ⟨f, stays⟩⟩

/-- `OUT 5` at address 0, with interrupts enabled, on a machine without the optional groups. -/
def lacksPorts : Machine (Recorded Unconnected) where
  processor := { a := 7, interrupts := true, memory := (Memory.zero.write 0 0xD3).write 1 5 }
  ports := ⟨⟨⟩, []⟩
  features := .minimal
  programEnd := 2

def outFault : Fault := ⟨0, 0xD3, "OUT"⟩

def attempts : List Operation :=
  [.act (.interrupt 3), .replaceFeatures .all, .load [0x00] 0x20, .act (.runLimit 5), .act .step]

/-- The write to the port never happens, and the same machine with the ports does not fault. -/
theorem lacksPorts_final :
    lacksPorts.step = { lacksPorts with status := .faulted outFault } ∧
    ¬(lacksPorts.withFeatures .all).step.Faulted ∧
    (lacksPorts.step.operated attempts).status = .faulted outFault ∧
    (lacksPorts.step.operated attempts).steps = 0 ∧
    (lacksPorts.step.operated attempts).ports.accesses = [] ∧
    ((lacksPorts.step.operated attempts).interrupt 1).1 = false := by
  have out : lacksPorts.processor.memory.read lacksPorts.processor.pc = 0xD3 := by
    simp [lacksPorts, Memory.read_write]
  have hd : Opcode.lookup 0xD3 = .decode 0xD3 := Opcode.lookup_eq_decode 0xD3
  have faults : lacksPorts.step = { lacksPorts with status := .faulted outFault } := by
    obtain ⟨atomic, -, -⟩ := lacksPorts.fault_final
    simp only [out, hd] at atomic
    exact atomic rfl rfl
  have goesOn : ¬(lacksPorts.withFeatures .all).step.Faulted := by
    obtain ⟨-, sound, -⟩ := (lacksPorts.withFeatures .all).fault_final
    simp only [processor_withFeatures, out, hd] at sound
    exact sound rfl rfl
  have faulted : lacksPorts.step.status = .faulted outFault := by rw [faults]
  obtain ⟨-, -, final⟩ := lacksPorts.step.fault_final
  obtain ⟨status, steps, ports, -, -, -, refused⟩ := final outFault faulted attempts
  refine ⟨faults, goesOn, status, ?_, ?_, ?_⟩
  · rw [steps, faults]
    rfl
  · rw [ports, faults]
    rfl
  · rw [refused]

end Machine
end Intel8080
