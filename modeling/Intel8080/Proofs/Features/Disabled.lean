import Intel8080.Proofs.Interrupt.Accounting
import Intel8080.Proofs.Opcode.Encodings
import Intel8080.Proofs.Ports.Traffic

/-! Disabled groups. An instruction of a disabled group is never executed, also if a program writes
its opcode byte itself. Without the ports the device is never used. Without the interrupts nothing
enables them, so that no request is accepted and a halt is final. Main statement:
`disabled_never_acts`. -/
namespace Intel8080

theorem Standing.Leads.eq_of_halted {n : Nat} {t : Standing} {incidents : List Incident}
    (h : Leads ⟨false, true, n⟩ incidents t) : t = ⟨false, true, n⟩ := by
  cases h with
  | nil => rfl
  | cons taken _ => cases taken

namespace Machine
variable {σ : Type}

theorem interrupt_of_clear {m : Machine σ} (h : m.processor.interrupts = false) (v : Byte) :
    m.interrupt v = (false, m) := by
  simp [interrupt, h]

/-- The group is disabled, and none of the operations enables it. -/
structure Lacks (m : Machine σ) (g : Group) (operations : List Operation) : Prop where
  disabled : m.features.enables g = false
  kept : ∀ features, .replaceFeatures features ∈ operations → features.enables g = false

variable [Ports σ] {m : Machine σ} {g : Group}

theorem Lacks.operate {operation : Operation} {operations : List Operation}
    (h : m.Lacks g (operation :: operations)) : (m.operate operation).Lacks g operations := by
  refine ⟨?_, fun features hf => h.kept features (List.mem_cons_of_mem _ hf)⟩
  cases operation with
  | act action => rw [Machine.operate, features_act, h.disabled]
  | load image base =>
    rw [Machine.operate, reload_eq]
    split
    · exact h.disabled
    · exact h.disabled
  | replaceFeatures features => exact h.kept features List.mem_cons_self

theorem Lacks.disabled_of_mem {operations : List Operation} (h : m.Lacks g operations)
    {s : Machine σ} (hs : s ∈ m.executions operations) : s.features.enables g = false := by
  induction operations generalizing m with
  | nil => exact absurd hs List.not_mem_nil
  | cons operation operations ih =>
    rcases List.mem_append.mp hs with now | later
    · obtain ⟨limit, rfl⟩ := exists_runLimit_of_mem_stepsIn (List.mem_filter.mp now).1
      have same : (m.runLimit limit).2.features = m.features := m.features_act (.runLimit limit)
      rw [same, h.disabled]
    · exact ih h.operate later

theorem Lacks.group_ne {operations : List Operation} (h : m.Lacks g operations) {s : Machine σ}
    (hs : s ∈ m.executions operations) : s.opcode.group ≠ g := by
  rintro rfl
  have enabled := (executes_of_mem_executions hs).2
  rw [h.disabled_of_mem hs] at enabled
  exact Bool.noConfusion enabled

theorem access?_of_group_ne (h : m.opcode.group ≠ .io) : m.access? = none := by
  have other : m.opcode.instruction ∉ [.input, .output] :=
    fun hi => h ((Opcode.group_lookup_eq_io_iff _).mpr hi)
  unfold access?
  cases hi : m.opcode.instruction with
  | input | output => simp [hi] at other
  | _ => rfl

theorem Lacks.filterMap_access? {operations : List Operation} (h : m.Lacks .io operations) :
    (m.executions operations).filterMap access? = [] :=
  List.filterMap_eq_nil_iff.mpr fun _ hs => access?_of_group_ne (h.group_ne hs)

/-! What the chronicle says of the executed instructions. -/

theorem executed_mem_incidents_iff {operation : Operation} {i : Instruction} :
    .executed i ∈ m.incidents operation ↔
      ∃ s ∈ m.stepsIn operation, s.Executes ∧ s.opcode.instruction = i := by
  have one (s : Machine σ) : .executed i ∈ s.stepIncidents ↔
      s.Executes ∧ s.opcode.instruction = i := by
    by_cases h : s.Executes <;> simp [stepIncidents, h, eq_comm]
  rcases operation with (_ | limit | v) | _ | _
  · simp [incidents, stepsIn, one]
  · simp [incidents, stepsIn, one]
  · cases h : (m.interrupt v).1 <;> simp [incidents, stepsIn, h]
  all_goals simp [incidents, stepsIn]

theorem executed_mem_chronicle_iff {operations : List Operation} {i : Instruction} :
    .executed i ∈ m.chronicle operations ↔
      ∃ s ∈ m.executions operations, s.opcode.instruction = i := by
  induction operations generalizing m with
  | nil => simp [chronicle, executions]
  | cons operation operations ih =>
    simp [chronicle, executions, ih, executed_mem_incidents_iff, or_and_right, exists_or, and_assoc]

/-- Without `EI` the balance of the interrupts stays at nothing. -/
theorem Lacks.clear_operated {operations : List Operation} (h : m.Lacks .interrupt operations)
    (clear : m.processor.interrupts = false) :
    (m.operated operations).processor.interrupts = false := by
  have never : .executed .ei ∉ m.chronicle operations := fun hi => by
    obtain ⟨s, hs, ei⟩ := executed_mem_chronicle_iff.mp hi
    exact h.group_ne hs ((Opcode.group_lookup_eq_interrupt_iff _).mpr (by simp [← ei, opcode]))
  have balance := (m.leads_operated operations).balance
  rw [List.count_eq_zero.mpr never] at balance
  simp only [standing, clear, Bool.toNat_false] at balance
  cases enabled : (m.operated operations).processor.interrupts with
  | false => rfl
  | true => simp [enabled] at balance

theorem halted_operated_of_clear (halted : m.status = .halted)
    (clear : m.processor.interrupts = false) (operations : List Operation) :
    (m.operated operations).status = .halted := by
  have stands : m.standing = ⟨false, true, m.steps⟩ := by simp [standing, halted, clear]
  have leads := m.leads_operated operations
  rw [stands] at leads
  have stays : (m.operated operations).standing.halted = true := by rw [leads.eq_of_halted]
  simpa [standing] using stays

/-- Whatever is done to a machine that lacks a group for good, no instruction of the group is
executed. Without the group of the ports nothing is read from a port or written to one. Without the
group of the interrupts, and with interrupts disabled at the start, they stay so, also within the
runs: no request is accepted, and a machine that has halted stays halted. -/
theorem disabled_never_acts (m : Machine σ) (operations : List Operation) :
    (∀ g, m.Lacks g operations → ∀ s ∈ m.executions operations, s.opcode.group ≠ g) ∧
    (m.Lacks .io operations →
      (m.recorded.operated operations).ports.accesses = [] ∧
      (m.operated operations).ports = m.ports) ∧
    (m.Lacks .interrupt operations → m.processor.interrupts = false →
      (∀ s ∈ m.executions operations, s.processor.interrupts = false) ∧
      ∀ before rest, operations = before ++ rest →
        let now := m.operated before
        now.processor.interrupts = false ∧ (∀ v, now.interrupt v = (false, now)) ∧
        (now.status = .halted → (m.operated operations).status = .halted)) := by
  refine ⟨fun g lacks s hs => lacks.group_ne hs, fun lacks => ⟨?_, ?_⟩,
    fun lacks clear => ⟨fun s hs => ?_, ?_⟩⟩
  · rw [accesses_recorded, lacks.filterMap_access?]
  · rw [ports_operated, lacks.filterMap_access?, List.foldl_nil]
  · -- the machine is the end of other operations, which do not enable the group either
    obtain ⟨before, limit, hp, rfl⟩ := exists_operated_of_mem_executions hs
    have shorter : m.Lacks .interrupt (before ++ [.act (.runLimit limit)]) := by
      refine ⟨lacks.disabled, fun features hf => lacks.kept features (hp.subset ?_)⟩
      simpa using hf
    exact shorter.clear_operated clear
  · rintro before rest rfl now
    have front : m.Lacks .interrupt before :=
      ⟨lacks.disabled, fun features hf => lacks.kept features (List.mem_append_left rest hf)⟩
    have stays : now.processor.interrupts = false := front.clear_operated clear
    refine ⟨stays, interrupt_of_clear stays, fun halted => ?_⟩
    have split : m.operated (before ++ rest) = now.operated rest := List.foldl_append
    rw [split, halted_operated_of_clear halted stays]

/-- `STA 3` at address 0, which puts the accumulator behind the instruction. The machine has the
base group alone. -/
def writesNext (code : Byte) : Machine Unconnected where
  processor := { a := code, memory := Memory.zero.storeAll [(0, 0x32), (1, 3)] }
  ports := ⟨⟩
  features := .minimal
  programEnd := 4

def wroteNext (code : Byte) : Machine Unconnected :=
  { writesNext code with
    processor :=
      { (writesNext code).processor with
        pc := 3, memory := (writesNext code).processor.memory.write 3 code }
    steps := 1 }

theorem step_writesNext (code : Byte) : (writesNext code).step = wroteNext code :=
  step_eq_of_read 0 0x32 3 rfl rfl rfl
    (by simp [writesNext, Memory.read_write])
    (by simp [writesNext, Memory.readWord, Memory.read_write, Word.ofBytes]) rfl

theorem operated_writesNext (code : Byte) :
    (writesNext code).operated [.act (.runLimit 2)] = (wroteNext code).step := by
  simp only [operated, List.foldl, operate, act]
  rw [runLimit_succ_of_none rfl, step_writesNext, runLimit_succ_of_none rfl]
  simp only [runLimit]

theorem opcode_wroteNext (code : Byte) : (wroteNext code).opcode = .decode code :=
  opcode_of_read (by simp [wroteNext])

theorem features_wroteNext (code : Byte) : (wroteNext code).features = .minimal := rfl

theorem faults_writesNext {code : Byte} (optional : (Opcode.decode code).group ≠ .base) :
    ((writesNext code).operated [.act (.runLimit 2)]).status =
      .faulted ⟨3, code, (Opcode.decode code).mnemonic⟩ := by
  have lacks : (wroteNext code).features.enables (wroteNext code).opcode.group = false := by
    simp [features_wroteNext, opcode_wroteNext, optional]
  rw [operated_writesNext, step_of_faults ⟨rfl, lacks⟩, fault, opcode_wroteNext]
  rfl

theorem halts_writesNext : ((writesNext 0x76).operated [.act (.runLimit 2)]).status = .halted := by
  have hlt : (wroteNext 0x76).opcode.instruction = .hlt := by rw [opcode_wroteNext]; rfl
  have base : (wroteNext 0x76).features.enables (wroteNext 0x76).opcode.group = true := by
    rw [features_wroteNext, opcode_wroteNext]; rfl
  rw [operated_writesNext, status_step ⟨rfl, base⟩, if_pos (flow_eq_halt_iff.mpr hlt)]

def runAndRequest : List Operation := [.act (.runLimit 2), .act (.interrupt 1), .act .step]

theorem lacks_writesNext (code : Byte) {g : Group} (optional : g ≠ .base) :
    (writesNext code).Lacks g runAndRequest := by
  refine ⟨?_, fun features hf => ?_⟩
  · simp [writesNext, optional]
  · simp [runAndRequest] at hf

/-- The machine meets the `OUT` and the `EI` that it has written, and faults on them. It halts on
the `HLT`, and no request ends that. -/
theorem writesNext_never_acts :
    ((writesNext 0xD3).operated [.act (.runLimit 2)]).status = .faulted ⟨3, 0xD3, "OUT"⟩ ∧
    ((writesNext 0xD3).recorded.operated runAndRequest).ports.accesses = [] ∧
    ((writesNext 0xFB).operated [.act (.runLimit 2)]).status = .faulted ⟨3, 0xFB, "EI"⟩ ∧
    ((writesNext 0xFB).operated [.act (.runLimit 2)]).processor.interrupts = false ∧
    ((writesNext 0x76).operated [.act (.runLimit 2)]).status = .halted ∧
    ((writesNext 0x76).operated runAndRequest).status = .halted := by
  obtain ⟨-, silent, -⟩ := (writesNext 0xD3).disabled_never_acts runAndRequest
  obtain ⟨-, -, clear⟩ := (writesNext 0xFB).disabled_never_acts runAndRequest
  obtain ⟨-, -, final⟩ := (writesNext 0x76).disabled_never_acts runAndRequest
  obtain ⟨accesses, -⟩ := silent (lacks_writesNext _ (by decide))
  obtain ⟨-, quiet⟩ := clear (lacks_writesNext _ (by decide)) rfl
  obtain ⟨-, waits⟩ := final (lacks_writesNext _ (by decide)) rfl
  obtain ⟨stays, -⟩ := quiet [.act (.runLimit 2)] _ rfl
  obtain ⟨-, -, ever⟩ := waits [.act (.runLimit 2)] _ rfl
  exact ⟨faults_writesNext (by decide), accesses, faults_writesNext (by decide), stays,
    halts_writesNext, ever halts_writesNext⟩

end Machine
end Intel8080
