import Intel8080.Proofs.Machine.Terminal
import Intel8080.Proofs.Run.Fetches

/-! Interrupts are accounted for. The chronicle of a machine lists the instructions that it
executes and the interrupts that it accepts. Whether interrupts are enabled and whether the
machine is halted follows from the chronicle: each accepted interrupt disables interrupts and only
an executed `EI` enables them again, and a halted machine executes nothing. Main statement:
`interrupts_accounted`. -/
namespace Intel8080

inductive Incident
  | executed (i : Instruction)
  | accepted
  deriving DecidableEq

def Instruction.switches (enabled : Bool) : Instruction → Bool
  | .ei => true
  | .di => false
  | _ => enabled

theorem Instruction.switches_le {i : Instruction} (h : i ≠ .ei) (enabled : Bool) :
    (i.switches enabled).toNat ≤ enabled.toNat := by
  cases i with
  | ei => exact absurd rfl h
  | di => exact Nat.zero_le _
  | _ => exact Nat.le_refl _

/-- What the incidents tell of a machine: whether interrupts are enabled, whether it is halted, and
how many instructions it has executed. -/
structure Standing where
  enabled : Bool
  halted : Bool
  steps : Nat

namespace Standing

/-- A halted machine executes nothing, and one with interrupts disabled accepts none. -/
inductive Takes : Standing → Incident → Standing → Prop
  | execute (enabled : Bool) (steps : Nat) (i : Instruction) :
    Takes ⟨enabled, false, steps⟩ (.executed i) ⟨i.switches enabled, i = .hlt, steps + 1⟩
  | accept (halted : Bool) (steps : Nat) :
    Takes ⟨true, halted, steps⟩ .accepted ⟨false, false, steps⟩

inductive Leads : Standing → List Incident → Standing → Prop
  | nil (s : Standing) : Leads s [] s
  | cons {s t u : Standing} {e : Incident} {incidents : List Incident} :
    s.Takes e t → Leads t incidents u → Leads s (e :: incidents) u

variable {s t u : Standing} {incidents : List Incident}

theorem Takes.leads {e : Incident} (h : s.Takes e t) : s.Leads [e] t := .cons h (.nil t)

theorem Leads.append {rest : List Incident} (h : s.Leads incidents t) (hr : t.Leads rest u) :
    s.Leads (incidents ++ rest) u := by
  induction h with
  | nil s => exact hr
  | cons first _ ih => exact .cons first (ih hr)

theorem Leads.exists_of_append {first rest : List Incident} (h : s.Leads (first ++ rest) u) :
    ∃ t, s.Leads first t ∧ t.Leads rest u := by
  induction first generalizing s with
  | nil => exact ⟨s, .nil s, h⟩
  | cons e first ih =>
    cases h with
    | cons taken later =>
      obtain ⟨t, front, back⟩ := ih later
      exact ⟨t, .cons taken front, back⟩

/-- An accepted interrupt costs what one `EI` gives. -/
theorem Takes.balance {e : Incident} (h : s.Takes e t) : t.enabled.toNat + [e].count .accepted ≤
    s.enabled.toNat + [e].count (.executed .ei) := by
  cases h with
  | execute enabled steps i =>
    by_cases ei : i = .ei
    · subst ei
      simp [Instruction.switches]
    · have switched := Instruction.switches_le ei enabled
      simpa [ei] using switched
  | accept halted steps => simp

theorem Leads.balance (h : s.Leads incidents t) : t.enabled.toNat + incidents.count .accepted ≤
    s.enabled.toNat + incidents.count (.executed .ei) := by
  induction h with
  | nil s => exact Nat.le_refl _
  | cons taken _ ih =>
    have first := taken.balance
    rw [List.count_cons, List.count_cons]
    rw [List.count_singleton, List.count_singleton] at first
    omega

theorem Leads.steps (h : s.Leads incidents t) :
    t.steps = s.steps + incidents.countP (· ≠ .accepted) := by
  induction h with
  | nil s => rfl
  | cons taken _ ih =>
    rw [List.countP_cons, ih]
    cases taken with
    | execute enabled steps i => simp; omega
    | accept halted steps => simp

theorem Leads.ei_mem {front middle back : List Incident}
    (h : s.Leads (front ++ .accepted :: (middle ++ .accepted :: back)) u) :
    .executed .ei ∈ middle := by
  obtain ⟨before, -, h⟩ := h.exists_of_append
  cases h with
  | cons taken rest =>
    cases taken with
    | accept halted steps =>
      obtain ⟨enabled, between, h⟩ := rest.exists_of_append
      have paid := between.balance
      cases h with
      | cons taken _ =>
        cases taken with
        | accept =>
          simp only [Bool.toNat_true, Bool.toNat_false] at paid
          have some : 0 < middle.count (.executed .ei) := by omega
          exact List.count_pos_iff.mp some

theorem Leads.eq_accepted {front back : List Incident} {e : Incident}
    (h : s.Leads (front ++ .executed .hlt :: e :: back) u) : e = .accepted := by
  obtain ⟨before, -, h⟩ := h.exists_of_append
  cases h with
  | cons halts rest =>
    cases halts with
    | execute =>
      cases rest with
      | cons taken _ =>
        cases taken with
        | accept => rfl

end Standing

namespace Machine
variable {σ : Type}

def standing (m : Machine σ) : Standing where
  enabled := m.processor.interrupts
  halted := m.status = .halted
  steps := m.steps

theorem standing_of_running {m : Machine σ} (running : m.status = .running) :
    m.standing = ⟨m.processor.interrupts, false, m.steps⟩ := by
  simp [standing, running]

theorem leads_interrupt_of_accepted {m : Machine σ} {v : Byte} (h : (m.interrupt v).1 = true) :
    m.standing.Leads [.accepted] (m.interrupt v).2.standing := by
  have enabled := (interrupt_accepted_iff.mp h).1
  rw [interrupt_of_accepted h, standing, enabled]
  exact (Standing.Takes.accept _ _).leads

theorem standing_reload (m : Machine σ) (image : List Byte) (base : Word) :
    (m.reload image base).standing = m.standing := by
  rw [reload_eq]
  split <;> rfl

variable [Ports σ]

theorem interrupts_perform (p : Processor) (ports : σ) (operand next : Word) (i : Instruction) :
    (perform p ports operand next i).1.interrupts = i.switches p.interrupts := by
  cases i with
  | mov r _ | mvi r | inr r | dcr r => cases r <;> rfl
  | lxi rp | inx rp | dcx rp | pop rp => cases rp <;> rfl
  | callIf cond | retIf cond =>
    cases h : cond.holds p.flags <;> simp only [perform, Processor.execute, h] <;> rfl
  | _ => rfl

theorem standing_step_of_executes {m : Machine σ} (h : m.Executes) :
    m.step.standing = ⟨m.opcode.instruction.switches m.processor.interrupts,
      m.opcode.instruction = .hlt, m.steps + 1⟩ := by
  have interrupts : m.performed.interrupts =
      m.opcode.instruction.switches m.processor.interrupts := by rw [performed, interrupts_perform]
  rw [standing, processor_step h, status_step h, steps_step h, interrupts]
  by_cases hlt : m.opcode.instruction = .hlt
  · rw [if_pos (flow_eq_halt_iff.mpr hlt), hlt]
    rfl
  · rw [if_neg (hlt ∘ flow_eq_halt_iff.mp)]
    simp [hlt]

theorem standing_step_of_not_executes {m : Machine σ} (h : ¬m.Executes) :
    m.step.standing = m.standing := by
  rcases m.step_cases with ⟨he, -⟩ | ⟨⟨running, -⟩, hs⟩ | ⟨-, hs⟩
  · exact absurd he h
  · rw [standing_of_running running, hs]
    simp [standing]
  · rw [hs]

def stepIncidents (m : Machine σ) : List Incident :=
  if m.Executes then [.executed m.opcode.instruction] else []

def incidents (m : Machine σ) : Operation → List Incident
  | .act .step => m.stepIncidents
  | .act (.runLimit limit) => (m.fetches limit).flatMap stepIncidents
  | .act (.interrupt vector) => if (m.interrupt vector).1 then [.accepted] else []
  | .load _ _ | .replaceFeatures _ => []

def chronicle (m : Machine σ) : List Operation → List Incident
  | [] => []
  | operation :: operations => m.incidents operation ++ (m.operate operation).chronicle operations

omit [Ports σ] in
theorem stepIncidents_of_read {m : Machine σ} (code : Byte) (executes : m.Executes)
    (atPC : m.processor.memory.read m.processor.pc = code) :
    m.stepIncidents = [.executed (Opcode.decode code).instruction] := by
  rw [stepIncidents, if_pos executes, opcode_of_read atPC]

theorem leads_step (m : Machine σ) : m.standing.Leads m.stepIncidents m.step.standing := by
  by_cases h : m.Executes
  · rw [stepIncidents, if_pos h, standing_of_running h.1, standing_step_of_executes h]
    exact (Standing.Takes.execute _ _ _).leads
  · rw [stepIncidents, if_neg h, standing_step_of_not_executes h]
    exact .nil _

theorem leads_runLimit (m : Machine σ) (limit : Nat) :
    m.standing.Leads ((m.fetches limit).flatMap stepIncidents) (m.runLimit limit).2.standing := by
  fun_induction fetches limit m with
  | case1 m => exact .nil _
  | case2 limit m r ho =>
    rw [runLimit_of_outcome ho]
    exact .nil _
  | case3 limit m ho ih =>
    rw [runLimit_succ_of_none ho, List.flatMap_cons]
    exact m.leads_step.append ih

theorem leads_operate (m : Machine σ) (operation : Operation) :
    m.standing.Leads (m.incidents operation) (m.operate operation).standing := by
  cases operation with
  | act action =>
    cases action with
    | step => exact m.leads_step
    | runLimit limit => exact m.leads_runLimit limit
    | interrupt vector =>
      cases h : (m.interrupt vector).1 with
      | true =>
        rw [incidents, if_pos h]
        exact leads_interrupt_of_accepted h
      | false =>
        rw [incidents, h, operate, act, interrupt_of_refused h]
        exact .nil _
  | load image base =>
    rw [operate, standing_reload]
    exact .nil _
  | replaceFeatures features => exact .nil _

theorem leads_operated (m : Machine σ) (operations : List Operation) :
    m.standing.Leads (m.chronicle operations) (m.operated operations).standing := by
  induction operations generalizing m with
  | nil => exact .nil _
  | cons operation operations ih => exact (m.leads_operate operation).append (ih _)

theorem halted_operate {m : Machine σ} (h : m.status = .halted) (operation : Operation) :
    (m.operate operation).status = .halted ∨
      ∃ v, operation = .act (.interrupt v) ∧ (m.interrupt v).1 = true := by
  cases operation with
  | act action =>
    cases action with
    | step => exact Or.inl (by rw [operate, act, step_halted h, h])
    | runLimit limit =>
      have stopped := runLimit_of_outcome (outcome?_eq_halted_iff.mpr h) limit
      exact Or.inl (by rw [operate, act, stopped, h])
    | interrupt v =>
      cases accepted : (m.interrupt v).1 with
      | true => exact Or.inr ⟨v, rfl, accepted⟩
      | false => exact Or.inl (by rw [operate, act, interrupt_of_refused accepted, h])
  | load image base => exact Or.inl ((m.sameProgress_reload image base).status.trans h)
  | replaceFeatures features => exact Or.inl h

/-- The chronicle of a machine has all the instructions that its step counter counts. At every point
of it the accepted interrupts are at most as many as the executed `EI`, and one more if interrupts
were enabled at the start. Between two accepted interrupts there is an `EI`, and what comes after a
`HLT` is an accepted interrupt: no other operation ends a halt. -/
theorem interrupts_accounted (m : Machine σ) (operations : List Operation) :
    let incidents := m.chronicle operations
    let last := m.operated operations
    last.steps = m.steps + incidents.countP (· ≠ .accepted) ∧
    (∀ k, (incidents.take k).count .accepted ≤
      m.processor.interrupts.toNat + (incidents.take k).count (.executed .ei)) ∧
    (∀ front middle back, incidents = front ++ .accepted :: (middle ++ .accepted :: back) →
      .executed .ei ∈ middle) ∧
    (∀ front e back, incidents = front ++ .executed .hlt :: e :: back → e = .accepted) ∧
    (last.status = .halted → ∀ operation, (last.operate operation).status = .halted ∨
      ∃ v, operation = .act (.interrupt v) ∧ (last.interrupt v).1 = true) := by
  intro incidents last
  have leads : m.standing.Leads incidents last.standing := m.leads_operated operations
  refine ⟨leads.steps, fun k => ?_, fun front middle back h => ?_, fun front e back h => ?_,
    halted_operate⟩
  · rw [← incidents.take_append_drop k] at leads
    obtain ⟨between, first, -⟩ := leads.exists_of_append
    exact Nat.le_trans (Nat.le_add_left _ _) first.balance
  · rw [h] at leads
    exact leads.ei_mem
  · rw [h] at leads
    exact leads.eq_accepted

/-- A halted machine with interrupts enabled. At address 8 it finds `EI` and `HLT`. -/
def servesOne : Machine Unconnected where
  processor := { interrupts := true, memory := (Memory.zero.write 8 0xFB).write 9 0x76 }
  ports := ⟨⟩
  status := .halted

def twoRequests : List Operation :=
  [.act (.interrupt 1), .act .step, .act .step, .act (.interrupt 1)]

def serving (enabled : Bool) (pc : Word) (status : Status) (steps : Nat) : Machine Unconnected :=
  { servesOne with
    processor := { servesOne.processor.push 0 with interrupts := enabled, pc }
    status
    steps }

theorem interrupt_servesOne : servesOne.interrupt 1 = (true, serving false 8 .running 0) := rfl

theorem read_serving : (servesOne.processor.push 0).memory.read 8 = 0xFB ∧
    (servesOne.processor.push 0).memory.read 9 = 0x76 := by
  constructor <;> simp [servesOne, Processor.push, Memory.read_writeWord, Memory.read_write]

theorem chronicle_servesOne : servesOne.chronicle twoRequests =
    [.accepted, .executed .ei, .executed .hlt, .accepted] := by
  obtain ⟨ei, hlt⟩ := read_serving
  have h1 : (serving false 8 .running 0).step = serving true 9 .running 1 :=
    step_eq_of_read 8 0xFB _ rfl rfl rfl ei rfl rfl
  have h2 : (serving true 9 .running 1).step = serving true 10 .halted 2 :=
    step_eq_of_read 9 0x76 _ rfl rfl rfl hlt rfl rfl
  have first : (serving false 8 .running 0).stepIncidents = [.executed .ei] :=
    stepIncidents_of_read 0xFB (executes_of_all rfl rfl) ei
  have second : (serving true 9 .running 1).stepIncidents = [.executed .hlt] :=
    stepIncidents_of_read 0x76 (executes_of_all rfl rfl) hlt
  simp only [twoRequests, chronicle, incidents, operate, act, interrupt_servesOne, h1, h2, first,
    second]
  rfl

/-- Two interrupts are accepted, one for the interrupts being enabled and one for the `EI`. -/
theorem servesOne_accounted :
    (servesOne.operated twoRequests).steps = 2 ∧
    (servesOne.chronicle twoRequests).count .accepted = 2 ∧
    (servesOne.chronicle twoRequests).count .accepted ≤
      servesOne.processor.interrupts.toNat +
        (servesOne.chronicle twoRequests).count (.executed .ei) ∧
    servesOne.status = .halted ∧ (servesOne.operate (.act (.runLimit 5))).status = .halted := by
  obtain ⟨steps, accounted, -⟩ := interrupts_accounted servesOne twoRequests
  obtain ⟨-, -, -, -, waits⟩ := interrupts_accounted servesOne []
  have all := accounted 4
  rw [chronicle_servesOne] at steps all ⊢
  refine ⟨steps, rfl, all, rfl, ?_⟩
  rcases waits rfl (.act (.runLimit 5)) with halted | ⟨v, run, -⟩
  · exact halted
  · cases run

end Machine
end Intel8080
