import Intel8080.Proofs.Machine.History

/-! Faults. A machine faults in a step that meets an opcode of a disabled group, and never changes
again; a history in which a machine has faulted contains the step at which it did. -/
namespace Intel8080

def Action.maxSteps : Action → Nat
  | .step => 1
  | .runLimit limit => limit
  | .interrupt _ => 0

namespace Machine
variable {σ : Type}

def Faulted (m : Machine σ) : Prop := ∃ f, m.status = .faulted f

/-- The next step meets an opcode of a group that the machine lacks. -/
def Faults (m : Machine σ) : Prop :=
  m.status = .running ∧ m.features.enables m.opcode.group = false

instance (m : Machine σ) : Decidable m.Faults := inferInstanceAs (Decidable (_ ∧ _))

theorem not_faulted_of_running {m : Machine σ} (h : m.status = .running) : ¬m.Faulted := by
  rintro ⟨f, hf⟩
  rw [h] at hf
  cases hf

theorem interrupt_of_faulted {m : Machine σ} (h : m.Faulted) (v : Byte) :
    m.interrupt v = (false, m) := by
  obtain ⟨f, hf⟩ := h
  cases hi : m.processor.interrupts <;> simp [interrupt, hi, hf]

theorem interrupt_accepted_iff {m : Machine σ} {v : Byte} :
    (m.interrupt v).1 = true ↔ m.processor.interrupts = true ∧ ¬m.Faulted := by
  cases hi : m.processor.interrupts <;> cases hs : m.status <;>
    simp [interrupt, Faulted, hi, hs]

theorem not_faulted_interrupt {m : Machine σ} (h : ¬m.Faulted) (v : Byte) :
    ¬(m.interrupt v).2.Faulted := by
  cases ha : (m.interrupt v).1 with
  | true =>
    rw [interrupt_of_accepted ha]
    exact not_faulted_of_running rfl
  | false => rwa [interrupt_of_refused ha]

variable [Ports σ]

theorem step_of_faults {m : Machine σ} (h : m.Faults) :
    m.step = { m with status := .faulted m.fault } := by
  simp [step, h.1, h.2]

theorem faulted_step_of_faults {m : Machine σ} (h : m.Faults) : m.step.Faulted :=
  ⟨m.fault, by rw [step_of_faults h]⟩

theorem faults_of_faulted_step {m : Machine σ} (sound : ¬m.Faulted) (h : m.step.Faulted) :
    m.Faults := by
  rcases m.step_cases with ⟨he, -⟩ | ⟨hf, -⟩ | ⟨-, hs⟩
  · obtain ⟨f, hf⟩ := h
    rw [status_step he] at hf
    split at hf <;> cases hf
  · exact hf
  · rw [hs] at h
    exact absurd h sound

theorem runLimit_of_faulted {m : Machine σ} {f : Fault} (h : m.status = .faulted f) (limit : Nat) :
    m.runLimit limit = (.error f, m) :=
  runLimit_of_outcome (outcome?_eq_error_iff.mpr h) limit

theorem not_faults_of_runLimit_step {m : Machine σ} {limit : Nat}
    (sound : ¬(m.step.runLimit limit).2.Faulted) : ¬m.Faults := by
  intro faults
  obtain ⟨f, hf⟩ := faulted_step_of_faults faults
  rw [runLimit_of_faulted hf] at sound
  exact sound ⟨f, hf⟩

theorem act_of_faulted {m : Machine σ} (h : m.Faulted) (a : Action) : m.act a = m := by
  cases a with
  | step =>
    obtain ⟨f, hf⟩ := h
    exact step_faulted hf
  | runLimit limit =>
    obtain ⟨f, hf⟩ := h
    rw [act, runLimit_of_faulted hf]
  | interrupt v => rw [act, interrupt_of_faulted h]

theorem iterate_of_faulted {m : Machine σ} (h : m.Faulted) (n : Nat) : step^[n] m = m :=
  Function.iterate_fixed (act_of_faulted h .step) n

theorem not_faults_of_lt {m : Machine σ} {j k : Nat} (h : (step^[k] m).Faults) (hj : j < k) :
    ¬(step^[j] m).Faults := by
  intro early
  obtain ⟨rest, rfl⟩ := Nat.exists_eq_add_of_lt hj
  have faulted : (step^[j + 1] m).Faulted := by
    rw [Function.iterate_succ_apply']
    exact faulted_step_of_faults early
  have stays : step^[j + rest + 1] m = step^[j + 1] m := by
    rw [Nat.add_right_comm, Nat.add_comm, Function.iterate_add_apply, iterate_of_faulted faulted]
  rw [stays] at h
  exact not_faulted_of_running h.1 faulted

theorem after_of_faulted {m : Machine σ} (h : m.Faulted) (history : List Action) :
    m.after history = m := by
  induction history with
  | nil => rfl
  | cons a history ih => rw [after_cons, act_of_faulted h, ih]

theorem not_faulted_of_isPrefix {m : Machine σ} {first history : List Action}
    (h : ¬(m.after history).Faulted) (hp : first <+: history) : ¬(m.after first).Faulted := by
  obtain ⟨rest, rfl⟩ := hp
  intro faulted
  rw [after_append, after_of_faulted faulted] at h
  exact h faulted

theorem exists_faults_of_act {m : Machine σ} {a : Action} (sound : ¬m.Faulted)
    (h : (m.act a).Faulted) :
    ∃ k < a.maxSteps, (step^[k] m).Faults ∧ m.act a = (step^[k] m).step := by
  cases a with
  | step => exact ⟨0, Nat.one_pos, faults_of_faulted_step sound h, rfl⟩
  | runLimit limit =>
    obtain ⟨n, hn, runs, he, -⟩ := m.exists_runLimit_eq_iterate limit
    rw [act, he] at h
    cases n with
    | zero => exact absurd h sound
    | succ k =>
      have running := (outcome?_eq_none_iff.mp (runs k (Nat.lt_succ_self k))).1
      rw [Function.iterate_succ_apply'] at h he
      exact ⟨k, hn, faults_of_faulted_step (not_faulted_of_running running) h, he⟩
  | interrupt v => exact absurd h (not_faulted_interrupt sound v)

/-- A history in which a machine faults leads to the step that does, and that step is the last to
change anything. -/
theorem exists_faults_of_after {m : Machine σ} {history : List Action} (sound : ¬m.Faulted)
    (h : (m.after history).Faulted) :
    ∃ before a rest k, history = before ++ a :: rest ∧ k < a.maxSteps ∧
      (step^[k] (m.after before)).Faults ∧ m.after history = (step^[k] (m.after before)).step := by
  induction history generalizing m with
  | nil => exact absurd h sound
  | cons a history ih =>
    rw [after_cons] at h
    by_cases now : (m.act a).Faulted
    · obtain ⟨k, hk, faults, he⟩ := exists_faults_of_act sound now
      refine ⟨[], a, history, k, rfl, hk, faults, ?_⟩
      rw [after_cons, after_of_faulted now, he, after_nil]
    · obtain ⟨before, b, rest, k, rfl, hk, faults, he⟩ := ih now h
      exact ⟨a :: before, b, rest, k, rfl, hk, faults, he⟩

end Machine
end Intel8080
