import Intel8080.Proofs.Machine.Terminal
import Intel8080.Proofs.Run.Fetches

/-! The instructions that some operations execute. `executions` lists the machines at which they
do, each as it stands before the instruction. The device and the step counter change with these
instructions alone, so that what is read off them is gathered along the list
(`operated_eq_foldl`). -/
namespace Intel8080.Machine
variable {σ : Type} [Ports σ]

def stepsIn (m : Machine σ) : Operation → List (Machine σ)
  | .act .step => [m]
  | .act (.runLimit limit) => m.fetches limit
  | .act (.interrupt _) | .load _ _ | .replaceFeatures _ => []

/-- The machines at which some operations execute an instruction, the first operation first. -/
def executions (m : Machine σ) : List Operation → List (Machine σ)
  | [] => []
  | operation :: operations =>
    (m.stepsIn operation).filter (fun s => s.Executes) ++
      (m.operate operation).executions operations

theorem executes_of_mem_executions {m s : Machine σ} {operations : List Operation}
    (h : s ∈ m.executions operations) : s.Executes := by
  induction operations generalizing m with
  | nil => simp [executions] at h
  | cons operation operations ih =>
    rcases List.mem_append.mp h with now | later
    · simpa using (List.mem_filter.mp now).2
    · exact ih later

theorem executions_step_of_executes {m : Machine σ} (h : m.Executes)
    (operations : List Operation) :
    m.executions (.act .step :: operations) = m :: m.step.executions operations := by
  simp [executions, stepsIn, operate, act, h]

theorem executions_step_of_not_executes {m : Machine σ} (h : ¬m.Executes)
    (operations : List Operation) :
    m.executions (.act .step :: operations) = m.step.executions operations := by
  simp [executions, stepsIn, operate, act, h]

theorem exists_runLimit_of_mem_fetches {m s : Machine σ} {limit : Nat} (h : s ∈ m.fetches limit) :
    ∃ shorter, (m.runLimit shorter).2 = s := by
  fun_induction fetches limit m with
  | case1 m => exact absurd h List.not_mem_nil
  | case2 limit m r ho => exact absurd h List.not_mem_nil
  | case3 limit m ho ih =>
    rcases List.mem_cons.mp h with rfl | h
    · exact ⟨0, rfl⟩
    · obtain ⟨shorter, hs⟩ := ih h
      exact ⟨shorter + 1, by rw [runLimit_succ_of_none ho, hs]⟩

theorem exists_runLimit_of_mem_stepsIn {m s : Machine σ} {operation : Operation}
    (h : s ∈ m.stepsIn operation) : ∃ limit, (m.runLimit limit).2 = s := by
  rcases operation with (_ | limit | _) | _ | _
  · obtain rfl := List.mem_singleton.mp h
    exact ⟨0, rfl⟩
  · exact exists_runLimit_of_mem_fetches h
  all_goals exact absurd h List.not_mem_nil

/-- A machine at which an instruction is executed is the end of some of the operations, of which the
last one may be a shorter run. -/
theorem exists_operated_of_mem_executions {m s : Machine σ} {operations : List Operation}
    (h : s ∈ m.executions operations) :
    ∃ before limit, before <+: operations ∧
      m.operated (before ++ [.act (.runLimit limit)]) = s := by
  induction operations generalizing m with
  | nil => simp [executions] at h
  | cons operation operations ih =>
    rcases List.mem_append.mp h with now | later
    · obtain ⟨limit, hs⟩ := exists_runLimit_of_mem_stepsIn (List.mem_filter.mp now).1
      exact ⟨[], limit, List.nil_prefix, hs⟩
    · obtain ⟨before, limit, hp, hs⟩ := ih later
      exact ⟨operation :: before, limit, List.cons_prefix_cons.mpr ⟨rfl, hp⟩, hs⟩

/-! What happens to the device and the step counter. -/

theorem ports_step {m : Machine σ} (h : m.Executes) : m.step.ports = m.answered := by
  rw [step_of_executes h, execute_eq]

theorem step_of_not_executes {m : Machine σ} (h : ¬m.Executes) :
    m.step.ports = m.ports ∧ m.step.steps = m.steps := by
  rcases m.step_cases with ⟨he, -⟩ | ⟨-, hs⟩ | ⟨-, hs⟩
  · exact absurd he h
  · simp [hs]
  · simp [hs]

omit [Ports σ] in
theorem sameDevice_interrupt (m : Machine σ) (v : Byte) :
    (m.interrupt v).2.ports = m.ports ∧ (m.interrupt v).2.steps = m.steps := by
  obtain ⟨p, s, he⟩ := m.exists_interrupt_eq v
  simp [he]

section Fold
variable {α : Type} {view : σ → Nat → α} {effect : α → Machine σ → α}
  (law : ∀ m : Machine σ, m.Executes →
    view m.step.ports m.step.steps = effect (view m.ports m.steps) m)
include law

theorem view_step (m : Machine σ) : view m.step.ports m.step.steps =
    ([m].filter fun s => s.Executes).foldl effect (view m.ports m.steps) := by
  by_cases h : m.Executes
  · simp [h, law m h]
  · obtain ⟨ports, steps⟩ := step_of_not_executes h
    simp [h, ports, steps]

theorem view_runLimit (m : Machine σ) (limit : Nat) :
    view (m.runLimit limit).2.ports (m.runLimit limit).2.steps =
      ((m.fetches limit).filter fun s => s.Executes).foldl effect (view m.ports m.steps) := by
  fun_induction fetches limit m with
  | case1 m => simp [runLimit]
  | case2 limit m r ho => simp [runLimit_of_outcome ho]
  | case3 limit m ho ih =>
    rw [runLimit_succ_of_none ho, ih, view_step law, ← List.foldl_append, ← List.filter_append,
      List.singleton_append]

theorem view_operate (m : Machine σ) (operation : Operation) :
    view (m.operate operation).ports (m.operate operation).steps =
      ((m.stepsIn operation).filter fun s => s.Executes).foldl effect (view m.ports m.steps) := by
  rcases operation with (_ | limit | v) | ⟨image, base⟩ | features
  · exact view_step law m
  · exact view_runLimit law m limit
  · obtain ⟨ports, steps⟩ := m.sameDevice_interrupt v
    simp [operate, act, stepsIn, ports, steps]
  · have same := m.sameProgress_reload image base
    simp [operate, stepsIn, same.ports, same.steps]
  · rfl

variable (view effect) in
/-- What each executed instruction makes of a view of the device and the step counter, the executed
instructions together make of it one after the other. -/
theorem operated_eq_foldl (m : Machine σ) (operations : List Operation) :
    view (m.operated operations).ports (m.operated operations).steps =
      (m.executions operations).foldl effect (view m.ports m.steps) := by
  induction operations generalizing m with
  | nil => rfl
  | cons operation operations ih =>
    have first := view_operate law m operation
    have rest := ih (m.operate operation)
    rw [executions, List.foldl_append, ← first, ← rest]
    rfl

end Fold

theorem steps_operated (m : Machine σ) (operations : List Operation) :
    (m.operated operations).steps = m.steps + (m.executions operations).length := by
  have counted := operated_eq_foldl (fun _ n => n) (fun n _ => n + 1) (fun _ h => steps_step h) m
    operations
  simpa using counted

end Intel8080.Machine
