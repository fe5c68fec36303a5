import Intel8080.Proofs.Machine.Fault
import Intel8080.Proofs.Run.Fetches

/-! What a run reports. Its result tells what the machine is doing at its end, and the step counter
has risen by the number of instructions that were executed. Main statement: `runLimit_reports`. -/
namespace Intel8080.Machine
variable {σ : Type} [Ports σ]

theorem steps_runLimit (m : Machine σ) (limit : Nat) :
    (m.runLimit limit).2.steps = m.steps + m.executed limit := by
  rw [executed]
  fun_induction fetches limit m with
  | case1 m => rfl
  | case2 limit m r ho => rw [runLimit_of_outcome ho]; rfl
  | case3 limit m ho ih =>
    rw [runLimit_succ_of_none ho, ih, List.countP_cons]
    rcases m.step_cases with ⟨he, -⟩ | ⟨⟨-, lacks⟩, hs⟩ | ⟨idle, -⟩
    · rw [steps_step he]
      simp only [he, decide_true, if_true]
      omega
    · have stays : ¬m.Executes := fun he => by simp [he.2] at lacks
      have hsteps : m.step.steps = m.steps := by rw [hs]
      simp [stays, hsteps]
    · exact absurd (outcome?_eq_none_iff.mp ho).1 idle

theorem executes_of_mem_fetches {m s : Machine σ} {limit : Nat}
    (sound : ¬(m.runLimit limit).2.Faulted) (h : s ∈ m.fetches limit) : s.Executes := by
  fun_induction fetches limit m with
  | case1 m => exact absurd h List.not_mem_nil
  | case2 limit m r ho => exact absurd h List.not_mem_nil
  | case3 limit m ho ih =>
    rw [runLimit_succ_of_none ho] at sound
    rcases List.mem_cons.mp h with rfl | h
    · rcases s.step_cases with ⟨he, -⟩ | ⟨faults, -⟩ | ⟨idle, -⟩
      · exact he
      · exact absurd faults (not_faults_of_runLimit_step sound)
      · exact absurd (outcome?_eq_none_iff.mp ho).1 idle
    · exact ih sound h

theorem executed_of_outcome?_eq_none {m : Machine σ} {limit : Nat}
    (h : (m.runLimit limit).2.outcome? = none) : m.executed limit = limit := by
  have sound : ¬(m.runLimit limit).2.Faulted :=
    not_faulted_of_running (outcome?_eq_none_iff.mp h).1
  have all : (m.fetches limit).countP (fun s => s.Executes) = (m.fetches limit).length :=
    List.countP_eq_length.mpr fun s hs => decide_eq_true (executes_of_mem_fetches sound hs)
  rw [executed, all, length_fetches_of_outcome?_eq_none h]

theorem executes_or_faults_of_mem_fetches {m s : Machine σ} {limit : Nat}
    (h : s ∈ m.fetches limit) : s.Executes ∨ s.step = { s with status := .faulted s.fault } := by
  rcases s.step_cases with ⟨he, -⟩ | ⟨-, hs⟩ | ⟨idle, -⟩
  · exact Or.inl he
  · exact Or.inr hs
  · exact absurd (inside_of_mem_fetches h).1 idle

/-- Every instruction of a run is fetched in the program, before control has passed the top of
memory, and is executed or faults; the step counter counts those that are executed; and the result
of the run is the reason for which the machine at its end does not go on. -/
theorem runLimit_reports (m : Machine σ) (limit : Nat) :
    let fetched := m.fetches limit
    let result := (m.runLimit limit).1
    let last := (m.runLimit limit).2
    (fetched = (List.range fetched.length).map (fun k => step^[k] m) ∧
      last = step^[fetched.length] m) ∧
    (∀ s ∈ fetched, m.programStart ≤ s.processor.pc.toNat ∧
      s.processor.pc.toNat < m.programEnd ∧ s.wrapped = false ∧
      (s.Executes ∨ s.step = { s with status := .faulted s.fault })) ∧
    fetched.Pairwise (fun s _ => ¬s.PassesTop) ∧
    m.executed limit ≤ limit ∧ last.steps = m.steps + m.executed limit ∧
    (∀ f, result = .error f ↔ last.status = .faulted f) ∧
    (result = .ok .halted ↔ last.status = .halted) ∧
    (result = .ok .endOfProgram ↔ last.status = .running ∧ last.atEnd = true) ∧
    (result = .ok .stepLimit ↔
      last.status = .running ∧ last.atEnd = false ∧ m.executed limit = limit) := by
  intro fetched result last
  refine ⟨⟨m.fetches_eq_map_iterate limit, m.runLimit_eq_iterate limit⟩, ?_,
    m.pairwise_fetches_not_passesTop limit, m.executed_le limit, m.steps_runLimit limit,
    fun f => ?_, ?_, ?_, ?_⟩
  · intro s hs
    obtain ⟨-, unwrapped, first, behind⟩ := inside_of_mem_fetches hs
    exact ⟨first, behind, unwrapped, executes_or_faults_of_mem_fetches hs⟩
  · exact (fst_runLimit_eq_iff (by simp)).trans outcome?_eq_error_iff
  · exact (fst_runLimit_eq_iff (by simp)).trans outcome?_eq_halted_iff
  · exact (fst_runLimit_eq_iff (by simp)).trans outcome?_eq_endOfProgram_iff
  · constructor
    · intro cut
      have goesOn := fst_runLimit_eq_stepLimit_iff.mp cut
      obtain ⟨running, inside⟩ := outcome?_eq_none_iff.mp goesOn
      exact ⟨running, inside, executed_of_outcome?_eq_none goesOn⟩
    · rintro ⟨running, inside, -⟩
      exact fst_runLimit_eq_stepLimit_iff.mpr (outcome?_eq_none_iff.mpr ⟨running, inside⟩)

/-- Zeros, which are `NOP`s, at all addresses, and the program counter at the last one. -/
def zerosAtTop : Machine Unconnected :=
  { processor := { pc := 0xFFFF }, ports := ⟨⟩, programEnd := 65536 }

theorem step_zerosAtTop : zerosAtTop.step =
    { zerosAtTop with processor := {}, wrapped := true, steps := 1 } :=
  step_eq_of_read 0xFFFF 0 _ rfl rfl rfl (Memory.read_zero _) rfl rfl

theorem fetches_zerosAtTop : zerosAtTop.fetches 5 = [zerosAtTop] := by
  have first : zerosAtTop.outcome? = none := rfl
  have second : zerosAtTop.step.outcome? = some (.ok .endOfProgram) := by
    rw [step_zerosAtTop]; rfl
  rw [fetches_succ_of_none first, fetches_of_outcome second]

/-- The `NOP` at the last address is executed, and none at address 0, though the program goes on
there. -/
theorem zerosAtTop_reports : zerosAtTop ∈ zerosAtTop.fetches 5 ∧
    zerosAtTop.processor.pc.toNat < zerosAtTop.programEnd ∧ zerosAtTop.executed 5 ≤ 5 ∧
    (zerosAtTop.runLimit 5).2 = zerosAtTop.step ∧
    (zerosAtTop.runLimit 5).1 = .ok .endOfProgram ∧
    (zerosAtTop.runLimit 5).2.steps = zerosAtTop.steps + zerosAtTop.executed 5 := by
  obtain ⟨⟨-, last⟩, inside, -, few, steps, -, -, ends, -⟩ := zerosAtTop.runLimit_reports 5
  have fetched : zerosAtTop ∈ zerosAtTop.fetches 5 := by
    rw [fetches_zerosAtTop]
    exact List.mem_singleton_self _
  rw [fetches_zerosAtTop, List.length_singleton, Function.iterate_one] at last
  refine ⟨fetched, (inside _ fetched).2.1, few, last, ends.mpr ?_, steps⟩
  rw [last, step_zerosAtTop]
  exact ⟨rfl, rfl⟩

end Intel8080.Machine
