import Intel8080.Proofs.Machine.Run

/-! The instructions of a run. `fetches` lists the machines at which a run takes its steps: at each
of them an instruction is fetched at the program counter, and is executed or faults. The list is the
run itself, cut into steps, and it counts what the run executes. -/
namespace Intel8080.Machine
variable {σ : Type} [Ports σ]

def fetches : Nat → Machine σ → List (Machine σ)
  | 0, _ => []
  | limit + 1, m =>
    match m.outcome? with
    | some _ => []
    | none => m :: fetches limit m.step

theorem fetches_of_outcome {m : Machine σ} {r : Except Fault StopReason}
    (h : m.outcome? = some r) (limit : Nat) : m.fetches limit = [] := by
  cases limit <;> simp [fetches, h]

theorem fetches_succ_of_none {m : Machine σ} (h : m.outcome? = none) (limit : Nat) :
    m.fetches (limit + 1) = m :: m.step.fetches limit := by
  simp [fetches, h]

theorem length_fetches_le (m : Machine σ) (limit : Nat) : (m.fetches limit).length ≤ limit := by
  fun_induction fetches limit m with
  | case1 m => exact Nat.le_refl 0
  | case2 limit m r h => exact Nat.zero_le _
  | case3 limit m h ih => exact Nat.succ_le_succ ih

theorem length_fetches_of_outcome?_eq_none {m : Machine σ} {limit : Nat}
    (h : (m.runLimit limit).2.outcome? = none) : (m.fetches limit).length = limit := by
  fun_induction fetches limit m with
  | case1 m => rfl
  | case2 limit m r ho =>
    rw [runLimit_of_outcome ho, ho] at h
    cases h
  | case3 limit m ho ih =>
    rw [runLimit_succ_of_none ho] at h
    rw [List.length_cons, ih h]

theorem runLimit_eq_iterate (m : Machine σ) (limit : Nat) :
    (m.runLimit limit).2 = step^[(m.fetches limit).length] m := by
  fun_induction fetches limit m with
  | case1 m => rfl
  | case2 limit m r h => rw [runLimit_of_outcome h]; rfl
  | case3 limit m h ih =>
    rw [runLimit_succ_of_none h, List.length_cons, ih, Function.iterate_succ_apply]

theorem fetches_eq_map_iterate (m : Machine σ) (limit : Nat) :
    m.fetches limit = (List.range (m.fetches limit).length).map fun k => step^[k] m := by
  fun_induction fetches limit m with
  | case1 m => rfl
  | case2 limit m r h => rfl
  | case3 limit m h ih =>
    rw [List.length_cons, List.range_succ_eq_map, List.map_cons, List.map_map]
    exact congrArg (m :: ·) ih

theorem outcome?_of_mem_fetches {m s : Machine σ} {limit : Nat} (h : s ∈ m.fetches limit) :
    s.outcome? = none := by
  fun_induction fetches limit m with
  | case1 m => exact absurd h List.not_mem_nil
  | case2 limit m r ho => exact absurd h List.not_mem_nil
  | case3 limit m ho ih =>
    rcases List.mem_cons.mp h with rfl | h
    · exact ho
    · exact ih h

theorem exists_iterate_of_mem_fetches {m s : Machine σ} {limit : Nat} (h : s ∈ m.fetches limit) :
    ∃ k, step^[k] m = s := by
  rw [fetches_eq_map_iterate] at h
  obtain ⟨k, -, hk⟩ := List.mem_map.mp h
  exact ⟨k, hk⟩

/-- Every fetch of a run lies in the program, and no run fetches past the top of memory. -/
theorem inside_of_mem_fetches {m s : Machine σ} {limit : Nat} (h : s ∈ m.fetches limit) :
    s.status = .running ∧ s.wrapped = false ∧ m.programStart ≤ s.processor.pc.toNat ∧
      s.processor.pc.toNat < m.programEnd := by
  obtain ⟨running, inside⟩ := outcome?_eq_none_iff.mp (outcome?_of_mem_fetches h)
  obtain ⟨k, rfl⟩ := exists_iterate_of_mem_fetches h
  rw [atEnd_eq_false_iff, programStart_iterate, programEnd_iterate] at inside
  exact ⟨running, inside⟩

/-- An instruction that passes the top of memory is the last one of its run. -/
theorem pairwise_fetches_not_passesTop (m : Machine σ) (limit : Nat) :
    (m.fetches limit).Pairwise fun s _ => ¬s.PassesTop := by
  fun_induction fetches limit m with
  | case1 m => exact List.Pairwise.nil
  | case2 limit m r ho => exact List.Pairwise.nil
  | case3 limit m ho ih =>
    refine List.Pairwise.cons (fun s hs passes => ?_) ih
    -- the step sets `wrapped`, and then the run has ended before it fetches again
    have wrapped : m.step.wrapped = true := m.wrapped_step.mpr (Or.inr passes)
    cases ho' : m.step.outcome? with
    | some r =>
      rw [fetches_of_outcome ho'] at hs
      exact List.not_mem_nil hs
    | none =>
      obtain ⟨unwrapped, -⟩ := atEnd_eq_false_iff.mp (outcome?_eq_none_iff.mp ho').2
      rw [wrapped] at unwrapped
      exact Bool.noConfusion unwrapped

/-- How many instructions a run executes. The instruction on which it faults does not count. -/
def executed (m : Machine σ) (limit : Nat) : Nat := (m.fetches limit).countP fun s => s.Executes

theorem executed_le (m : Machine σ) (limit : Nat) : m.executed limit ≤ limit :=
  Nat.le_trans List.countP_le_length (m.length_fetches_le limit)

end Intel8080.Machine
