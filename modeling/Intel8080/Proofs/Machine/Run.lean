import Intel8080.Proofs.Machine.Step

/-! Runs as iterated steps. A run takes steps as long as no machine on its way has an outcome, so
that its end is one of the iterates of `step`; `visited` lists the addresses at which it takes
them. -/
namespace Intel8080.Machine
variable {σ : Type} [Ports σ]

/-- The first `n` steps from a machine are all taken by a run whose limit allows them. -/
def Runs (m : Machine σ) (n : Nat) : Prop := ∀ k < n, (step^[k] m).outcome? = none

theorem Runs.mono {m : Machine σ} {n k : Nat} (h : m.Runs n) (hk : k ≤ n) : m.Runs k :=
  fun j hj => h j (Nat.lt_of_lt_of_le hj hk)

theorem Runs.zero (m : Machine σ) : m.Runs 0 := fun _ h => absurd h (Nat.not_lt_zero _)

theorem runs_succ_iff {m : Machine σ} {n : Nat} :
    m.Runs (n + 1) ↔ m.outcome? = none ∧ m.step.Runs n := by
  constructor
  · intro h
    exact ⟨h 0 (Nat.succ_pos n), fun k hk => h (k + 1) (Nat.succ_lt_succ hk)⟩
  · rintro ⟨h0, h⟩ k hk
    cases k with
    | zero => exact h0
    | succ k => exact h k (Nat.lt_of_succ_lt_succ hk)

omit [Ports σ] in
theorem outcome?_eq_none_iff {m : Machine σ} :
    m.outcome? = none ↔ m.status = .running ∧ m.atEnd = false := by
  cases hs : m.status <;> simp [outcome?, hs]

omit [Ports σ] in
theorem outcome?_eq_error_iff {m : Machine σ} {f : Fault} :
    m.outcome? = some (.error f) ↔ m.status = .faulted f := by
  cases hs : m.status <;> simp [outcome?, hs]

omit [Ports σ] in
theorem outcome?_eq_halted_iff {m : Machine σ} :
    m.outcome? = some (.ok .halted) ↔ m.status = .halted := by
  cases hs : m.status <;> simp [outcome?, hs]

omit [Ports σ] in
theorem outcome?_eq_endOfProgram_iff {m : Machine σ} :
    m.outcome? = some (.ok .endOfProgram) ↔ m.status = .running ∧ m.atEnd = true := by
  cases hs : m.status <;> simp [outcome?, hs]

omit [Ports σ] in
theorem atEnd_eq_false_iff {m : Machine σ} :
    m.atEnd = false ↔ m.wrapped = false ∧
      m.programStart ≤ m.processor.pc.toNat ∧ m.processor.pc.toNat < m.programEnd := by
  simp [atEnd]

theorem runLimit_of_runs {m : Machine σ} {n : Nat} (h : m.Runs n) (limit : Nat) :
    m.runLimit (n + limit) = (step^[n] m).runLimit limit := by
  induction n generalizing m with
  | zero => rw [Nat.zero_add]; rfl
  | succ n ih =>
    obtain ⟨h0, hr⟩ := runs_succ_iff.mp h
    rw [Nat.succ_add, runLimit_succ_of_none h0, ih hr, Function.iterate_succ_apply]

theorem runLimit_of_runs_of_outcome {m : Machine σ} {n limit : Nat} (h : m.Runs n)
    {r : Except Fault StopReason} (hr : (step^[n] m).outcome? = some r) (hn : n ≤ limit) :
    m.runLimit limit = (r, step^[n] m) := by
  obtain ⟨rest, rfl⟩ := Nat.exists_eq_add_of_le hn
  rw [runLimit_of_runs h, runLimit_of_outcome hr]

/-- A run takes the given number of steps from one machine to another. -/
def Reaches (m : Machine σ) (n : Nat) (last : Machine σ) : Prop := m.Runs n ∧ step^[n] m = last

theorem Reaches.one {m last : Machine σ} (goesOn : m.outcome? = none) (h : m.step = last) :
    m.Reaches 1 last :=
  ⟨runs_succ_iff.mpr ⟨goesOn, Runs.zero _⟩, h⟩

theorem Reaches.trans {m mid last : Machine σ} {n k : Nat} (first : m.Reaches n mid)
    (rest : mid.Reaches k last) : m.Reaches (n + k) last := by
  obtain ⟨runs, rfl⟩ := first
  obtain ⟨later, rfl⟩ := rest
  refine ⟨fun i hi => ?_, by rw [Nat.add_comm, Function.iterate_add_apply]⟩
  by_cases before : i < n
  · exact runs i before
  · obtain ⟨j, rfl⟩ := Nat.exists_eq_add_of_le (Nat.le_of_not_lt before)
    rw [Nat.add_comm, Function.iterate_add_apply]
    exact later j (by omega)

theorem Reaches.runLimit {m last : Machine σ} {n limit : Nat} (h : m.Reaches n last)
    {r : Except Fault StopReason} (ends : last.outcome? = some r) (hn : n ≤ limit) :
    m.runLimit limit = (r, last) := by
  obtain ⟨runs, rfl⟩ := h
  exact runLimit_of_runs_of_outcome runs ends hn

def visited : Nat → Machine σ → List Word
  | 0, _ => []
  | limit + 1, m =>
    match m.outcome? with
    | some _ => []
    | none => m.processor.pc :: visited limit m.step

theorem visited_of_outcome {m : Machine σ} {r : Except Fault StopReason}
    (h : m.outcome? = some r) (limit : Nat) : m.visited limit = [] := by
  cases limit <;> simp [visited, h]

theorem visited_of_runs {m : Machine σ} {n : Nat} (h : m.Runs n) (limit : Nat) :
    m.visited (n + limit) =
      ((List.range n).map fun k => (step^[k] m).processor.pc) ++ (step^[n] m).visited limit := by
  induction n generalizing m with
  | zero => rw [Nat.zero_add]; rfl
  | succ n ih =>
    obtain ⟨h0, hr⟩ := runs_succ_iff.mp h
    have hv : m.visited (n + 1 + limit) = m.processor.pc :: m.step.visited (n + limit) := by
      rw [Nat.succ_add, visited, h0]
    rw [hv, ih hr, List.range_succ_eq_map, List.map_cons, List.map_map, List.cons_append]
    rfl

theorem visited_of_runs_of_outcome {m : Machine σ} {n limit : Nat} (h : m.Runs n)
    {r : Except Fault StopReason} (hr : (step^[n] m).outcome? = some r) (hn : n ≤ limit) :
    m.visited limit = (List.range n).map fun k => (step^[k] m).processor.pc := by
  obtain ⟨rest, rfl⟩ := Nat.exists_eq_add_of_le hn
  rw [visited_of_runs h, visited_of_outcome hr, List.append_nil]

theorem exists_runLimit_eq_iterate (m : Machine σ) (limit : Nat) :
    ∃ n ≤ limit, m.Runs n ∧ (m.runLimit limit).2 = step^[n] m ∧
      (n = limit ∨ (step^[n] m).outcome? ≠ none) := by
  induction limit generalizing m with
  | zero => exact ⟨0, Nat.le_refl 0, Runs.zero m, rfl, Or.inl rfl⟩
  | succ limit ih =>
    cases h : m.outcome? with
    | some r =>
      refine ⟨0, Nat.zero_le _, Runs.zero m, ?_, Or.inr ?_⟩
      · rw [runLimit_of_outcome h]; rfl
      · simp [h]
    | none =>
      obtain ⟨n, hn, hr, he, hs⟩ := ih m.step
      refine ⟨n + 1, Nat.succ_le_succ hn, runs_succ_iff.mpr ⟨h, hr⟩, ?_, ?_⟩
      · rw [runLimit_succ_of_none h, he, Function.iterate_succ_apply]
      · rw [Function.iterate_succ_apply]
        exact hs.imp (congrArg (· + 1)) id

omit [Ports σ] in
theorem outcome?_ne_stepLimit (m : Machine σ) : m.outcome? ≠ some (.ok .stepLimit) := by
  unfold outcome?
  split
  · simp
  · simp
  · split <;> simp

theorem fst_runLimit (m : Machine σ) (limit : Nat) :
    (m.runLimit limit).1 = (m.runLimit limit).2.outcome?.getD (.ok .stepLimit) := by
  fun_induction runLimit limit m with
  | case1 m => rfl
  | case2 limit m r h => rw [h]; rfl
  | case3 limit m h ih => exact ih

theorem fst_runLimit_eq_iff {m : Machine σ} {limit : Nat} {r : Except Fault StopReason}
    (hr : r ≠ .ok .stepLimit) :
    (m.runLimit limit).1 = r ↔ (m.runLimit limit).2.outcome? = some r := by
  rw [fst_runLimit]
  cases h : (m.runLimit limit).2.outcome? with
  | none => simp [hr.symm]
  | some s => simp

theorem fst_runLimit_eq_stepLimit_iff {m : Machine σ} {limit : Nat} :
    (m.runLimit limit).1 = .ok .stepLimit ↔ (m.runLimit limit).2.outcome? = none := by
  rw [fst_runLimit]
  cases h : (m.runLimit limit).2.outcome? with
  | none => simp
  | some r =>
    have hr : r ≠ .ok .stepLimit := fun e => outcome?_ne_stepLimit _ (e ▸ h)
    simp [hr]

end Intel8080.Machine
