import Intel8080.Proofs.Machine.Run

/-! Runs one after the other. A run that its limit cut off can be taken up again, and both parts
together are the run with both limits; a run that ended for another reason has ended for good. Main
statement: `runLimit_splits`. -/
namespace Intel8080.Machine
variable {σ : Type} [Ports σ]

theorem runs_of_stepLimit {m : Machine σ} {limit : Nat}
    (cut : (m.runLimit limit).1 = .ok .stepLimit) :
    m.Runs limit ∧ (m.runLimit limit).2 = step^[limit] m := by
  obtain ⟨n, -, runs, he, stop⟩ := m.exists_runLimit_eq_iterate limit
  have goesOn : (step^[n] m).outcome? = none := he ▸ fst_runLimit_eq_stepLimit_iff.mp cut
  obtain rfl : n = limit := stop.resolve_right fun h => h goesOn
  exact ⟨runs, he⟩

theorem exists_runs_of_ne_stepLimit {m : Machine σ} {limit : Nat}
    (ended : (m.runLimit limit).1 ≠ .ok .stepLimit) :
    ∃ n ≤ limit, m.Runs n ∧ (m.runLimit limit).2 = step^[n] m ∧
      (step^[n] m).outcome? = some (m.runLimit limit).1 := by
  obtain ⟨n, hn, runs, he, -⟩ := m.exists_runLimit_eq_iterate limit
  refine ⟨n, hn, runs, he, ?_⟩
  cases ho : (m.runLimit limit).2.outcome? with
  | none => exact absurd (fst_runLimit_eq_stepLimit_iff.mpr ho) ended
  | some r => rw [← he, fst_runLimit, ho]; rfl

/-- A run that was cut off and taken up again is one run with both limits. A run that ended for
another reason ends there under every greater limit, and no further run changes anything. -/
theorem runLimit_splits (m : Machine σ) (first rest : Nat) :
    ((m.runLimit first).1 = .ok .stepLimit →
      (m.runLimit first).2.runLimit rest = m.runLimit (first + rest)) ∧
    ((m.runLimit first).1 ≠ .ok .stepLimit →
      m.runLimit (first + rest) = m.runLimit first ∧
        (∀ limit, (m.runLimit first).2.runLimit limit = m.runLimit first) ∧
        (m.runLimit first).2.run = m.runLimit first) := by
  constructor
  · intro cut
    obtain ⟨runs, he⟩ := runs_of_stepLimit cut
    rw [he, runLimit_of_runs runs]
  · intro ended
    obtain ⟨n, hn, runs, he, stops⟩ := exists_runs_of_ne_stepLimit ended
    have again (limit : Nat) : (m.runLimit first).2.runLimit limit = m.runLimit first := by
      rw [← he] at stops
      exact runLimit_of_outcome stops limit
    refine ⟨?_, again, again maxLimit⟩
    have within : n ≤ first + rest := Nat.le_add_right_of_le hn
    rw [runLimit_of_runs_of_outcome runs stops within, ← he]

/-- `NOP` and `HLT` at address 0. -/
def haltsSecond : Machine Unconnected where
  processor := { memory := Memory.zero.write 1 0x76 }
  ports := ⟨⟩
  programEnd := 2

theorem steps_haltsSecond :
    step^[1] haltsSecond = { haltsSecond with
      processor := { haltsSecond.processor with pc := 1 }, steps := 1 } ∧
    step^[2] haltsSecond = { haltsSecond with
      processor := { haltsSecond.processor with pc := 2 }, status := .halted, steps := 2 } := by
  have nop : haltsSecond.processor.memory.read 0 = 0 := by
    simp [haltsSecond, Memory.read_write]
  have hlt : haltsSecond.processor.memory.read 1 = 0x76 := by simp [haltsSecond]
  have h1 : step^[1] haltsSecond = { haltsSecond with
      processor := { haltsSecond.processor with pc := 1 }, steps := 1 } := by
    rw [Function.iterate_one]
    exact step_eq_of_read 0 0 _ rfl rfl rfl nop rfl rfl
  refine ⟨h1, ?_⟩
  rw [Function.iterate_succ_apply', h1]
  exact step_eq_of_read 1 0x76 _ rfl rfl rfl hlt rfl rfl

/-- A run whose limit ends just before the halt halts with one step more, and stays halted. -/
theorem haltsSecond_splits :
    (haltsSecond.runLimit 1).1 = .ok .stepLimit ∧
      (haltsSecond.runLimit 1).2.runLimit 1 = haltsSecond.runLimit 2 ∧
      (haltsSecond.runLimit 2).1 = .ok .halted ∧
      haltsSecond.runLimit (2 + 3) = haltsSecond.runLimit 2 ∧
      (haltsSecond.runLimit 2).2.run = haltsSecond.runLimit 2 := by
  obtain ⟨h1, h2⟩ := steps_haltsSecond
  have first : haltsSecond.Runs 1 := runs_succ_iff.mpr ⟨rfl, Runs.zero _⟩
  have goesOn : (step^[1] haltsSecond).outcome? = none := by rw [h1]; rfl
  have stops : (step^[2] haltsSecond).outcome? = some (.ok .halted) := by rw [h2]; rfl
  have second : haltsSecond.Runs 2 := by
    intro k hk
    rcases Nat.lt_succ_iff_lt_or_eq.mp hk with hlt | rfl
    · exact first k hlt
    · exact goesOn
  have cut : (haltsSecond.runLimit 1).1 = .ok .stepLimit := by
    rw [← Nat.add_zero 1, runLimit_of_runs first, runLimit, goesOn]
    rfl
  have halted : (haltsSecond.runLimit 2).1 = .ok .halted := by
    rw [runLimit_of_runs_of_outcome second stops (Nat.le_refl 2)]
  have ended : (haltsSecond.runLimit 2).1 ≠ .ok .stepLimit := by
    simp [halted]
  obtain ⟨longer, -, again⟩ := (haltsSecond.runLimit_splits 2 3).2 ended
  exact ⟨cut, (haltsSecond.runLimit_splits 1 1).1 cut, halted, longer, again⟩

end Intel8080.Machine
