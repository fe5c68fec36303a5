import Intel8080.Proofs.Machine.Run

/-! What is done to a machine after its program was loaded: steps, runs and interrupt requests in
any order. A history passes the top of memory if one of its steps does, and `wrapped` records
exactly this. -/
namespace Intel8080

/-- One thing done to a machine. A run without a limit of its own has the limit `maxLimit`. -/
inductive Action
  | step
  | runLimit (limit : Nat)
  | interrupt (vector : Byte)
  deriving DecidableEq

namespace Machine
variable {σ : Type} [Ports σ]

def act (m : Machine σ) : Action → Machine σ
  | .step => m.step
  | .runLimit limit => (m.runLimit limit).2
  | .interrupt vector => (m.interrupt vector).2

/-- The machine after a history, the first action first. -/
def after (m : Machine σ) (history : List Action) : Machine σ := history.foldl act m

@[simp] theorem after_nil (m : Machine σ) : m.after [] = m := rfl

@[simp] theorem after_cons (m : Machine σ) (a : Action) (history : List Action) :
    m.after (a :: history) = (m.act a).after history := rfl

theorem after_append (m : Machine σ) (first rest : List Action) :
    m.after (first ++ rest) = (m.after first).after rest := List.foldl_append

/-- One of the steps that the action takes passes the top of memory. -/
def PassesTopIn (m : Machine σ) : Action → Prop
  | .step => m.PassesTop
  | .runLimit limit => ∃ k < limit, m.Runs (k + 1) ∧ (step^[k] m).PassesTop
  | .interrupt _ => False

/-- One of the steps of a history passes the top of memory. -/
def PassedTop (m : Machine σ) : List Action → Prop
  | [] => False
  | a :: history => m.PassesTopIn a ∨ (m.act a).PassedTop history

omit [Ports σ] in
theorem interrupt_of_accepted {m : Machine σ} {v : Byte} (h : (m.interrupt v).1 = true) :
    (m.interrupt v).2 = { m with
      processor := { m.processor.push m.processor.pc with
        interrupts := false, pc := restartAddress (v.setWidth 3) }
      status := .running } := by
  unfold interrupt at h ⊢
  split at h
  · cases h
  · cases h
  · rfl

omit [Ports σ] in
theorem interrupt_of_refused {m : Machine σ} {v : Byte} (h : (m.interrupt v).1 = false) :
    (m.interrupt v).2 = m := by
  unfold interrupt at h ⊢
  split at h
  · rfl
  · rfl
  · cases h

omit [Ports σ] in
theorem exists_interrupt_eq (m : Machine σ) (v : Byte) :
    ∃ processor status, (m.interrupt v).2 = { m with processor, status } := by
  cases h : (m.interrupt v).1 with
  | true => exact ⟨_, _, interrupt_of_accepted h⟩
  | false => exact ⟨_, _, interrupt_of_refused h⟩

/-- What every step and every interrupt request keeps, all that is done to a machine keeps. -/
theorem act_keeps {α : Type} {f : Machine σ → α} (step : ∀ m, f m.step = f m)
    (interrupt : ∀ m v, f (m.interrupt v).2 = f m) (m : Machine σ) (a : Action) :
    f (m.act a) = f m := by
  cases a with
  | step => exact step m
  | runLimit limit =>
    obtain ⟨n, -, -, he, -⟩ := m.exists_runLimit_eq_iterate limit
    rw [act, he, iterate_keeps step]
  | interrupt v => exact interrupt m v

omit [Ports σ] in
@[simp] theorem wrapped_interrupt (m : Machine σ) (v : Byte) :
    (m.interrupt v).2.wrapped = m.wrapped := by
  obtain ⟨p, s, he⟩ := m.exists_interrupt_eq v
  rw [he]

theorem wrapped_iterate (m : Machine σ) (n : Nat) :
    (step^[n] m).wrapped = true ↔ m.wrapped = true ∨ ∃ k < n, (step^[k] m).PassesTop := by
  induction n with
  | zero => simp
  | succ n ih =>
    rw [Function.iterate_succ_apply', wrapped_step, ih, or_assoc]
    apply or_congr Iff.rfl
    constructor
    · rintro (⟨k, hk, hp⟩ | hp)
      · exact ⟨k, Nat.lt_succ_of_lt hk, hp⟩
      · exact ⟨n, Nat.lt_succ_self n, hp⟩
    · rintro ⟨k, hk, hp⟩
      rcases Nat.lt_succ_iff_lt_or_eq.mp hk with hlt | rfl
      · exact Or.inl ⟨k, hlt, hp⟩
      · exact Or.inr hp

theorem wrapped_runLimit (m : Machine σ) (limit : Nat) :
    (m.runLimit limit).2.wrapped = true ↔
      m.wrapped = true ∨ ∃ k < limit, m.Runs (k + 1) ∧ (step^[k] m).PassesTop := by
  obtain ⟨n, hn, runs, he, stop⟩ := m.exists_runLimit_eq_iterate limit
  rw [he, wrapped_iterate]
  apply or_congr Iff.rfl
  constructor
  · rintro ⟨k, hk, hp⟩
    exact ⟨k, Nat.lt_of_lt_of_le hk hn, runs.mono hk, hp⟩
  · rintro ⟨k, hk, hr, hp⟩
    refine ⟨k, ?_, hp⟩
    -- a run that goes on beyond its end would have a machine with an outcome on its way
    by_contra hnk
    have hle : n ≤ k := Nat.le_of_not_lt hnk
    rcases stop with rfl | stop
    · exact absurd hk (Nat.not_lt.mpr hle)
    · exact stop (hr n (Nat.lt_succ_of_le hle))

theorem wrapped_act (m : Machine σ) (a : Action) :
    (m.act a).wrapped = true ↔ m.wrapped = true ∨ m.PassesTopIn a := by
  cases a with
  | step => exact m.wrapped_step
  | runLimit limit => exact m.wrapped_runLimit limit
  | interrupt v => simp [act, PassesTopIn]

/-- Nothing but a step past the top of memory sets `wrapped`, and no step, run or interrupt clears
it. -/
theorem wrapped_after (m : Machine σ) (history : List Action) :
    (m.after history).wrapped = true ↔ m.wrapped = true ∨ m.PassedTop history := by
  induction history generalizing m with
  | nil => simp [PassedTop]
  | cons a history ih => rw [after_cons, ih, wrapped_act, PassedTop, or_assoc]

end Machine
end Intel8080
