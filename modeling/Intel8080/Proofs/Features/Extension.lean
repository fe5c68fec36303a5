import Intel8080.Proofs.Machine.Fault

/-! Machines with more instruction groups. A step looks at the features of its machine only to
decide whether it faults, so that a machine with further groups goes the same way as long as the
smaller one does not fault. Main statement: `withFeatures_agrees`. -/
namespace Intel8080

/-- Every group of the first set is in the second. -/
instance : LE FeatureSet := ⟨fun s t => ∀ g, s.enables g = true → t.enables g = true⟩

theorem FeatureSet.le_all (s : FeatureSet) : s ≤ .all := fun g _ => enables_all g

namespace Machine
variable {σ : Type}

def withFeatures (m : Machine σ) (features : FeatureSet) : Machine σ := { m with features }

@[simp] theorem processor_withFeatures (m : Machine σ) (features : FeatureSet) :
    (m.withFeatures features).processor = m.processor := rfl

@[simp] theorem ports_withFeatures (m : Machine σ) (features : FeatureSet) :
    (m.withFeatures features).ports = m.ports := rfl

@[simp] theorem opcode_withFeatures (m : Machine σ) (features : FeatureSet) :
    (m.withFeatures features).opcode = m.opcode := rfl

@[simp] theorem operand_withFeatures (m : Machine σ) (features : FeatureSet) :
    (m.withFeatures features).operand = m.operand := rfl

theorem interrupt_withFeatures (m : Machine σ) (features : FeatureSet) (v : Byte) :
    (m.withFeatures features).interrupt v =
      ((m.interrupt v).1, (m.interrupt v).2.withFeatures features) := by
  cases hi : m.processor.interrupts <;> cases hs : m.status <;>
    simp [interrupt, withFeatures, hi, hs]

theorem features_interrupt (m : Machine σ) (v : Byte) :
    (m.interrupt v).2.features = m.features := by
  obtain ⟨p, s, he⟩ := m.exists_interrupt_eq v
  rw [he]

variable [Ports σ]

theorem execute_withFeatures (m : Machine σ) (features : FeatureSet) :
    (m.withFeatures features).execute = m.execute.withFeatures features := by
  -- the result of `perform` stands for itself, or the opcode table would be evaluated
  rcases hp : perform m.processor m.ports m.operand m.nextAddress m.opcode.instruction with
    ⟨p, ports, flow⟩
  simp only [nextAddress] at hp
  simp only [execute, processor_withFeatures, ports_withFeatures, opcode_withFeatures,
    operand_withFeatures, hp]
  rfl

theorem features_act (m : Machine σ) (a : Action) : (m.act a).features = m.features :=
  act_keeps features_step features_interrupt m a

theorem features_after (m : Machine σ) (history : List Action) :
    (m.after history).features = m.features := by
  induction history generalizing m with
  | nil => rfl
  | cons a history ih => rw [after_cons, ih, features_act]

variable {m : Machine σ} {larger : FeatureSet}

theorem step_withFeatures (more : m.features ≤ larger) (h : ¬m.Faults) :
    (m.withFeatures larger).step = m.step.withFeatures larger := by
  rcases m.step_cases with ⟨⟨running, enabled⟩, hs⟩ | ⟨hf, -⟩ | ⟨idle, hs⟩
  · have executes : (m.withFeatures larger).Executes := ⟨running, more _ enabled⟩
    rw [step_of_executes executes, hs, execute_withFeatures]
  · exact absurd hf h
  · rw [hs]
    exact if_neg idle

theorem iterate_withFeatures (more : m.features ≤ larger) {n : Nat}
    (h : ∀ k < n, ¬(step^[k] m).Faults) :
    step^[n] (m.withFeatures larger) = (step^[n] m).withFeatures larger := by
  induction n with
  | zero => rfl
  | succ n ih =>
    have more' : (step^[n] m).features ≤ larger := by rwa [features_iterate]
    rw [Function.iterate_succ_apply', Function.iterate_succ_apply',
      ih fun k hk => h k (Nat.lt_succ_of_lt hk),
      step_withFeatures more' (h n (Nat.lt_succ_self n))]

theorem runLimit_withFeatures (more : m.features ≤ larger) {limit : Nat}
    (sound : ¬(m.runLimit limit).2.Faulted) :
    (m.withFeatures larger).runLimit limit =
      ((m.runLimit limit).1, (m.runLimit limit).2.withFeatures larger) := by
  have same (m : Machine σ) : (m.withFeatures larger).outcome? = m.outcome? := rfl
  fun_induction runLimit limit m with
  | case1 m => rfl
  | case2 limit m r ho => exact runLimit_of_outcome ((same m).trans ho) _
  | case3 limit m ho ih =>
    have goesOn : ¬m.Faults := not_faults_of_runLimit_step sound
    have more' : m.step.features ≤ larger := by rwa [features_step]
    rw [runLimit_succ_of_none ((same m).trans ho), step_withFeatures more goesOn, ih more' sound]

theorem act_withFeatures (more : m.features ≤ larger) {a : Action} (sound : ¬(m.act a).Faulted) :
    (m.withFeatures larger).act a = (m.act a).withFeatures larger := by
  cases a with
  | step => exact step_withFeatures more fun faults => sound (faulted_step_of_faults faults)
  | runLimit limit => rw [act, act, runLimit_withFeatures more sound]
  | interrupt v => rw [act, act, interrupt_withFeatures]

theorem after_withFeatures (more : m.features ≤ larger) {history : List Action}
    (sound : ¬(m.after history).Faulted) :
    (m.withFeatures larger).after history = (m.after history).withFeatures larger := by
  induction history generalizing m with
  | nil => rfl
  | cons a history ih =>
    rw [after_cons] at sound
    have goesOn : ¬(m.act a).Faulted := fun h => sound (by rwa [after_of_faulted h])
    have more' : (m.act a).features ≤ larger := by rwa [features_act]
    rw [after_cons, after_cons, act_withFeatures more goesOn, ih more' sound]

/-- A machine with more groups and one with fewer agree after every history in which the smaller one
has not faulted, and answer the next interrupt request alike. If the smaller one faults, they agree
after every action and every step before, the opcode is of a group that it lacks, and it keeps the
state that both had then. -/
theorem withFeatures_agrees (more : m.features ≤ larger) (history : List Action) :
    (¬(m.after history).Faulted →
      (m.withFeatures larger).after history = (m.after history).withFeatures larger ∧
        ∀ v, (((m.withFeatures larger).after history).interrupt v).1 =
          ((m.after history).interrupt v).1) ∧
    (¬m.Faulted → (m.after history).Faulted →
      ∃ before a rest k, history = before ++ a :: rest ∧ k < a.maxSteps ∧
        (∀ earlier, earlier <+: before →
          (m.withFeatures larger).after earlier = (m.after earlier).withFeatures larger) ∧
        (∀ j ≤ k, step^[j] ((m.withFeatures larger).after before) =
          (step^[j] (m.after before)).withFeatures larger) ∧
        let last := step^[k] (m.after before)
        last.status = .running ∧ m.features.enables last.opcode.group = false ∧
          m.after history = { last with status := .faulted last.fault }) := by
  constructor
  · intro sound
    have same := after_withFeatures more sound
    refine ⟨same, fun v => ?_⟩
    rw [same, interrupt_withFeatures]
  · intro sound faulted
    obtain ⟨before, a, rest, k, rfl, hk, faults, he⟩ := exists_faults_of_after sound faulted
    have earlierSound : ¬(m.after before).Faulted := by
      intro h
      rw [iterate_of_faulted h] at faults
      exact not_faulted_of_running faults.1 h
    refine ⟨before, a, rest, k, rfl, hk, ?_, ?_, faults.1, ?_, ?_⟩
    · intro earlier hp
      exact after_withFeatures more (not_faulted_of_isPrefix earlierSound hp)
    · intro j hj
      have more' : (m.after before).features ≤ larger := by rwa [features_after]
      rw [after_withFeatures more earlierSound, iterate_withFeatures more' fun i hi => ?_]
      exact not_faults_of_lt faults (Nat.lt_of_lt_of_le hi hj)
    · have := faults.2
      rwa [features_iterate, features_after] at this
    · rw [he, step_of_faults faults]

/-- `NOP` and `RST 7` at address 0, with interrupts enabled, on a machine without the restarts. -/
def lacksRestarts : Machine Unconnected where
  processor := { interrupts := true, memory := Memory.zero.write 1 0xFF }
  ports := ⟨⟩
  features := { interrupt := true }
  programEnd := 2

def servesInterrupt : List Action := [.step, .interrupt 0, .step]

theorem after_lacksRestarts : lacksRestarts.after servesInterrupt = { lacksRestarts with
    processor := { lacksRestarts.processor.push 1 with interrupts := false, pc := 1 }
    steps := 2 } := by
  have nop : lacksRestarts.processor.memory.read 0 = 0 := by
    simp [lacksRestarts, Memory.read_write]
  have again : (lacksRestarts.processor.push 1).memory.read 0 = 0 := by
    simp [lacksRestarts, Processor.push, Memory.writeWord, Memory.read_write]
  have h1 : lacksRestarts.step = { lacksRestarts with
      processor := { lacksRestarts.processor with pc := 1 }, steps := 1 } :=
    step_eq_of_read 0 0 _ rfl rfl rfl nop rfl rfl
  rw [servesInterrupt, after_cons, after_cons, after_cons, after_nil, act, act, act, h1]
  exact step_eq_of_read 0 0 _ rfl rfl rfl again rfl rfl

theorem lacksRestarts_faults : (lacksRestarts.after servesInterrupt).Faults := by
  have rst : (lacksRestarts.processor.push 1).memory.read 1 = 0xFF := by
    simp [lacksRestarts, Processor.push, Memory.writeWord, Memory.read_write]
  rw [after_lacksRestarts]
  exact ⟨rfl, by rw [opcode_of_read rst]; rfl⟩

/-- Both machines serve an interrupt and come to the restart together, where the smaller one
faults. -/
theorem lacksRestarts_agrees : lacksRestarts.features ≤ .all ∧
    ¬(lacksRestarts.after servesInterrupt).Faulted ∧
    (lacksRestarts.withFeatures .all).after servesInterrupt =
      (lacksRestarts.after servesInterrupt).withFeatures .all ∧
    ¬lacksRestarts.Faulted ∧
    (lacksRestarts.after (servesInterrupt ++ [.step, .interrupt 0])).Faulted ∧
    ∃ last : Machine Unconnected, lacksRestarts.features.enables last.opcode.group = false ∧
      lacksRestarts.after (servesInterrupt ++ [.step, .interrupt 0]) =
        { last with status := .faulted last.fault } := by
  have more : lacksRestarts.features ≤ .all := FeatureSet.le_all _
  have faults := lacksRestarts_faults
  have sound := not_faulted_of_running faults.1
  have start : ¬lacksRestarts.Faulted := not_faulted_of_running rfl
  have faulted : (lacksRestarts.after (servesInterrupt ++ [.step, .interrupt 0])).Faulted := by
    have stopped := faulted_step_of_faults faults
    rw [after_append, after_cons, act, after_of_faulted stopped]
    exact stopped
  obtain ⟨before, a, rest, k, -, -, -, -, -, lacks, he⟩ :=
    (withFeatures_agrees more _).2 start faulted
  exact ⟨more, sound, ((withFeatures_agrees more _).1 sound).1, start, faulted, _, lacks, he⟩

end Machine
end Intel8080
