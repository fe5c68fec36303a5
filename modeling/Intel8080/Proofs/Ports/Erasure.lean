import Intel8080.Proofs.Run.Executions

/-! Machines whose device is recorded. The record of the accesses does not change what a machine
does: a recorded machine goes the way of the machine with the bare device, operation by operation.
-/
namespace Intel8080.Machine
variable {σ : Type}

def recorded (m : Machine σ) : Machine (Recorded σ) := { m with ports := ⟨m.ports, []⟩ }

def bare (m : Machine (Recorded σ)) : Machine σ := { m with ports := m.ports.device }

@[simp] theorem bare_recorded (m : Machine σ) : m.recorded.bare = m := rfl

@[simp] theorem processor_bare (m : Machine (Recorded σ)) : m.bare.processor = m.processor := rfl

@[simp] theorem ports_bare (m : Machine (Recorded σ)) : m.bare.ports = m.ports.device := rfl

@[simp] theorem opcode_bare (m : Machine (Recorded σ)) : m.bare.opcode = m.opcode := rfl

@[simp] theorem operand_bare (m : Machine (Recorded σ)) : m.bare.operand = m.operand := rfl

theorem interrupt_bare (m : Machine (Recorded σ)) (v : Byte) :
    (m.bare.interrupt v).2 = (m.interrupt v).2.bare := by
  cases hi : m.processor.interrupts <;> cases hs : m.status <;>
    simp [interrupt, bare, hi, hs]

theorem reload_bare (m : Machine (Recorded σ)) (image : List Byte) (base : Word) :
    m.bare.reload image base = (m.reload image base).bare := by
  rw [reload_eq, reload_eq]
  split <;> rfl

variable [Ports σ]

theorem perform_device (p : Processor) (r : Recorded σ) (operand next : Word) (i : Instruction) :
    perform p r.device operand next i = ((perform p r operand next i).1,
      (perform p r operand next i).2.1.device, (perform p r operand next i).2.2) := by
  cases i <;> rfl

theorem execute_bare (m : Machine (Recorded σ)) : m.bare.execute = m.execute.bare := by
  -- the result of `perform` stands for itself, or the opcode table would be evaluated
  rcases hp : perform m.processor m.ports m.operand m.nextAddress m.opcode.instruction with
    ⟨p, ports, flow⟩
  simp only [nextAddress] at hp
  simp only [execute, processor_bare, ports_bare, opcode_bare, operand_bare, perform_device, hp]
  rfl

theorem step_bare (m : Machine (Recorded σ)) : m.bare.step = m.step.bare := by
  rcases m.step_cases with ⟨executes, hs⟩ | ⟨faults, hs⟩ | ⟨idle, hs⟩
  · rw [hs, ← execute_bare]
    exact step_of_executes (m := m.bare) executes
  · rw [hs]
    exact step_of_faults (m := m.bare) faults
  · rw [hs]
    exact if_neg idle

theorem fetches_bare (m : Machine (Recorded σ)) (limit : Nat) :
    m.bare.fetches limit = (m.fetches limit).map bare := by
  fun_induction fetches limit m with
  | case1 m => rfl
  | case2 limit m r ho => exact fetches_of_outcome (m := m.bare) ho (limit + 1)
  | case3 limit m ho ih =>
    rw [fetches_succ_of_none (m := m.bare) ho, step_bare, ih, List.map_cons]

theorem runLimit_bare (m : Machine (Recorded σ)) (limit : Nat) :
    (m.bare.runLimit limit).2 = (m.runLimit limit).2.bare := by
  fun_induction runLimit limit m with
  | case1 m => rfl
  | case2 limit m r ho => rw [runLimit_of_outcome (m := m.bare) ho]
  | case3 limit m ho ih => rw [runLimit_succ_of_none (m := m.bare) ho, step_bare, ih]

theorem operate_bare (m : Machine (Recorded σ)) (operation : Operation) :
    m.bare.operate operation = (m.operate operation).bare := by
  rcases operation with (_ | limit | v) | ⟨image, base⟩ | features
  · exact m.step_bare
  · exact m.runLimit_bare limit
  · exact m.interrupt_bare v
  · exact m.reload_bare image base
  · rfl

theorem operated_bare (m : Machine (Recorded σ)) (operations : List Operation) :
    m.bare.operated operations = (m.operated operations).bare := by
  induction operations generalizing m with
  | nil => rfl
  | cons operation operations ih =>
    simpa [operated, operate_bare] using ih (m.operate operation)

theorem stepsIn_bare (m : Machine (Recorded σ)) (operation : Operation) :
    m.bare.stepsIn operation = (m.stepsIn operation).map bare := by
  rcases operation with (_ | limit | _) | _ | _
  · rfl
  · exact m.fetches_bare limit
  all_goals rfl

theorem executions_bare (m : Machine (Recorded σ)) (operations : List Operation) :
    m.bare.executions operations = (m.executions operations).map bare := by
  induction operations generalizing m with
  | nil => rfl
  | cons operation operations ih =>
    rw [executions, stepsIn_bare, operate_bare, ih, executions, List.map_append, List.filter_map]
    rfl

end Intel8080.Machine
