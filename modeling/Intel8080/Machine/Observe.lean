import Intel8080.Log.Event
import Intel8080.Machine.Run

/-! Runs that are watched. The events of each step are collected as far as a log of the given
level keeps them; watching does not change how the run goes (`watch_fst`). -/
namespace Intel8080.Machine
open Log (Event Level)

/-- What is said before a step. A device that is absent notes each access to it. -/
def announce (m : Machine Unconnected) : List Event :=
  if m.features.enables m.opcode.group then
    let p := m.processor
    .executing p.pc m.opcode.code m.opcode.mnemonic p.a (p.pair .bc) (p.pair .de) (p.pair .hl)
        p.sp ::
      match m.opcode.instruction with
      | .hlt => [.halted p.pc]
      | .input => [.unconnectedRead m.operand.lo]
      | .output => [.unconnectedWrite m.operand.lo p.a]
      | _ => []
  else [.faulted m.fault]

def farewell (m : Machine Unconnected) (r : Except Fault StopReason) : List Event :=
  match r with
  | .ok .endOfProgram => [.reachedEnd m.processor.pc]
  | _ => []

/-- Put the events that a log keeps behind those it holds. -/
def note (kept : Level) (log : Array Event) (events : List Event) : Array Event :=
  log ++ (events.filter fun e => kept.shows e.level).toArray

/-- The address of the instruction before a step, if the step went past the last address of
memory. -/
def passed (pc : Word) (m : Machine Unconnected) : List Event :=
  if m.wrapped then [.fellThrough pc] else []

def watch (kept : Level) : Nat → Array Event → Machine Unconnected →
    (Except Fault StopReason × Machine Unconnected) × Array Event
  | 0, log, m =>
    let r := m.outcome?.getD (.ok .stepLimit)
    let log := note kept log (m.farewell r)
    ((r, m), log)
  | limit + 1, log, m =>
    match m.outcome? with
    | some r =>
      let log := note kept log (m.farewell r)
      ((r, m), log)
    | none =>
      let log := note kept log m.announce
      let pc := m.processor.pc
      let m := m.step
      watch kept limit (note kept log (passed pc m)) m

theorem watch_fst (kept : Level) (limit : Nat) (log : Array Event) (m : Machine Unconnected) :
    (watch kept limit log m).1 = m.runLimit limit := by
  induction limit generalizing log m with
  | zero => rfl
  | succ limit ih =>
    rw [watch]
    split
    · rename_i r h
      rw [runLimit_of_outcome h]
    · rename_i h
      rw [ih, runLimit_succ_of_none h]

end Intel8080.Machine
