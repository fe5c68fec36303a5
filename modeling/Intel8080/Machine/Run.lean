import Intel8080.Machine.Basic

/-! Runs: steps until the machine halts, faults or leaves its program, or until a limit is
reached. The reasons are tried in this order before every step. -/
namespace Intel8080

inductive StopReason
  | halted | endOfProgram | stepLimit
  deriving DecidableEq

namespace Machine
variable {σ : Type} [Ports σ]

/-- How a run ends at this machine, if it ends here whatever its limit. -/
def outcome? (m : Machine σ) : Option (Except Fault StopReason) :=
  match m.status with
  | .halted => some (.ok .halted)
  | .faulted f => some (.error f)
  | .running => if m.atEnd then some (.ok .endOfProgram) else none

def runLimit : Nat → Machine σ → Except Fault StopReason × Machine σ
  | 0, m => (m.outcome?.getD (.ok .stepLimit), m)
  | limit + 1, m =>
    match m.outcome? with
    | some outcome => (outcome, m)
    | none => runLimit limit m.step

def maxLimit : Nat := 0xFFFFFFFFFFFFFFFF

def run (m : Machine σ) : Except Fault StopReason × Machine σ := m.runLimit maxLimit

theorem runLimit_of_outcome {m : Machine σ} {r : Except Fault StopReason} (h : m.outcome? = some r)
    (limit : Nat) : m.runLimit limit = (r, m) := by
  cases limit <;> simp [runLimit, h]

theorem runLimit_succ_of_none {m : Machine σ} (h : m.outcome? = none) (limit : Nat) :
    m.runLimit (limit + 1) = m.step.runLimit limit := by
  simp [runLimit, h]

end Machine
end Intel8080
