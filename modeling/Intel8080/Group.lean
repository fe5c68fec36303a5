/-! Instruction groups. Everything outside of `base` can be left out of a machine. -/
namespace Intel8080

/-- The group to which an opcode belongs: port access, the interrupt switch, the restarts, the
decimal adjustment, and the second encodings of `NOP`, `JMP`, `RET` and `CALL` each form one. -/
inductive Group
  | base | io | interrupt | restart | decimal | undocumented
  deriving DecidableEq, Inhabited

namespace Group

def optional : List Group := [.io, .interrupt, .restart, .decimal, .undocumented]

def name : Group → String
  | .base => "base"
  | .io => "io"
  | .interrupt => "interrupt"
  | .restart => "restart"
  | .decimal => "decimal"
  | .undocumented => "undocumented"

def named? (word : List Char) : Option Group := optional.find? (·.name.toList == word)

theorem mem_optional_iff (g : Group) : g ∈ optional ↔ g ≠ .base := by
  cases g <;> decide

end Group
end Intel8080
