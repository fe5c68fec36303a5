import Intel8080.Ports.Basic

/-! A device whose answers are written down beforehand, port by port. -/
namespace Intel8080

structure Scripted where
  pending : List (Byte × List Byte)

namespace Scripted

/-- The next answer of a port. The last answer of a port is repeated for ever, and a port without
answers gives its own complement. -/
def answer (port : Byte) : List (Byte × List Byte) → Byte × List (Byte × List Byte)
  | [] => (~~~port, [])
  | (p, answers) :: rest =>
    if p = port then
      match answers with
      | [] => (~~~port, (p, []) :: rest)
      | [b] => (b, (p, [b]) :: rest)
      | b :: bs => (b, (p, bs) :: rest)
    else
      let (b, rest) := answer port rest
      (b, (p, answers) :: rest)

instance : Ports Scripted where
  input script port :=
    let (b, pending) := answer port script.pending
    (b, ⟨pending⟩)
  output script _ _ := script

end Scripted
end Intel8080
