import Intel8080.Word

/-! What stands at the other end of the 256 ports. A device answers reads and takes writes, and
may change with each of them. -/
namespace Intel8080

/-- The states of a device at the ports. -/
class Ports (σ : Type) where
  input : σ → Byte → Byte × σ
  output : σ → Byte → Byte → σ

/-- No device at all: reads give zero and writes are lost. -/
structure Unconnected where
  deriving DecidableEq, Inhabited

instance : Ports Unconnected where
  input device _ := (0, device)
  output device _ _ := device

end Intel8080
