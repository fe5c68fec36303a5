import Intel8080.Ports.Basic

/-! A device together with a record of every access to it. The record does not change what the
device answers. -/
namespace Intel8080

inductive PortAccess
  | input (port value : Byte)
  | output (port value : Byte)
  deriving DecidableEq

/-- A device and what was done to it, the latest access first. -/
structure Recorded (σ : Type) where
  device : σ
  latest : List PortAccess := []

namespace Recorded
variable {σ : Type} [Ports σ]

def accesses (r : Recorded σ) : List PortAccess := r.latest.reverse

instance : Ports (Recorded σ) where
  input r port :=
    let (value, device) := Ports.input r.device port
    (value, ⟨device, .input port value :: r.latest⟩)
  output r port value := ⟨Ports.output r.device port value, .output port value :: r.latest⟩

@[simp] theorem accesses_input (r : Recorded σ) (port : Byte) :
    (Ports.input r port).2.accesses =
      r.accesses ++ [.input port (Ports.input r.device port).1] := by
  simp [Ports.input, accesses]

@[simp] theorem accesses_output (r : Recorded σ) (port value : Byte) :
    (Ports.output r port value).accesses = r.accesses ++ [.output port value] := by
  simp [Ports.output, accesses]

@[simp] theorem fst_input (r : Recorded σ) (port : Byte) :
    (Ports.input r port).1 = (Ports.input r.device port).1 := rfl

@[simp] theorem device_input (r : Recorded σ) (port : Byte) :
    (Ports.input r port).2.device = (Ports.input r.device port).2 := rfl

@[simp] theorem device_output (r : Recorded σ) (port value : Byte) :
    (Ports.output r port value).device = Ports.output r.device port value := rfl

end Recorded
end Intel8080
