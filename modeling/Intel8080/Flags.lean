import Intel8080.Word

/-! The five condition codes. Each setter derives one code from a result and leaves the other four
alone; `toByte` and `ofByte` pack the codes into the flag byte `S Z 0 AC 0 P 1 CY` and read them
back. -/
namespace Intel8080

inductive Flag
  | zero | sign | parity | carry | auxCarry
  deriving DecidableEq

namespace Flag

def all : List Flag := [.zero, .sign, .parity, .carry, .auxCarry]

theorem mem_all (f : Flag) : f ∈ all := by cases f <;> decide

def weight : Flag → Nat
  | .zero => 1
  | .sign => 2
  | .parity => 4
  | .carry => 8
  | .auxCarry => 16

end Flag

@[ext] structure Flags where
  sign : Bool := false
  zero : Bool := false
  auxCarry : Bool := false
  parity : Bool := false
  carry : Bool := false
  deriving DecidableEq, Inhabited

/-- The width of an addition, which decides where its carry lies. -/
inductive Width
  | byte | word
  deriving DecidableEq

def Width.max : Width → Nat
  | .byte => 0xFF
  | .word => 0xFFFF

def ones (b : Byte) : Nat := (List.range 8).countP b.getLsbD

def evenParity (b : Byte) : Bool := ones b % 2 == 0

namespace Flags

def get (f : Flags) : Flag → Bool
  | .zero => f.zero
  | .sign => f.sign
  | .parity => f.parity
  | .carry => f.carry
  | .auxCarry => f.auxCarry

theorem ext_get {f g : Flags} (h : ∀ c, f.get c = g.get c) : f = g :=
  Flags.ext (h .sign) (h .zero) (h .auxCarry) (h .parity) (h .carry)

/-- Set the zero code from a result. Zero, sign and parity look at its low byte only. -/
def setZero (f : Flags) (result : Word) : Flags := { f with zero := result.lo == 0 }

def setSign (f : Flags) (result : Word) : Flags := { f with sign := result.lo.msb }

def setParity (f : Flags) (result : Word) : Flags := { f with parity := evenParity result.lo }

def setCarry (f : Flags) (sum : Nat) (width : Width) : Flags :=
  { f with carry := decide (width.max < sum) }

def nibbleCarry (a b : Byte) (carry : Bool) : Bool :=
  decide (15 < a.toNat % 16 + b.toNat % 16 + carry.toNat)

def setAuxCarry (f : Flags) (a b : Byte) (carry : Bool) : Flags :=
  { f with auxCarry := nibbleCarry a b carry }

def setResult (f : Flags) (result : Byte) : Flags :=
  { f with zero := result == 0, sign := result.msb, parity := evenParity result }

theorem setResult_eq (f : Flags) (b : Byte) :
    f.setResult b =
      ((f.setZero (.ofBytes 0 b)).setSign (.ofBytes 0 b)).setParity (.ofBytes 0 b) := by
  simp [setResult, setZero, setSign, setParity]

/-- The flag byte `S Z 0 AC 0 P 1 CY`. -/
def toByte (f : Flags) : Byte :=
  BitVec.ofBool f.sign ++ BitVec.ofBool f.zero ++ 0#1 ++ BitVec.ofBool f.auxCarry ++
    0#1 ++ BitVec.ofBool f.parity ++ 1#1 ++ BitVec.ofBool f.carry

/-- The condition codes of a flag byte, whose three fixed bits are ignored. -/
def ofByte (b : Byte) : Flags where
  sign := b.getLsbD 7
  zero := b.getLsbD 6
  auxCarry := b.getLsbD 4
  parity := b.getLsbD 2
  carry := b.getLsbD 0

@[simp] theorem ofByte_toByte (f : Flags) : ofByte f.toByte = f := by
  obtain ⟨s, z, a, p, c⟩ := f
  revert s z a p c; decide

theorem bits_toByte (f : Flags) : [7, 6, 5, 4, 3, 2, 1, 0].map f.toByte.getLsbD =
    [f.sign, f.zero, false, f.auxCarry, false, f.parity, true, f.carry] := by
  obtain ⟨s, z, a, p, c⟩ := f
  revert s z a p c
  decide

theorem toByte_ofByte : ∀ b : Byte, (ofByte b).toByte = b &&& 0xD5 ||| 0x02 := by
  decide +kernel

end Flags
end Intel8080
