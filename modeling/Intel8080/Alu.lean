import Intel8080.Flags
import Intel8080.Register

/-! Arithmetic and logic on the accumulator. Every operation gives a result byte and condition
codes; subtraction is addition of the complement, with the carry turned into a borrow. -/
namespace Intel8080.Alu

def add (a v : Byte) (carry : Bool) : Byte × Flags :=
  let sum := a.toNat + v.toNat + carry.toNat
  let result := BitVec.ofNat 8 sum
  (result, ((Flags.setResult {} result).setCarry sum .byte).setAuxCarry a v carry)

theorem toNat_fst_add (a v : Byte) (carry : Bool) :
    (add a v carry).1.toNat = (a.toNat + v.toNat + carry.toNat) % 256 :=
  BitVec.toNat_ofNat _ 8

theorem carry_snd_add (a v : Byte) (carry : Bool) :
    (add a v carry).2.carry = decide (0xFF < a.toNat + v.toNat + carry.toNat) := rfl

theorem auxCarry_snd_add (a v : Byte) (carry : Bool) :
    (add a v carry).2.auxCarry = Flags.nibbleCarry a v carry := rfl

/-- The difference of two bytes and a borrow. The carry code holds the borrow. -/
def sub (a v : Byte) (borrow : Bool) : Byte × Flags :=
  let (result, flags) := add a (~~~v) (!borrow)
  (result, { flags with carry := !flags.carry })

def logic (result : Byte) (auxCarry : Bool) : Byte × Flags :=
  (result, Flags.setResult { auxCarry } result)

/-- The accumulator and the condition codes after an operation. A comparison is a subtraction that
leaves the accumulator as it was. -/
def apply (op : AluOp) (a v : Byte) (carry : Bool) : Byte × Flags :=
  match op with
  | .add => add a v false
  | .adc => add a v carry
  | .sub => sub a v false
  | .sbb => sub a v carry
  | .ana => logic (a &&& v) ((a ||| v).getLsbD 3)
  | .xra => logic (a ^^^ v) false
  | .ora => logic (a ||| v) false
  | .cmp => (a, (sub a v false).2)

def increment (v : Byte) (flags : Flags) : Byte × Flags :=
  (v + 1, (flags.setResult (v + 1)).setAuxCarry v 1 false)

/-- One less, with every condition code but the carry. It counts as addition of 0xFF. -/
def decrement (v : Byte) (flags : Flags) : Byte × Flags :=
  (v - 1, (flags.setResult (v - 1)).setAuxCarry v 0x0F false)

/-- The low nibble is no decimal digit, or a carry left it. -/
def lowNibbleOver (a : Byte) (flags : Flags) : Bool :=
  flags.auxCarry || decide (9 < a.toNat % 16)

/-- The high nibble is no decimal digit, or will be none after the low nibble's correction, or a
carry left it. -/
def highNibbleOver (a : Byte) (flags : Flags) : Bool :=
  flags.carry || decide (9 < a.toNat / 16) || decide (9 ≤ a.toNat / 16 ∧ 9 < a.toNat % 16)

/-- Turn a sum of two bytes of decimal digits into the byte of the digits of the sum. A carry that
was there stays. -/
def decimalAdjust (a : Byte) (flags : Flags) : Byte × Flags :=
  let correction : Byte :=
    (if lowNibbleOver a flags then 0x06 else 0) + if highNibbleOver a flags then 0x60 else 0
  let (result, adjusted) := add a correction false
  (result, { adjusted with carry := highNibbleOver a flags })

theorem toNat_fst_decimalAdjust (a : Byte) (flags : Flags) :
    (decimalAdjust a flags).1.toNat = (a.toNat +
      (6 * (lowNibbleOver a flags).toNat + 96 * (highNibbleOver a flags).toNat)) % 256 := by
  rw [decimalAdjust, toNat_fst_add]
  cases lowNibbleOver a flags <;> cases highNibbleOver a flags <;> rfl

theorem carry_snd_decimalAdjust (a : Byte) (flags : Flags) :
    (decimalAdjust a flags).2.carry = highNibbleOver a flags := rfl

def rotateLeft (a : Byte) : Byte × Bool := (a <<< 1 ||| a >>> 7, a.getLsbD 7)

def rotateRight (a : Byte) : Byte × Bool := (a >>> 1 ||| a <<< 7, a.getLsbD 0)

def rotateLeftCarry (a : Byte) (carry : Bool) : Byte × Bool :=
  (a <<< 1 ||| (BitVec.ofBool carry).setWidth 8, a.getLsbD 7)

def rotateRightCarry (a : Byte) (carry : Bool) : Byte × Bool :=
  (a >>> 1 ||| (BitVec.ofBool carry).setWidth 8 <<< 7, a.getLsbD 0)

end Intel8080.Alu
