import Intel8080.Proofs.Machine.Sequence

/-! Rotations of the accumulator, alone or with the carry in front of it. One instruction rotates by
one place, so that any number of them rotates by that number, as far as it does not go around. Main
statement: `rotations_yield`. -/
namespace Intel8080

section Places
variable {w : Nat}

theorem getLsbD_rotateRight_eq (x : BitVec w) (n : Nat) {i : Nat} (h : i < w) :
    (x.rotateRight n).getLsbD i = x.getLsbD ((i + n) % w) := by
  have hr : n % w < w := Nat.mod_lt n (Nat.zero_lt_of_lt h)
  rw [BitVec.getLsbD_rotateRight, Bool.cond_decide, ← Nat.add_mod_mod]
  generalize n % w = r at hr
  split
  · rename_i below
    rw [Nat.mod_eq_of_lt (by omega), Nat.add_comm]
  · rename_i above
    have around : i + r = i - (w - r) + w := by omega
    rw [around, Nat.add_mod_right, Nat.mod_eq_of_lt (by omega), decide_eq_true h, Bool.true_and]

theorem getLsbD_rotateLeft_eq (x : BitVec w) (n : Nat) {i : Nat} (h : i < w) :
    (x.rotateLeft n).getLsbD ((i + n) % w) = x.getLsbD i := by
  have hr : n % w < w := Nat.mod_lt n (Nat.zero_lt_of_lt h)
  rw [BitVec.getLsbD_rotateLeft, Bool.cond_decide, ← Nat.add_mod_mod]
  generalize n % w = r at hr
  by_cases below : i + r < w
  · rw [Nat.mod_eq_of_lt below, if_neg (by omega), decide_eq_true below, Bool.true_and,
      Nat.add_sub_cancel]
  · have around : i + r = i - (w - r) + w := by omega
    have back : w - r + (i - (w - r)) = i := by omega
    rw [around, Nat.add_mod_right, Nat.mod_eq_of_lt (by omega), if_pos (by omega), back]

theorem exists_place (n : Nat) {j : Nat} (h : j < w) : ∃ i < w, (i + n) % w = j := by
  have positive : 0 < w := Nat.zero_lt_of_lt h
  have hr : n % w < w := Nat.mod_lt n positive
  refine ⟨(j + (w - n % w)) % w, Nat.mod_lt _ positive, ?_⟩
  rw [Nat.mod_add_mod, ← Nat.add_mod_mod, Nat.add_assoc, Nat.sub_add_cancel hr.le,
    Nat.add_mod_right, Nat.mod_eq_of_lt h]

theorem rotateRight_zero (x : BitVec w) : x.rotateRight 0 = x := by
  apply BitVec.eq_of_getLsbD_eq
  intro i h
  rw [getLsbD_rotateRight_eq _ _ h, Nat.add_zero, Nat.mod_eq_of_lt h]

theorem rotateRight_rotateLeft (x : BitVec w) (n : Nat) :
    (x.rotateLeft n).rotateRight n = x := by
  apply BitVec.eq_of_getLsbD_eq
  intro i h
  rw [getLsbD_rotateRight_eq _ _ h, getLsbD_rotateLeft_eq _ _ h]

theorem rotateLeft_rotateRight (x : BitVec w) (n : Nat) :
    (x.rotateRight n).rotateLeft n = x := by
  apply BitVec.eq_of_getLsbD_eq
  intro j h
  obtain ⟨i, hi, rfl⟩ := exists_place n h
  rw [getLsbD_rotateLeft_eq _ _ hi, getLsbD_rotateRight_eq _ _ hi]

theorem rotateLeft_zero (x : BitVec w) : x.rotateLeft 0 = x := by
  rw [← rotateRight_zero (x.rotateLeft 0), rotateRight_rotateLeft]

theorem rotateRight_add (x : BitVec w) (m n : Nat) :
    x.rotateRight (m + n) = (x.rotateRight m).rotateRight n := by
  apply BitVec.eq_of_getLsbD_eq
  intro i h
  have inside : (i + n) % w < w := Nat.mod_lt _ (Nat.zero_lt_of_lt h)
  rw [getLsbD_rotateRight_eq _ _ h, getLsbD_rotateRight_eq _ _ h,
    getLsbD_rotateRight_eq _ _ inside, Nat.mod_add_mod, Nat.add_assoc, Nat.add_comm n m]

theorem rotateLeft_add (x : BitVec w) (m n : Nat) :
    x.rotateLeft (m + n) = (x.rotateLeft m).rotateLeft n := by
  have back : ((x.rotateLeft m).rotateLeft n).rotateRight (n + m) = x := by
    rw [rotateRight_add, rotateRight_rotateLeft, rotateRight_rotateLeft]
  calc x.rotateLeft (m + n)
      = (((x.rotateLeft m).rotateLeft n).rotateRight (n + m)).rotateLeft (n + m) := by
        rw [back, Nat.add_comm]
    _ = (x.rotateLeft m).rotateLeft n := rotateLeft_rotateRight _ _

end Places

inductive Rotation
  | left
  | right
  | leftCarry
  | rightCarry
  deriving DecidableEq

namespace Rotation

def instruction : Rotation → Instruction
  | .left => .rlc
  | .right => .rrc
  | .leftCarry => .ral
  | .rightCarry => .rar

def inverse : Rotation → Rotation
  | .left => .right
  | .right => .left
  | .leftCarry => .rightCarry
  | .rightCarry => .leftCarry

def throughCarry : Rotation → Bool
  | .left | .right => false
  | .leftCarry | .rightCarry => true

def apply : Rotation → Byte × Bool → Byte × Bool
  | .left, x => Alu.rotateLeft x.1
  | .right, x => Alu.rotateRight x.1
  | .leftCarry, x => Alu.rotateLeftCarry x.1 x.2
  | .rightCarry, x => Alu.rotateRightCarry x.1 x.2

/-- The nine bits of the carry and the accumulator, in this order. -/
def ring (x : Byte × Bool) : BitVec 9 := BitVec.ofBool x.2 ++ x.1

theorem ring_injective : Function.Injective ring := by
  intro x y h
  have byte (x : Byte × Bool) : (ring x).setWidth 8 = x.1 := BitVec.setWidth_append_eq_right
  have carry (x : Byte × Bool) : (ring x).getLsbD 8 = x.2 := by
    rw [ring, BitVec.getLsbD_append, if_neg (Nat.lt_irrefl 8), Nat.sub_self]
    cases x.2 <;> rfl
  exact Prod.ext (by rw [← byte x, h, byte y]) (by rw [← carry x, h, carry y])

/-- What a number of rotations makes of an accumulator and a carry. Without the carry the
accumulator takes its place again after eight of them, and with the carry after nine. -/
def Yields (n : Nat) (x y : Byte × Bool) : Rotation → Prop
  | .left => y.1 = x.1.rotateLeft (n % 8) ∧ (1 ≤ n → y.2 = y.1.getLsbD 0)
  | .right => y.1 = x.1.rotateRight (n % 8) ∧ (1 ≤ n → y.2 = y.1.getLsbD 7)
  | .leftCarry => ring y = (ring x).rotateLeft (n % 9)
  | .rightCarry => ring y = (ring x).rotateRight (n % 9)

theorem rotateLeft_eq (a : Byte) :
    Alu.rotateLeft a = (a.rotateLeft 1, (a.rotateLeft 1).getLsbD 0) := by
  revert a
  decide +kernel

theorem rotateRight_eq (a : Byte) :
    Alu.rotateRight a = (a.rotateRight 1, (a.rotateRight 1).getLsbD 7) := by
  revert a
  decide +kernel

theorem ring_rotateLeftCarry (x : Byte × Bool) :
    ring (Alu.rotateLeftCarry x.1 x.2) = (ring x).rotateLeft 1 := by
  obtain ⟨a, c⟩ := x
  revert a c
  decide +kernel

theorem ring_rotateRightCarry (x : Byte × Bool) :
    ring (Alu.rotateRightCarry x.1 x.2) = (ring x).rotateRight 1 := by
  obtain ⟨a, c⟩ := x
  revert a c
  decide +kernel

theorem Yields.apply {t : Rotation} {n : Nat} {x y : Byte × Bool} (h : t.Yields n x y) :
    t.Yields (n + 1) x (t.apply y) := by
  cases t with
  | left =>
    obtain ⟨now, -⟩ := h
    refine ⟨?_, fun _ => by rw [Rotation.apply, rotateLeft_eq]⟩
    rw [Rotation.apply, rotateLeft_eq, now, BitVec.rotateLeft_mod_eq_rotateLeft,
      BitVec.rotateLeft_mod_eq_rotateLeft, rotateLeft_add]
  | right =>
    obtain ⟨now, -⟩ := h
    refine ⟨?_, fun _ => by rw [Rotation.apply, rotateRight_eq]⟩
    rw [Rotation.apply, rotateRight_eq, now, BitVec.rotateRight_mod_eq_rotateRight,
      BitVec.rotateRight_mod_eq_rotateRight, rotateRight_add]
  | leftCarry =>
    have now : ring y = (ring x).rotateLeft (n % 9) := h
    rw [Yields, Rotation.apply, ring_rotateLeftCarry, now, BitVec.rotateLeft_mod_eq_rotateLeft,
      BitVec.rotateLeft_mod_eq_rotateLeft, rotateLeft_add]
  | rightCarry =>
    have now : ring y = (ring x).rotateRight (n % 9) := h
    rw [Yields, Rotation.apply, ring_rotateRightCarry, now, BitVec.rotateRight_mod_eq_rotateRight,
      BitVec.rotateRight_mod_eq_rotateRight, rotateRight_add]

theorem yields_iterate (t : Rotation) (n : Nat) (x : Byte × Bool) :
    t.Yields n x (t.apply^[n] x) := by
  induction n with
  | zero =>
    cases t with
    | left => exact ⟨(rotateLeft_zero x.1).symm, fun h => absurd h (by decide)⟩
    | right => exact ⟨(rotateRight_zero x.1).symm, fun h => absurd h (by decide)⟩
    | leftCarry => exact (rotateLeft_zero (ring x)).symm
    | rightCarry => exact (rotateRight_zero (ring x)).symm
  | succ n ih =>
    rw [Function.iterate_succ_apply']
    exact ih.apply

/-- As many rotations the other way lead back, but a carry that takes no part in them does not. -/
theorem Yields.undo {t : Rotation} {n : Nat} {x y z : Byte × Bool} (h : t.Yields n x y)
    (h' : t.inverse.Yields n y z) : z.1 = x.1 ∧ (t.throughCarry = true → z.2 = x.2) := by
  cases t with
  | left =>
    have back : z.1 = x.1 := by rw [h'.1, h.1, rotateRight_rotateLeft]
    exact ⟨back, Bool.noConfusion⟩
  | right =>
    have back : z.1 = x.1 := by rw [h'.1, h.1, rotateLeft_rotateRight]
    exact ⟨back, Bool.noConfusion⟩
  | leftCarry =>
    have on : ring y = (ring x).rotateLeft (n % 9) := h
    have back : ring z = (ring y).rotateRight (n % 9) := h'
    rw [on, rotateRight_rotateLeft] at back
    obtain rfl := ring_injective back
    exact ⟨rfl, fun _ => rfl⟩
  | rightCarry =>
    have on : ring y = (ring x).rotateRight (n % 9) := h
    have back : ring z = (ring y).rotateLeft (n % 9) := h'
    rw [on, rotateLeft_rotateRight] at back
    obtain rfl := ring_injective back
    exact ⟨rfl, fun _ => rfl⟩

end Rotation

namespace Processor

def turning (p : Processor) : Byte × Bool := (p.a, p.flags.carry)

theorem foldl_rotations (t : Rotation) (n : Nat) (p : Processor) :
    (List.replicate n t.instruction).foldl carryOut p = p.rotated (t.apply^[n] p.turning) := by
  induction n generalizing p with
  | zero => rfl
  | succ n ih =>
    have once : p.carryOut t.instruction = p.rotated (t.apply p.turning) := by
      cases t <;> rfl
    rw [List.replicate_succ, List.foldl_cons, once, ih, Function.iterate_succ_apply]
    rfl

end Processor

namespace Machine
variable {σ : Type} [Ports σ]

theorem processor_iterate_of_rotations {m : Machine σ} {t : Rotation} {n : Nat}
    (obeys : m.Obeys (List.replicate n t.instruction)) : (step^[n] m).processor =
      { m.processor.rotated (t.apply^[n] m.processor.turning) with
        pc := m.processor.pc + BitVec.ofNat 16 n } := by
  have plain : ∀ i ∈ List.replicate n t.instruction, i.isPlain = true := by
    intro i hi
    rw [List.eq_of_mem_replicate hi]
    cases t <;> rfl
  have carried := obeys.processor plain
  rw [List.length_replicate, Processor.foldl_rotations] at carried
  exact carried

/-- Any number of rotations of one kind, one after the other, move the bits of the accumulator by
this number, less the times that it goes around. A rotation through the carry moves nine bits, the
carry in front of the accumulator, and any other moves eight and leaves in the carry the bit that
went around last. Nothing else changes but the program counter. As many rotations the other way lead
back. -/
theorem rotations_yield {m : Machine σ} {t : Rotation} {n : Nat}
    (obeys : m.Obeys (List.replicate n t.instruction)) :
    let before := m.processor
    let after := (step^[n] m).processor
    after = { before with
      a := after.a
      flags := { before.flags with carry := after.flags.carry }
      pc := before.pc + BitVec.ofNat 16 n } ∧
    t.Yields n before.turning after.turning ∧
    ((step^[n] m).Obeys (List.replicate n t.inverse.instruction) →
      let last := (step^[n] (step^[n] m)).processor
      last = { before with
        flags := { before.flags with carry := last.flags.carry }
        pc := before.pc + BitVec.ofNat 16 (n + n) } ∧
      (t.throughCarry = true → last.flags.carry = before.flags.carry)) := by
  intro before after
  have turned : after = _ := processor_iterate_of_rotations obeys
  have yields : t.Yields n before.turning after.turning := by
    rw [turned]
    exact t.yields_iterate n before.turning
  refine ⟨by rw [turned]; rfl, yields, fun obeysBack => ?_⟩
  intro last
  have turnedBack : last = { after.rotated (t.inverse.apply^[n] after.turning) with
      pc := after.pc + BitVec.ofNat 16 n } := processor_iterate_of_rotations obeysBack
  have yieldsBack : t.inverse.Yields n after.turning last.turning := by
    rw [turnedBack]
    exact t.inverse.yields_iterate n after.turning
  obtain ⟨accumulator, carry⟩ := yields.undo yieldsBack
  have restored : last.a = before.a := accumulator
  have frame : last = { before with
      a := last.a
      flags := { before.flags with carry := last.flags.carry }
      pc := before.pc + BitVec.ofNat 16 n + BitVec.ofNat 16 n } := by
    rw [turnedBack, turned]
    rfl
  rw [restored, BitVec.add_assoc, ← BitVec.ofNat_add] at frame
  exact ⟨frame, carry⟩

/-- Eleven `RAL` and eleven `RAR`. -/
def turnsAround : Machine Unconnected where
  processor :=
    { a := 0xC0, flags := { sign := true }
      memory := Memory.zero.writeBytes 0 (List.replicate 11 0x17 ++ List.replicate 11 0x1F) }
  ports := ⟨⟩

theorem turnsAround_yield :
    turnsAround.Obeys (List.replicate 11 .ral) ∧
    (step^[11] turnsAround).Obeys (List.replicate 11 .rar) ∧
    (step^[11] turnsAround).processor =
      { turnsAround.processor with a := 0x01, flags := { sign := true, carry := true }, pc := 11 } ∧
    (step^[11] (step^[11] turnsAround)).processor = { turnsAround.processor with pc := 22 } := by
  have obeys : turnsAround.Obeys (List.replicate 11 .ral ++ List.replicate 11 .rar) := by
    have fits : Memory.Fits 0 (List.replicate 11 0x17 ++ List.replicate 11 0x1F) := by decide
    have carries := Memory.carries_writeBytes Memory.zero fits
    have codes := obeys_of_carries (m := turnsAround) rfl rfl carries (by decide) (by decide)
    exact codes
  obtain ⟨left, right⟩ := obeys_append.mp obeys
  obtain ⟨frame, yields, back⟩ := rotations_yield (t := .leftCarry) (n := 11) left
  obtain ⟨frameBack, carry⟩ := back right
  have turning : (step^[11] turnsAround).processor.turning = (0x01, true) := by
    have nine : (Rotation.ring (0xC0, false)).rotateLeft (11 % 9) = Rotation.ring (0x01, true) := by
      decide
    exact Rotation.ring_injective (Eq.trans yields nine)
  obtain ⟨accumulator, carried⟩ := Prod.mk.inj turning
  rw [accumulator, carried] at frame
  rw [carry rfl] at frameBack
  exact ⟨left, right, frame, frameBack⟩

end Machine
end Intel8080
