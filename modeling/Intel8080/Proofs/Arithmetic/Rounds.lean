import Intel8080.Word
import Mathlib.Data.Nat.Digits.Defs

/-! Calculations on numbers of several bytes, the least significant byte first. They go byte by
byte, and each round takes over the carry that the round before it left. What one round says about
the digits, all of them together say about the numbers. -/
namespace Intel8080

/-- What one round makes of a byte of each number and the carry: a byte of the result, and the carry
of the next round. -/
abbrev Round := Byte → Byte → Bool → Byte → Bool → Prop

/-- One round after the other, each entered with the carry that the one before it left. -/
inductive Rounds (round : Round) : List Byte → List Byte → Bool → List Byte → Bool → Prop
  | nil (carry : Bool) : Rounds round [] [] carry [] carry
  | cons {x y z : Byte} {xs ys zs : List Byte} {carry between last : Bool}
      (first : round x y carry z between) (rest : Rounds round xs ys between zs last) :
      Rounds round (x :: xs) (y :: ys) carry (z :: zs) last

namespace Rounds
variable {round : Round} {xs ys zs : List Byte} {carry last : Bool}

theorem length_eq (h : Rounds round xs ys carry zs last) :
    ys.length = xs.length ∧ zs.length = xs.length := by
  induction h with
  | nil carry => exact ⟨rfl, rfl⟩
  | cons first rest ih => exact ⟨congrArg (· + 1) ih.1, congrArg (· + 1) ih.2⟩

/-- Where every round has a result, numbers of the same length have one. -/
theorem exists_of_total (total : ∀ x y carry, ∃ z next, round x y carry z next)
    (same : ys.length = xs.length) (carry : Bool) : ∃ zs last, Rounds round xs ys carry zs last := by
  induction xs generalizing ys carry with
  | nil =>
    obtain rfl : ys = [] := List.length_eq_zero_iff.mp same
    exact ⟨[], carry, .nil carry⟩
  | cons x xs ih =>
    cases ys with
    | nil => cases same
    | cons y ys =>
      obtain ⟨z, between, first⟩ := total x y carry
      obtain ⟨zs, last, rest⟩ := ih (Nat.succ.inj same) between
      exact ⟨z :: zs, last, .cons first rest⟩

theorem unique {round' : Round} {zs' : List Byte} {last' : Bool}
    (decided : ∀ x y carry z next z' next', round x y carry z next → round' x y carry z' next' →
      z' = z ∧ next' = next)
    (h : Rounds round xs ys carry zs last) (h' : Rounds round' xs ys carry zs' last') :
    zs' = zs ∧ last' = last := by
  induction h generalizing zs' with
  | nil carry =>
    cases h'
    exact ⟨rfl, rfl⟩
  | cons first rest ih =>
    cases h' with
    | cons first' rest' =>
      obtain ⟨rfl, rfl⟩ := decided _ _ _ _ _ _ _ first first'
      obtain ⟨rfl, rfl⟩ := ih rest'
      exact ⟨rfl, rfl⟩

/-- Each round, read from its result backwards, makes the first number of the other two. -/
theorem transpose (h : Rounds round xs ys carry zs last) :
    Rounds (fun z y carry x next => round x y carry z next) zs ys carry xs last := by
  induction h with
  | nil carry => exact .nil carry
  | cons first rest ih => exact .cons first ih

/-- If each round adds two digits and the carry, the rounds together add the numbers. -/
theorem sum_eq {base : Nat} {value : Byte → Nat} {digit : Byte → Prop}
    (adds : ∀ x y carry z next, digit x → digit y → round x y carry z next →
      digit z ∧ value z + base * next.toNat = value x + value y + carry.toNat)
    (h : Rounds round xs ys carry zs last) (hx : ∀ x ∈ xs, digit x) (hy : ∀ y ∈ ys, digit y) :
    (∀ z ∈ zs, digit z) ∧
      Nat.ofDigits base (zs.map value) + last.toNat * base ^ xs.length =
        Nat.ofDigits base (xs.map value) + Nat.ofDigits base (ys.map value) + carry.toNat := by
  induction h with
  | nil carry => simp
  | @cons x y z xs ys zs carry between last first rest ih =>
    obtain ⟨dx, hx⟩ := List.forall_mem_cons.mp hx
    obtain ⟨dy, hy⟩ := List.forall_mem_cons.mp hy
    obtain ⟨dz, now⟩ := adds x y carry z between dx dy first
    obtain ⟨dzs, later⟩ := ih hx hy
    refine ⟨List.forall_mem_cons.mpr ⟨dz, dzs⟩, ?_⟩
    simp only [List.map_cons, Nat.ofDigits_cons, List.length_cons]
    calc value z + base * Nat.ofDigits base (zs.map value) + last.toNat * base ^ (xs.length + 1)
        = value z + base * (Nat.ofDigits base (zs.map value) + last.toNat * base ^ xs.length) := by
          ring
      _ = value z + base * between.toNat +
            base * (Nat.ofDigits base (xs.map value) + Nat.ofDigits base (ys.map value)) := by
          rw [later]; ring
      _ = value x + base * Nat.ofDigits base (xs.map value) +
            (value y + base * Nat.ofDigits base (ys.map value)) + carry.toNat := by
          rw [now]; ring

theorem sum_eq_of_forall {base : Nat} {value : Byte → Nat}
    (adds : ∀ x y carry z next, round x y carry z next →
      value z + base * next.toNat = value x + value y + carry.toNat)
    (h : Rounds round xs ys carry zs last) :
    Nat.ofDigits base (zs.map value) + last.toNat * base ^ xs.length =
      Nat.ofDigits base (xs.map value) + Nat.ofDigits base (ys.map value) + carry.toNat := by
  have digits : ∀ x y carry z next, True → True → round x y carry z next →
      True ∧ value z + base * next.toNat = value x + value y + carry.toNat :=
    fun x y carry z next _ _ now => ⟨trivial, adds x y carry z next now⟩
  exact (h.sum_eq digits (fun _ _ => trivial) fun _ _ => trivial).2

end Rounds
end Intel8080
