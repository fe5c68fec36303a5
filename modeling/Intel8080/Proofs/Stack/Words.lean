import Intel8080.Memory
import Mathlib.Order.Basic

/-! Words that lie in memory one behind the other, as a stack keeps them. Addresses wrap around, so
at most 32768 words have room. -/
namespace Intel8080.Memory

/-- Each word lies two bytes behind the one before it, and the first one at the address. -/
def Holds (m : Memory) : Word → List Word → Prop
  | _, [] => True
  | a, w :: ws => m.readWord a = w ∧ m.Holds (a + 2) ws

/-- An address among the bytes of the given number of words. -/
def Among (start : Word) (count : Nat) (a : Word) : Prop := (a - start).toNat < 2 * count

instance (start : Word) (count : Nat) (a : Word) : Decidable (Among start count a) :=
  inferInstanceAs (Decidable (_ < _))

theorem among_succ {start : Word} {count : Nat} {a : Word} (h : Among (start + 2) count a) :
    Among start (count + 1) a := by
  have next : (a - start).toNat ≤ (a - (start + 2)).toNat + 2 := by bv_omega
  rw [Among] at h ⊢
  omega

theorem among_self (start : Word) (count : Nat) : Among start (count + 1) start := by
  simp [Among]

theorem among_self_add_one (start : Word) (count : Nat) :
    Among start (count + 1) (start + 1) := by
  have h : (start + 1 - start).toNat = 1 := by bv_omega
  rw [Among, h]
  omega

theorem not_among_sub_two {start : Word} {count : Nat} (fits : count + 1 ≤ 32768) :
    ¬Among start count (start - 2) ∧ ¬Among start count (start - 2 + 1) := by
  have h2 : (start - 2 - start).toNat = 65534 := by bv_omega
  have h1 : (start - 2 + 1 - start).toNat = 65535 := by bv_omega
  rw [Among, Among, h2, h1]
  omega

theorem Holds.congr {m n : Memory} {a : Word} {ws : List Word} (fits : ws.length ≤ 32768)
    (h : m.Holds a ws) (same : ∀ b, Among a ws.length b → n.read b = m.read b) :
    n.Holds a ws := by
  induction ws generalizing a with
  | nil => trivial
  | cons w ws ih =>
    obtain ⟨hw, hs⟩ := h
    rw [List.length_cons] at fits same
    refine ⟨?_, ih (Nat.le_of_succ_le fits) hs fun b hb => same b (among_succ hb)⟩
    rw [← hw, readWord, readWord, same a (among_self a _), same (a + 1) (among_self_add_one a _)]

/-- A word that is stored below others leaves them as they are. -/
theorem Holds.push {m : Memory} {a : Word} {ws : List Word} (fits : ws.length + 1 ≤ 32768)
    (h : m.Holds a ws) (w : Word) : (m.writeWord (a - 2) w).Holds (a - 2) (w :: ws) := by
  obtain ⟨below, above⟩ := (not_among_sub_two fits : ¬Among a ws.length _ ∧ _)
  refine ⟨readWord_writeWord m (a - 2) w, ?_⟩
  have ha : a - 2 + 2 = a := BitVec.sub_add_cancel a 2
  rw [ha]
  refine h.congr (Nat.le_of_succ_le fits) fun b hb => ?_
  have h0 : b ≠ a - 2 := fun e => below (e ▸ hb)
  have h1 : b ≠ a - 2 + 1 := fun e => above (e ▸ hb)
  rw [read_writeWord, if_neg h1, if_neg h0]

end Intel8080.Memory
