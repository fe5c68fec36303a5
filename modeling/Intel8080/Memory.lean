import Intel8080.Word

/-! Memory: a byte at each of the 65536 addresses. Addresses wrap around at both ends, and words are
stored low byte first. -/
namespace Intel8080

structure Memory where
  bytes : Vector Byte 65536

namespace Memory

def size : Nat := 65536

def zero : Memory := ⟨Vector.replicate 65536 0⟩

instance : Inhabited Memory := ⟨zero⟩

def read (m : Memory) (address : Word) : Byte := m.bytes[address.toNat]

def write (m : Memory) (address : Word) (value : Byte) : Memory :=
  ⟨m.bytes.set address.toNat value⟩

@[ext] theorem ext_read {m n : Memory} (h : ∀ a, m.read a = n.read a) : m = n := by
  obtain ⟨v⟩ := m
  obtain ⟨w⟩ := n
  congr 1
  apply Vector.ext
  intro i hi
  have hr := h (BitVec.ofNat 16 i)
  simp only [read, BitVec.toNat_ofNat, Nat.mod_eq_of_lt hi] at hr
  exact hr

@[simp] theorem read_zero (a : Word) : zero.read a = 0 := by
  simp [zero, read]

theorem read_write (m : Memory) (a b : Word) (v : Byte) :
    (m.write a v).read b = if b = a then v else m.read b := by
  simp only [read, write, Vector.getElem_set, ← BitVec.toNat_inj]
  by_cases h : a.toNat = b.toNat <;> simp [h, eq_comm]

@[simp] theorem read_write_self (m : Memory) (a : Word) (v : Byte) : (m.write a v).read a = v := by
  simp [read_write]

theorem read_write_of_ne {m : Memory} {a b : Word} {v : Byte} (h : b ≠ a) :
    (m.write a v).read b = m.read b := by
  simp [read_write, h]

/-- The word whose low byte stands at the address and whose high byte stands after it. -/
def readWord (m : Memory) (address : Word) : Word :=
  .ofBytes (m.read (address + 1)) (m.read address)

def writeWord (m : Memory) (address value : Word) : Memory :=
  (m.write address value.lo).write (address + 1) value.hi

theorem read_writeWord (m : Memory) (a b v : Word) :
    (m.writeWord a v).read b =
      if b = a + 1 then v.hi else if b = a then v.lo else m.read b := by
  simp only [writeWord, read_write]

@[simp] theorem readWord_writeWord (m : Memory) (a v : Word) :
    (m.writeWord a v).readWord a = v := by
  simp [readWord, read_writeWord]

def writeBytes (m : Memory) (address : Word) : List Byte → Memory
  | [] => m
  | b :: bs => (m.write address b).writeBytes (address + 1) bs

/-- The bytes at the given number of addresses, as far as memory goes. -/
def slice (m : Memory) (address : Word) (count : Nat) : List Byte :=
  (List.range (min count (size - address.toNat))).map fun i => m.read (address + BitVec.ofNat 16 i)

/-- The addresses below a bound at which two memories differ, with the bytes of the second, in
front of those that were found above the bound. -/
def changesBelow (before after : Memory) :
    (bound : Nat) → bound ≤ 65536 → List (Word × Byte) → List (Word × Byte)
  | 0, _, found => found
  | i + 1, h, found =>
    if before.bytes[i] = after.bytes[i] then changesBelow before after i (by omega) found
    else changesBelow before after i (by omega) ((BitVec.ofNat 16 i, after.bytes[i]) :: found)

/-- The addresses at which two memories differ, in ascending order, with the bytes of the second. -/
def changes (before after : Memory) : List (Word × Byte) :=
  changesBelow before after 65536 (Nat.le_refl _) []

theorem mem_changesBelow {before after : Memory} {bound : Nat} {h : bound ≤ 65536}
    {found : List (Word × Byte)} {c : Word × Byte} :
    c ∈ changesBelow before after bound h found ↔
      c ∈ found ∨
        c.1.toNat < bound ∧ before.read c.1 ≠ after.read c.1 ∧ c.2 = after.read c.1 := by
  induction bound generalizing found with
  | zero => simp [changesBelow]
  | succ i ih =>
    obtain ⟨a, v⟩ := c
    have key : a.toNat < i + 1 ↔ a.toNat < i ∨ a = BitVec.ofNat 16 i := by
      rw [← BitVec.toNat_inj, BitVec.toNat_ofNat, Nat.mod_eq_of_lt (by omega : i < 2 ^ 16)]
      omega
    have hb (m : Memory) : m.read (BitVec.ofNat 16 i) = m.bytes[i] := by
      simp only [read, BitVec.toNat_ofNat, Nat.mod_eq_of_lt (by omega : i < 2 ^ 16)]
    rw [changesBelow]
    split
    · rename_i same
      rw [ih]
      constructor
      · rintro (hf | ⟨hlt, hne, hv⟩)
        · exact Or.inl hf
        · exact Or.inr ⟨Nat.lt_succ_of_lt hlt, hne, hv⟩
      · rintro (hf | ⟨hlt, hne, hv⟩)
        · exact Or.inl hf
        · rcases key.mp hlt with hlt | rfl
          · exact Or.inr ⟨hlt, hne, hv⟩
          · exact absurd (by rw [hb, hb]; exact same) hne
    · rename_i differ
      rw [ih, List.mem_cons, Prod.mk.injEq]
      constructor
      · rintro ((⟨rfl, rfl⟩ | hf) | ⟨hlt, hne, hv⟩)
        · exact Or.inr ⟨key.mpr (Or.inr rfl), by rw [hb, hb]; exact differ, (hb after).symm⟩
        · exact Or.inl hf
        · exact Or.inr ⟨Nat.lt_succ_of_lt hlt, hne, hv⟩
      · rintro (hf | ⟨hlt, hne, hv⟩)
        · exact Or.inl (Or.inr hf)
        · rcases key.mp hlt with hlt | rfl
          · exact Or.inr ⟨hlt, hne, hv⟩
          · exact Or.inl (Or.inl ⟨rfl, hv.trans (hb after)⟩)

theorem mem_changes {before after : Memory} {a : Word} {v : Byte} :
    (a, v) ∈ before.changes after ↔ before.read a ≠ after.read a ∧ v = after.read a := by
  have ha := a.isLt
  simp only [changes, mem_changesBelow, List.not_mem_nil, false_or]
  exact ⟨fun h => h.2, fun h => ⟨ha, h⟩⟩

def Fits (base : Word) (image : List Byte) : Prop := image.length ≤ size - base.toNat

instance (base : Word) (image : List Byte) : Decidable (Fits base image) :=
  inferInstanceAs (Decidable (_ ≤ _))

/-- Past the bytes that were written nothing changes, and the bytes themselves can be read back. -/
theorem read_writeBytes (m : Memory) (base : Word) (image : List Byte) (fits : Fits base image)
    (a : Word) : (m.writeBytes base image).read a =
      if h : base.toNat ≤ a.toNat ∧ a.toNat - base.toNat < image.length
      then image[a.toNat - base.toNat] else m.read a := by
  induction image generalizing m base with
  | nil => simp [writeBytes]
  | cons b bs ih =>
    have hb := base.isLt
    have ha := a.isLt
    simp only [Fits, size, List.length_cons] at fits
    by_cases top : base.toNat = 65535
    · have : bs = [] := List.length_eq_zero_iff.mp (by omega)
      subst this
      simp only [writeBytes, read_write, ← BitVec.toNat_inj, List.length_cons, List.length_nil]
      by_cases h : a.toNat = base.toNat
      · simp [h]
      · rw [if_neg h, dif_neg (by omega)]
    · have hs : (base + 1).toNat = base.toNat + 1 := by
        rw [Word.toNat_add_one]; omega
      rw [writeBytes, ih _ _ (by simp only [Fits, size, hs]; omega)]
      simp only [hs, read_write, ← BitVec.toNat_inj, List.length_cons]
      by_cases h : a.toNat = base.toNat
      · rw [dif_neg (by omega), if_pos h, dif_pos (by omega)]
        simp [h]
      · by_cases hr : base.toNat + 1 ≤ a.toNat ∧ a.toNat - (base.toNat + 1) < bs.length
        · rw [dif_pos hr, dif_pos (by omega)]
          have : a.toNat - base.toNat = a.toNat - (base.toNat + 1) + 1 := by omega
          simp only [this, List.getElem_cons_succ]
        · rw [dif_neg hr, dif_neg (by omega), if_neg h]

end Memory
end Intel8080
