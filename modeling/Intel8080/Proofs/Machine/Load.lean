import Intel8080.Proofs.Machine.Step

/-! Loading a program: the machine afterwards in one piece, when there is one, and where the bytes
of the program stand. -/
namespace Intel8080

theorem add_one_add_ofNat (a : Word) (i : Nat) :
    a + 1 + BitVec.ofNat 16 i = a + BitVec.ofNat 16 (i + 1) := by
  rw [BitVec.ofNat_add, BitVec.add_assoc, BitVec.add_comm 1]
  rfl

namespace Memory

theorem toNat_add_ofNat {a : Word} {n : Nat} (h : a.toNat + n < 65536) :
    (a + BitVec.ofNat 16 n).toNat = a.toNat + n := by
  simp only [BitVec.toNat_add, BitVec.toNat_ofNat]
  omega

theorem fits_iff {base : Word} {image : List Byte} :
    Fits base image ↔ base.toNat + image.length ≤ 65536 := by
  have hb := base.isLt
  simp only [Fits, size]
  omega

def Carries (m : Memory) (base : Word) (image : List Byte) : Prop :=
  ∀ j b, image[j]? = some b → m.read (base + BitVec.ofNat 16 j) = b

theorem carries_writeBytes (m : Memory) {base : Word} {image : List Byte}
    (fits : Fits base image) : (m.writeBytes base image).Carries base image := by
  intro j b hb
  obtain ⟨hj, rfl⟩ := List.getElem?_eq_some_iff.mp hb
  have below : base.toNat + j < 65536 := by
    have := fits_iff.mp fits
    omega
  rw [read_writeBytes _ _ _ fits, dif_pos (by rw [toNat_add_ofNat below]; omega)]
  simp only [toNat_add_ofNat below, Nat.add_sub_cancel_left]

theorem Carries.of_begins {m : Memory} {base : Word} {first program : List Byte}
    (h : m.Carries base program) (begins : first <+: program) : m.Carries base first := by
  obtain ⟨rest, rfl⟩ := begins
  intro j b hb
  have hj : j < first.length := (List.getElem?_eq_some_iff.mp hb).1
  exact h j b (by rwa [List.getElem?_append_left hj])

theorem Carries.write {m : Memory} {base a : Word} {program : List Byte}
    (h : m.Carries base program) (fits : Fits base program)
    (outside : a.toNat < base.toNat ∨ base.toNat + program.length ≤ a.toNat) (v : Byte) :
    (m.write a v).Carries base program := by
  intro j b hb
  have hj : j < program.length := (List.getElem?_eq_some_iff.mp hb).1
  have address : (base + BitVec.ofNat 16 j).toNat = base.toNat + j := by
    have := fits_iff.mp fits
    exact toNat_add_ofNat (by omega)
  have ne : base + BitVec.ofNat 16 j ≠ a := by
    rintro rfl
    omega
  rw [read_write_of_ne ne, h j b hb]

end Memory

namespace Machine
variable {σ : Type}

def loaded (m : Machine σ) (image : List Byte) (base : Word) : Machine σ :=
  { m with
    processor := { m.processor with memory := m.processor.memory.writeBytes base image, pc := base }
    programStart := base.toNat
    programEnd := base.toNat + image.length
    wrapped := false }

theorem load_eq (m : Machine σ) (image : List Byte) (base : Word) :
    m.load image base =
      if Memory.Fits base image then .ok (m.loaded image base)
      else .error ⟨base, image.length⟩ := by
  unfold load Processor.load
  split <;> rfl

theorem load_eq_ok_iff {m n : Machine σ} {image : List Byte} {base : Word} :
    m.load image base = .ok n ↔ Memory.Fits base image ∧ m.loaded image base = n := by
  rw [load_eq]
  split <;> simp_all

def upToTop (memory : Memory) (first : Word) : Machine Unconnected :=
  { processor := { memory, pc := first }, ports := ⟨⟩
    programStart := first.toNat, programEnd := 65536 }

/-- What a program that reaches to the end of memory leaves there. The rest of memory is left open,
or the whole of it would be computed where the program is known. -/
theorem load_eq_upToTop (image : List Byte) (base : Word)
    (length : base.toNat + image.length = 65536) :
    ∃ memory, (ofPorts ⟨⟩).load image base = .ok (upToTop memory base) ∧
      memory.Carries base image := by
  have fits : Memory.Fits base image := Memory.fits_iff.mpr (Nat.le_of_eq length)
  obtain ⟨memory, placed⟩ : ∃ memory, Memory.zero.writeBytes base image = memory := ⟨_, rfl⟩
  refine ⟨memory, load_eq_ok_iff.mpr ⟨fits, ?_⟩, placed ▸ Memory.carries_writeBytes _ fits⟩
  subst placed
  rw [loaded, length]
  rfl

end Machine
end Intel8080
