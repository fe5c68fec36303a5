import Intel8080.Proofs.Disassembly.Offsets
import Intel8080.Proofs.Machine.Load
import Intel8080.Proofs.Machine.Operand
import Intel8080.Proofs.Machine.Run
import Intel8080.Proofs.Processor.Stores

/-! A machine whose program counter stands at a record of the listing of its program executes that
record, and if it does not jump, it goes on to the next record or leaves the program. The listing
reads the bytes by their offsets, the machine reads its memory at addresses that wrap around. -/
namespace Intel8080

theorem Flow.target_of_fallsThrough {flow : Flow} {next : Word} (h : flow.fallsThrough = true) :
    flow.target next = next := by
  cases flow with
  | jump target => cases h
  | _ => rfl

namespace Memory

theorem Carries.take_drop {m : Memory} {base : Word} {image : List Byte} (h : m.Carries base image)
    {o n : Nat} (full : o + n ≤ image.length) : (image.drop o).take n =
      (List.range n).map fun j => m.read (base + BitVec.ofNat 16 (o + j)) := by
  apply List.ext_getElem?
  intro j
  by_cases hj : j < n
  · have hlt : o + j < image.length := by omega
    have hb := List.getElem?_eq_getElem hlt
    rw [List.getElem?_take_of_lt hj, List.getElem?_drop, hb, List.getElem?_map,
      List.getElem?_range hj, Option.map_some, h _ _ hb]
  · have hn : n ≤ j := Nat.le_of_not_lt hj
    rw [List.getElem?_eq_none (by rw [List.length_take]; omega),
      List.getElem?_eq_none (by rw [List.length_map, List.length_range]; exact hn)]

end Memory

namespace Machine
variable {σ : Type}

def InProgram (m : Machine σ) (a : Word) : Prop :=
  m.programStart ≤ a.toNat ∧ a.toNat < m.programEnd

/-- The program of the machine is an image that stands in its memory. -/
structure HoldsProgram (m : Machine σ) (image : List Byte) (base : Word) : Prop where
  fits : Memory.Fits base image
  first : m.programStart = base.toNat
  last : m.programEnd = base.toNat + image.length
  bytes : m.processor.memory.Carries base image

theorem holdsProgram_loaded (m : Machine σ) {image : List Byte} {base : Word}
    (fits : Memory.Fits base image) : (m.loaded image base).HoldsProgram image base :=
  ⟨fits, rfl, rfl, Memory.carries_writeBytes _ fits⟩

namespace HoldsProgram
variable {m n : Machine σ} {image : List Byte} {base : Word} {i : Nat} {r : Record}

theorem inProgram_iff (h : m.HoldsProgram image base) {a : Word} :
    m.InProgram a ↔ base.toNat ≤ a.toNat ∧ a.toNat < base.toNat + image.length := by
  rw [InProgram, h.first, h.last]

theorem congr (h : m.HoldsProgram image base) (first : n.programStart = m.programStart)
    (last : n.programEnd = m.programEnd)
    (kept : ∀ a, m.InProgram a → n.processor.memory.read a = m.processor.memory.read a) :
    n.HoldsProgram image base := by
  refine ⟨h.fits, first.trans h.first, last.trans h.last, ?_⟩
  intro j b hb
  have hj : j < image.length := (List.getElem?_eq_some_iff.mp hb).1
  have hf := Memory.fits_iff.mp h.fits
  have ha : (base + BitVec.ofNat 16 j).toNat = base.toNat + j :=
    Memory.toNat_add_ofNat (by omega)
  rw [kept _ (h.inProgram_iff.mpr (by omega)), h.bytes j b hb]

theorem opcode_eq (h : m.HoldsProgram image base) (record : (disassemble image base)[i]? = some r)
    (address : m.processor.pc = r.address) : m.opcode = r.opcode := by
  obtain ⟨code, hc, ha, ho, -⟩ := record_of_getElem? record
  rw [opcode, address, ha, h.bytes _ _ hc, ho]

end HoldsProgram

def operandBytes (m : Machine σ) : List Byte :=
  [m.operand.lo, m.operand.hi].take (m.opcode.length - 1)

theorem HoldsProgram.operandBytes_eq {m : Machine σ} {image : List Byte} {base : Word} {i : Nat}
    {r : Record} (h : m.HoldsProgram image base)
    (record : (disassemble image base)[i]? = some r) (address : m.processor.pc = r.address)
    (complete : r.truncated = false) : m.operandBytes = r.operands := by
  have hc := h.opcode_eq record address
  obtain ⟨code, hlt, ha, ho, hop⟩ := record_of_getElem? record
  have hl := (Opcode.length_lookup_bounds code).2
  rw [← ho] at hl
  have full : offset (disassemble image base) i + 1 + (r.opcode.length - 1) ≤ image.length := by
    have hi := (List.getElem?_eq_some_iff.mp hlt).1
    simp only [Record.truncated, decide_eq_false_iff_not, hop, List.length_take,
      List.length_drop] at complete
    omega
  rw [operandBytes, hc, m.take_operand (by omega), hop, h.bytes.take_drop full, address, ha]
  simp only [BitVec.ofNat_add, BitVec.add_assoc]

/-- The program counter stands where the record with an index starts, and has left the program if
there is no such record. -/
structure StandsAt (m : Machine σ) (image : List Byte) (base : Word) (i : Nat) : Prop where
  pc : m.processor.pc = base + BitVec.ofNat 16 (offset (disassemble image base) i)
  inside : m.atEnd = false ↔ i < (disassemble image base).length

theorem standsAt_loaded (m : Machine σ) (image : List Byte) (base : Word) :
    (m.loaded image base).StandsAt image base 0 := by
  refine ⟨(BitVec.add_zero base).symm, ?_⟩
  rw [lt_length_disassemble_iff, offset_zero, atEnd_eq_false_iff]
  simp [loaded]

theorem StandsAt.address {m : Machine σ} {image : List Byte} {base : Word} {i : Nat} {r : Record}
    (h : m.StandsAt image base i) (record : (disassemble image base)[i]? = some r) :
    m.processor.pc = r.address := by
  obtain ⟨-, -, ha, -⟩ := record_of_getElem? record
  rw [h.pc, ha]

variable [Ports σ]

theorem StandsAt.step_of_fallsThrough {m : Machine σ} {image : List Byte} {base : Word} {i : Nat}
    (h : m.StandsAt image base i) (program : m.HoldsProgram image base) (executes : m.Executes)
    (inside : m.atEnd = false) (falls : m.flow.fallsThrough = true) :
    m.step.StandsAt image base (i + 1) := by
  have record := List.getElem?_eq_getElem (h.inside.mp inside)
  have hc := program.opcode_eq record (h.address record)
  have hs := offset_succ record
  rw [← hc] at hs
  have hpc : m.step.processor.pc =
      base + BitVec.ofNat 16 (offset (disassemble image base) (i + 1)) := by
    rw [pc_step executes, Flow.target_of_fallsThrough falls, nextAddress, h.pc, hs,
      BitVec.ofNat_add, BitVec.add_assoc]
  refine ⟨hpc, ?_⟩
  have hf := Memory.fits_iff.mp program.fits
  have hlt := lt_length_disassemble_iff.mp (h.inside.mp inside)
  have start : m.processor.pc.toNat = base.toNat + offset (disassemble image base) i := by
    rw [h.pc, Memory.toNat_add_ofNat (by omega)]
  have wrapped : m.step.wrapped = false ↔
      base.toNat + offset (disassemble image base) (i + 1) < 65536 := by
    have fresh : m.wrapped = false := (atEnd_eq_false_iff.mp inside).1
    rw [← Bool.not_eq_true, wrapped_step, PassesTop, start, hs]
    simp only [fresh, executes, falls, Bool.false_eq_true, false_or, true_and]
    omega
  -- the last record may reach past the end of memory, where only `wrapped` tells that it is over
  rw [lt_length_disassemble_iff, atEnd_eq_false_iff, programStart_step, programEnd_step,
    program.first, program.last, hpc, wrapped]
  constructor
  · rintro ⟨below, -, last⟩
    rw [Memory.toNat_add_ofNat below] at last
    omega
  · intro last
    have below : base.toNat + offset (disassemble image base) (i + 1) < 65536 := by omega
    rw [Memory.toNat_add_ofNat below]
    omega

end Machine
end Intel8080
