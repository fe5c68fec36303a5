import Intel8080.Proofs.Disassembly.Offsets
import Mathlib.Data.List.Basic
import Mathlib.Logic.Function.Iterate

/-! A listing cuts the bytes into records. No byte is lost or read twice, each record has the
operand bytes that its opcode declares unless the bytes end within the last one, and the listing
of bytes that end with an instruction goes on with whatever follows them. Main statement:
`disassemble_partitions`. -/
namespace Intel8080

namespace Record

def Complete (r : Record) : Prop := r.operands.length + 1 = r.opcode.length

theorem byte?_eq_some_iff {r : Record} {b : Byte} :
    r.byte? = some b ↔ r.opcode.length = 2 ∧ r.operands = [b] := by
  rw [byte?]
  split
  · rename_i value h
    split <;> simp_all
  · rename_i h
    simp only [reduceCtorEq, false_iff, not_and]
    exact fun _ => h b

theorem word?_eq_some_iff {r : Record} {w : Word} :
    r.word? = some w ↔ r.operands = [w.lo, w.hi] := by
  rw [word?]
  split
  · rename_i low high h
    rw [h, Option.some.injEq]
    constructor
    · rintro rfl
      rw [Word.lo_ofBytes, Word.hi_ofBytes]
    · intro hw
      obtain ⟨rfl, rfl⟩ : low = w.lo ∧ high = w.hi := by simpa using hw
      exact w.ofBytes_hi_lo
  · rename_i h
    simp only [reduceCtorEq, false_iff]
    exact h w.lo w.hi

theorem isSome_byte?_iff {r : Record} :
    r.byte?.isSome = true ↔ r.Complete ∧ r.opcode.length = 2 := by
  simp only [Option.isSome_iff_exists, byte?_eq_some_iff, exists_and_left,
    ← List.length_eq_one_iff, Complete]
  omega

theorem isSome_word?_iff {r : Record} : r.word?.isSome = true ↔ r.operands.length = 2 := by
  simp only [Option.isSome_iff_exists, word?_eq_some_iff, List.length_eq_two]
  constructor
  · rintro ⟨w, h⟩
    exact ⟨_, _, h⟩
  · rintro ⟨low, high, h⟩
    exact ⟨.ofBytes high low, by simp [h]⟩

end Record

namespace Disassembly

/-- Ask for the next record. At the end of the bytes there is none, and nothing changes. -/
def pull (d : Disassembly) : Option Record × Disassembly :=
  match d.next? with
  | none => (none, d)
  | some (r, e) => (some r, e)

/-- The answer to the request for a record after a number of such requests. -/
def answer (d : Disassembly) (n : Nat) : Option Record := ((fun e => e.pull.2)^[n] d).pull.1

theorem answer_eq (d : Disassembly) (n : Nat) : d.answer n = d.records[n]? := by
  induction n generalizing d with
  | zero =>
    cases h : d.next? with
    | none => simp [answer, pull, h, records_of_none h]
    | some s => simp [answer, pull, h, records_of_some h]
  | succ n ih =>
    have later : d.answer (n + 1) = d.pull.2.answer n := rfl
    rw [later, ih]
    cases h : d.next? with
    | none => simp [pull, h, records_of_none h]
    | some s => simp [pull, h, records_of_some h]

end Disassembly

theorem flatMap_bytes_disassemble (bytes : List Byte) (base : Word) :
    (disassemble bytes base).flatMap Record.bytes = bytes := by
  induction hn : bytes.length using Nat.strongRecOn generalizing bytes base with
  | ind n ih =>
    cases bytes with
    | nil => simp
    | cons code rest =>
      have shorter : (rest.drop ((Opcode.lookup code).length - 1)).length < n := by
        rw [← hn, List.length_drop, List.length_cons]
        omega
      rw [disassemble_cons, List.flatMap_cons, ih _ shorter _ _ rfl, Record.bytes,
        Opcode.code_lookup, List.cons_append, List.take_append_drop]

section OfIndex
variable {bytes : List Byte} {base : Word} {i : Nat} {r : Record}
  (record : (disassemble bytes base)[i]? = some r)
include record

theorem length_operands_of_getElem? : r.operands.length =
    min (r.opcode.length - 1) (bytes.length - (offset (disassemble bytes base) i + 1)) := by
  obtain ⟨code, -, -, -, hop⟩ := record_of_getElem? record
  rw [hop, List.length_take, List.length_drop]

theorem length_opcode_of_getElem? : 1 ≤ r.opcode.length ∧ r.opcode.length ≤ 3 := by
  obtain ⟨code, -, -, ho, -⟩ := record_of_getElem? record
  rw [ho]
  exact Opcode.length_lookup_bounds code

theorem truncated_iff_not_complete : r.truncated = true ↔ ¬r.Complete := by
  have few := length_operands_of_getElem? record
  have declared := length_opcode_of_getElem? record
  rw [Record.truncated, decide_eq_true_eq, Record.Complete]
  omega

/-- A record lacks operand bytes if it declares more bytes than there are, and then it is the last
one. -/
theorem truncated_iff_overruns : r.truncated = true ↔
    bytes.length < offset (disassemble bytes base) i + r.opcode.length := by
  have few := length_operands_of_getElem? record
  have inside := lt_length_disassemble_iff.mp (List.getElem?_eq_some_iff.mp record).1
  rw [Record.truncated, decide_eq_true_eq]
  omega

theorem last_of_overruns (h : bytes.length < offset (disassemble bytes base) i + r.opcode.length) :
    i + 1 = (disassemble bytes base).length := by
  rw [← offset_succ record] at h
  have last := length_disassemble_le_iff.mpr (Nat.le_of_lt h)
  exact Nat.le_antisymm (List.getElem?_eq_some_iff.mp record).1 last

theorem isSome_word?_iff_complete :
    r.word?.isSome = true ↔ r.Complete ∧ r.opcode.length = 3 := by
  have few := length_operands_of_getElem? record
  have declared := length_opcode_of_getElem? record
  rw [Record.isSome_word?_iff, Record.Complete]
  omega

end OfIndex

theorem truncated_eq_false_of_mem {bytes : List Byte} {base : Word} {front : List Record}
    {last : Record} (records : disassemble bytes base = front ++ [last]) :
    ∀ r ∈ front, r.truncated = false := by
  intro r hr
  obtain ⟨i, hi, rfl⟩ := List.getElem_of_mem hr
  have record : (disassemble bytes base)[i]? = some front[i] := by
    rw [records, List.getElem?_append_left hi, List.getElem?_eq_getElem hi]
  rw [← Bool.not_eq_true]
  intro lacks
  have atEnd := last_of_overruns record ((truncated_iff_overruns record).mp lacks)
  rw [records, List.length_append, List.length_singleton] at atEnd
  omega

theorem disassemble_append {bytes : List Byte} {base : Word}
    (complete : ∀ r ∈ disassemble bytes base, r.truncated = false) (rest : List Byte) :
    disassemble (bytes ++ rest) base =
      disassemble bytes base ++ disassemble rest (base + BitVec.ofNat 16 bytes.length) := by
  induction hn : bytes.length using Nat.strongRecOn generalizing bytes base with
  | ind n ih =>
    cases bytes with
    | nil => simp [← hn]
    | cons code tail =>
      have declared := Opcode.length_lookup_bounds code
      rw [disassemble_cons] at complete
      obtain ⟨first, others⟩ := List.forall_mem_cons.mp complete
      have full : (Opcode.lookup code).length - 1 ≤ tail.length := by
        simp only [Record.truncated, decide_eq_false_iff_not, List.length_take] at first
        omega
      have shorter : (tail.drop ((Opcode.lookup code).length - 1)).length < n := by
        rw [← hn, List.length_drop, List.length_cons]
        omega
      have behind : (Opcode.lookup code).length +
          (tail.drop ((Opcode.lookup code).length - 1)).length = n := by
        rw [← hn, List.length_drop, List.length_cons]
        omega
      rw [List.cons_append, disassemble_cons, disassemble_cons]
      simp only [List.take_append_of_le_length full, List.drop_append_of_le_length full,
        List.cons_append]
      rw [ih _ shorter others rfl, BitVec.add_assoc, ← BitVec.ofNat_add, behind]

/-- The listing of some bytes hands out at most as many records as there are bytes, and none for
ever after; the records together are the bytes; each one stands behind those before it, and only
the last one can lack operand bytes, which it does if it declares more bytes than there are; and
the operand of a record can be read if it is complete. Where no record lacks bytes, the listing
goes on with the bytes that follow. -/
theorem disassemble_partitions (bytes : List Byte) (base : Word) :
    let records := disassemble bytes base
    (records.length ≤ bytes.length ∧
      ∀ n, (Disassembly.mk bytes base).answer n = records[n]?) ∧
    records.flatMap Record.bytes = bytes ∧
    (∀ i r, records[i]? = some r →
      let before := declaredLength (records.take i)
      r.address = base + BitVec.ofNat 16 before ∧
      (i + 1 < records.length → r.Complete) ∧
      (r.truncated = true ↔
        i + 1 = records.length ∧ bytes.length < before + r.opcode.length) ∧
      (r.byte?.isSome = true ↔ r.Complete ∧ r.opcode.length = 2) ∧
      (∀ b, r.byte? = some b → r.operands = [b]) ∧
      (r.word?.isSome = true ↔ r.Complete ∧ r.opcode.length = 3) ∧
      ∀ w, r.word? = some w → r.operands = [w.lo, w.hi]) ∧
    ((∀ r ∈ records, r.truncated = false) → ∀ rest,
      disassemble (bytes ++ rest) base =
        records ++ disassemble rest (base + BitVec.ofNat 16 bytes.length)) := by
  intro records
  refine ⟨⟨length_disassemble_le bytes base, (Disassembly.mk bytes base).answer_eq⟩,
    flatMap_bytes_disassemble bytes base, ?_, disassemble_append⟩
  intro i r record before
  have overruns := truncated_iff_overruns record
  obtain ⟨code, -, address, -⟩ := record_of_getElem? record
  refine ⟨address, fun inner => ?_, ⟨fun h => ?_, fun h => overruns.mpr h.2⟩,
    Record.isSome_byte?_iff, fun b hb => (Record.byte?_eq_some_iff.mp hb).2,
    isSome_word?_iff_complete record, fun w hw => Record.word?_eq_some_iff.mp hw⟩
  · by_contra lacks
    have last := last_of_overruns record
      (overruns.mp ((truncated_iff_not_complete record).mpr lacks))
    exact absurd inner (Nat.not_lt.mpr (Nat.le_of_eq last.symm))
  · exact ⟨last_of_overruns record (overruns.mp h), overruns.mp h⟩

/-- `MVI A,7` at the last address of memory. -/
def moveAtTop : List Byte := [0x3E, 0x07]

theorem disassemble_moveAtTop :
    disassemble moveAtTop 0xFFFF = [⟨0xFFFF, .decode 0x3E, [0x07]⟩] := by
  have move : (Opcode.decode 0x3E).length = 1 + 1 := rfl
  rw [moveAtTop, disassemble_cons_of_length move, List.drop_one, List.tail_cons, disassemble_nil]
  rfl

/-- A `JMP` that lacks its last byte stands at address 1 behind the move, and the listing of both
ends with it. -/
theorem moveAtTop_partitions :
    (∀ r ∈ disassemble moveAtTop 0xFFFF, r.truncated = false) ∧
    disassemble (moveAtTop ++ [0xC3, 0x34]) 0xFFFF =
      [⟨0xFFFF, .decode 0x3E, [0x07]⟩, ⟨1, .decode 0xC3, [0x34]⟩] ∧
    (Disassembly.mk (moveAtTop ++ [0xC3, 0x34]) 0xFFFF).answer 2 = none := by
  have complete : ∀ r ∈ disassemble moveAtTop 0xFFFF, r.truncated = false := by
    rw [disassemble_moveAtTop]
    intro r hr
    rw [List.mem_singleton.mp hr]
    rfl
  have jump : (Opcode.decode 0xC3).length = 2 + 1 := rfl
  obtain ⟨-, -, -, goesOn⟩ := disassemble_partitions moveAtTop 0xFFFF
  have both : disassemble (moveAtTop ++ [0xC3, 0x34]) 0xFFFF =
      [⟨0xFFFF, .decode 0x3E, [0x07]⟩, ⟨1, .decode 0xC3, [0x34]⟩] := by
    rw [goesOn complete, disassemble_moveAtTop, disassemble_cons_of_length jump,
      List.drop_succ_cons, List.drop_nil, disassemble_nil]
    rfl
  obtain ⟨⟨-, answers⟩, -⟩ := disassemble_partitions (moveAtTop ++ [0xC3, 0x34]) 0xFFFF
  refine ⟨complete, both, ?_⟩
  rw [answers, both]
  rfl

end Intel8080
