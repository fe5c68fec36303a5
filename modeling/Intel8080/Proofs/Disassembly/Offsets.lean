import Intel8080.Disassembly.Basic

/-! Where each record of a listing stands among the bytes. The records before it declare how long
they are, and the sum of these lengths is its offset. -/
namespace Intel8080

theorem disassemble_cons_of_length {code : Byte} {n : Nat}
    (h : (Opcode.decode code).length = n + 1) (rest : List Byte) (base : Word) :
    disassemble (code :: rest) base = ⟨base, .decode code, rest.take n⟩ ::
      disassemble (rest.drop n) (base + BitVec.ofNat 16 (n + 1)) := by
  rw [disassemble_cons]
  simp only [Opcode.lookup_eq_decode, h, Nat.add_one_sub_one]

def declaredLength : List Record → Nat
  | [] => 0
  | r :: records => r.opcode.length + declaredLength records

theorem declaredLength_append (front back : List Record) :
    declaredLength (front ++ back) = declaredLength front + declaredLength back := by
  induction front with
  | nil => exact (Nat.zero_add _).symm
  | cons r front ih => rw [List.cons_append, declaredLength, declaredLength, ih, Nat.add_assoc]

/-- The number of bytes in front of the record with the given index. -/
def offset (records : List Record) (i : Nat) : Nat := declaredLength (records.take i)

@[simp] theorem offset_zero (records : List Record) : offset records 0 = 0 := rfl

theorem offset_succ {records : List Record} {i : Nat} {r : Record} (h : records[i]? = some r) :
    offset records (i + 1) = offset records i + r.opcode.length := by
  rw [offset, List.take_add_one, h, declaredLength_append]
  rfl

theorem offset_length (records : List Record) :
    offset records records.length = declaredLength records := by
  rw [offset, List.take_length]

theorem drop_disassemble (bytes : List Byte) (base : Word) (i : Nat) :
    (disassemble bytes base).drop i =
      disassemble (bytes.drop (offset (disassemble bytes base) i))
        (base + BitVec.ofNat 16 (offset (disassemble bytes base) i)) := by
  induction i generalizing bytes base with
  | zero => simp
  | succ i ih =>
    cases bytes with
    | nil => simp
    | cons code rest =>
      have hl := (Opcode.length_lookup_bounds code).1
      have hd (n : Nat) : (code :: rest).drop ((Opcode.lookup code).length + n) =
          (rest.drop ((Opcode.lookup code).length - 1)).drop n := by
        rw [List.drop_drop, show (Opcode.lookup code).length + n =
          (Opcode.lookup code).length - 1 + n + 1 by omega, List.drop_succ_cons]
      rw [disassemble_cons]
      simp only [offset, List.take_succ_cons, declaredLength, List.drop_succ_cons, hd]
      rw [ih]
      simp only [offset, BitVec.ofNat_add, BitVec.add_assoc]

theorem getElem?_disassemble (bytes : List Byte) (base : Word) (i : Nat) :
    (disassemble bytes base)[i]? =
      (bytes[offset (disassemble bytes base) i]?).map fun code =>
        ⟨base + BitVec.ofNat 16 (offset (disassemble bytes base) i), Opcode.lookup code,
          (bytes.drop (offset (disassemble bytes base) i + 1)).take
            ((Opcode.lookup code).length - 1)⟩ := by
  have hd := drop_disassemble bytes base i
  rw [← Nat.add_zero i, ← List.getElem?_drop, hd, Nat.add_zero]
  cases hb : bytes.drop (offset (disassemble bytes base) i) with
  | nil =>
    have hn : bytes[offset (disassemble bytes base) i]? = none :=
      List.getElem?_eq_none (List.drop_eq_nil_iff.mp hb)
    simp [hn]
  | cons code rest =>
    have hs : bytes[offset (disassemble bytes base) i]? = some code := by
      rw [← List.head?_drop, hb, List.head?_cons]
    have hr : bytes.drop (offset (disassemble bytes base) i + 1) = rest := by
      rw [← List.drop_drop, hb, List.drop_one, List.tail_cons]
    rw [disassemble_cons, List.getElem?_cons_zero, hs, hr]
    rfl

theorem record_of_getElem? {bytes : List Byte} {base : Word} {i : Nat} {r : Record}
    (h : (disassemble bytes base)[i]? = some r) :
    ∃ code, bytes[offset (disassemble bytes base) i]? = some code ∧
      r.address = base + BitVec.ofNat 16 (offset (disassemble bytes base) i) ∧
      r.opcode = Opcode.lookup code ∧
      r.operands = (bytes.drop (offset (disassemble bytes base) i + 1)).take
        (r.opcode.length - 1) := by
  rw [getElem?_disassemble, Option.map_eq_some_iff] at h
  obtain ⟨code, hc, hr⟩ := h
  refine ⟨code, hc, ?_, ?_, ?_⟩ <;> simp only [← hr]

theorem length_disassemble_le_iff {bytes : List Byte} {base : Word} {i : Nat} :
    (disassemble bytes base).length ≤ i ↔ bytes.length ≤ offset (disassemble bytes base) i := by
  rw [← List.getElem?_eq_none_iff, getElem?_disassemble, Option.map_eq_none_iff,
    List.getElem?_eq_none_iff]

theorem lt_length_disassemble_iff {bytes : List Byte} {base : Word} {i : Nat} :
    i < (disassemble bytes base).length ↔ offset (disassemble bytes base) i < bytes.length := by
  rw [← Nat.not_le, length_disassemble_le_iff, Nat.not_le]

theorem le_offset {bytes : List Byte} {base : Word} {i : Nat}
    (h : i ≤ (disassemble bytes base).length) : i ≤ offset (disassemble bytes base) i := by
  induction i with
  | zero => exact Nat.zero_le _
  | succ i ih =>
    have hr := List.getElem?_eq_getElem h
    obtain ⟨code, -, -, ho, -⟩ := record_of_getElem? hr
    have hl := (Opcode.length_lookup_bounds code).1
    rw [offset_succ hr, ho]
    have := ih (Nat.le_of_succ_le h)
    omega

theorem length_disassemble_le (bytes : List Byte) (base : Word) :
    (disassemble bytes base).length ≤ bytes.length := by
  cases hn : (disassemble bytes base).length with
  | zero => exact Nat.zero_le _
  | succ n =>
    have hlt : n < (disassemble bytes base).length := hn ▸ Nat.lt_succ_self n
    exact Nat.lt_of_le_of_lt (le_offset (Nat.le_of_lt hlt)) (lt_length_disassemble_iff.mp hlt)

end Intel8080
