import Intel8080.Opcode.Check

/-! The self-check of an opcode table. The check accepts the tables in which every definition is in
order, and of any other it reports the definition that stands before all others which are not.
Main statement: `selfCheck_reports`. -/
namespace Intel8080

namespace Instruction

theorem mnemonic_ne_empty (i : Instruction) : i.mnemonic ≠ "" := by
  cases i with
  | alu op _ => simp only [mnemonic]; cases op <;> decide
  | aluImm op => cases op <;> decide
  | jmpIf cond => cases cond <;> decide
  | callIf cond => cases cond <;> decide
  | retIf cond => cases cond <;> decide
  | _ => simp only [mnemonic]; decide

theorem summary_ne_empty (i : Instruction) : i.summary ≠ "" := by
  cases i with
  | alu op _ => simp only [summary]; cases op <;> decide
  | aluImm op => cases op <;> decide
  | _ => simp only [summary]; decide

end Instruction

namespace Opcode

/-- A definition that belongs in its slot, has the length that its operands need, and can be
printed. -/
structure InOrder (slot : Nat) (entry : Opcode) : Prop where
  code : entry.code.toNat = slot
  length : entry.length = 1 + entry.instruction.operandCount
  mnemonic : entry.mnemonic ≠ ""
  summary : entry.summary ≠ ""

/-- The entry in a slot is not in order, and all entries before it are. -/
structure FirstOutOfOrder (entries : List Opcode) (slot : Nat) (entry : Opcode) : Prop where
  here : entries[slot]? = some entry
  bad : ¬InOrder slot entry
  before : ∀ i < slot, ∀ earlier, entries[i]? = some earlier → InOrder i earlier

theorem defectAt?_eq_none_iff {slot : Nat} {entry : Opcode} :
    defectAt? slot entry = none ↔ InOrder slot entry := by
  unfold defectAt?
  constructor
  · intro h
    by_cases hc : entry.code.toNat = slot
    · by_cases hl : entry.length = 1 + entry.instruction.operandCount
      · by_cases hn : entry.mnemonic = "" ∨ entry.summary = ""
        · simp [hc, hl, hn] at h
        · exact ⟨hc, hl, fun e => hn (.inl e), fun e => hn (.inr e)⟩
      · simp [hc, hl] at h
    · simp [hc] at h
  · rintro ⟨hc, hl, hm, hs⟩
    simp [hc, hl, hm, hs]

/-- A wrong code is reported before a wrong length, and a wrong length before missing words. -/
theorem defectAt?_eq_some_iff {slot : Nat} {entry : Opcode} {d : TableDefect} :
    defectAt? slot entry = some d ↔ ¬InOrder slot entry ∧ d =
      if entry.code.toNat ≠ slot then .misplaced slot entry.code
      else if entry.length ≠ 1 + entry.instruction.operandCount then
        .length entry.code entry.length (1 + entry.instruction.operandCount)
      else .unnamed entry.code := by
  rw [← defectAt?_eq_none_iff]
  unfold defectAt?
  split
  · simp [eq_comm]
  · split
    · simp [eq_comm]
    · split <;> simp [eq_comm]

theorem firstDefect?_eq_none_iff {slot : Nat} {entries : List Opcode} :
    firstDefect? slot entries = none ↔
      ∀ i entry, entries[i]? = some entry → InOrder (slot + i) entry := by
  induction entries generalizing slot with
  | nil => simp [firstDefect?]
  | cons first entries ih =>
    rw [firstDefect?, Option.or_eq_none_iff, defectAt?_eq_none_iff, ih]
    constructor
    · rintro ⟨now, later⟩ i entry hi
      cases i with
      | zero =>
        obtain rfl : first = entry := by simpa using hi
        exact now
      | succ i =>
        rw [← Nat.succ_add_eq_add_succ]
        exact later i entry (by simpa using hi)
    · intro h
      refine ⟨h 0 first rfl, fun i entry hi => ?_⟩
      rw [Nat.succ_add_eq_add_succ]
      exact h (i + 1) entry (by simpa using hi)

theorem firstDefect?_eq_some_iff {slot : Nat} {entries : List Opcode} {d : TableDefect} :
    firstDefect? slot entries = some d ↔
      ∃ i entry, entries[i]? = some entry ∧ defectAt? (slot + i) entry = some d ∧
        ∀ j < i, ∀ earlier, entries[j]? = some earlier → InOrder (slot + j) earlier := by
  induction entries generalizing slot with
  | nil => simp [firstDefect?]
  | cons first entries ih =>
    rw [firstDefect?, Option.or_eq_some_iff, defectAt?_eq_none_iff, ih]
    constructor
    · rintro (now | ⟨sound, i, entry, hi, later, before⟩)
      · exact ⟨0, first, rfl, now, fun j hj => absurd hj (Nat.not_lt_zero j)⟩
      · refine ⟨i + 1, entry, by simpa using hi, by rwa [← Nat.succ_add_eq_add_succ], ?_⟩
        intro j hj earlier he
        cases j with
        | zero =>
          obtain rfl : first = earlier := by simpa using he
          exact sound
        | succ j =>
          rw [← Nat.succ_add_eq_add_succ]
          exact before j (Nat.lt_of_succ_lt_succ hj) earlier (by simpa using he)
    · rintro ⟨i, entry, hi, now, before⟩
      cases i with
      | zero =>
        obtain rfl : first = entry := by simpa using hi
        exact .inl now
      | succ i =>
        refine .inr ⟨before 0 (Nat.succ_pos i) first rfl, i, entry, by simpa using hi, ?_, ?_⟩
        · rwa [Nat.succ_add_eq_add_succ]
        · intro j hj earlier he
          rw [Nat.succ_add_eq_add_succ]
          exact before (j + 1) (Nat.succ_lt_succ hj) earlier (by simpa using he)

theorem firstDefect?_zero_eq_some_iff {entries : List Opcode} {d : TableDefect} :
    firstDefect? 0 entries = some d ↔
      ∃ slot entry, FirstOutOfOrder entries slot entry ∧ defectAt? slot entry = some d := by
  rw [firstDefect?_eq_some_iff]
  simp only [Nat.zero_add]
  constructor
  · rintro ⟨slot, entry, here, defect, before⟩
    exact ⟨slot, entry, ⟨here, (defectAt?_eq_some_iff.mp defect).1, before⟩, defect⟩
  · rintro ⟨slot, entry, first, defect⟩
    exact ⟨slot, entry, first.here, defect, first.before⟩

/-- A table passes if it has 256 definitions, each of them in order in its slot. A wrong number of
them is reported whatever they are; otherwise the report is about the first that is not in order,
and says that it is misplaced, or else that its length is wrong, or else that it has no words. -/
theorem selfCheck_reports (entries : List Opcode) :
    (defect? entries = none ↔ entries.length = 256 ∧
      ∀ slot entry, entries[slot]? = some entry → InOrder slot entry) ∧
    ∀ d, defect? entries = some d ↔
      (entries.length ≠ 256 ∧ d = .size entries.length) ∨
      (entries.length = 256 ∧ ∃ slot entry, FirstOutOfOrder entries slot entry ∧ d =
        if entry.code.toNat ≠ slot then .misplaced slot entry.code
        else if entry.length ≠ 1 + entry.instruction.operandCount then
          .length entry.code entry.length (1 + entry.instruction.operandCount)
        else .unnamed entry.code) := by
  unfold defect?
  by_cases size : entries.length = 256
  · simp only [size, ne_eq, not_true_eq_false, if_false, true_and, false_and, false_or]
    refine ⟨?_, fun d => ?_⟩
    · simp only [firstDefect?_eq_none_iff, Nat.zero_add]
    · rw [firstDefect?_zero_eq_some_iff]
      refine exists_congr fun slot => exists_congr fun entry => and_congr_right fun first => ?_
      rw [defectAt?_eq_some_iff, and_iff_right first.bad]
  · simp [size, eq_comm]

theorem inOrder_lookup (code : Byte) : InOrder code.toNat (lookup code) := by
  refine ⟨by simp, length_lookup code, ?_, ?_⟩
  · rw [mnemonic_lookup]
    exact Instruction.mnemonic_ne_empty _
  · rw [summary_lookup]
    exact Instruction.summary_ne_empty _

theorem getElem?_table {slot : Nat} {entry : Opcode} (h : table.toList[slot]? = some entry) :
    InOrder slot entry := by
  obtain ⟨hs, rfl⟩ := List.getElem?_eq_some_iff.mp h
  have below : slot < 2 ^ 8 := by simpa using hs
  have place : (BitVec.ofNat 8 slot).toNat = slot := Nat.mod_eq_of_lt below
  have sound := inOrder_lookup (BitVec.ofNat 8 slot)
  simpa only [lookup, place, Vector.getElem_toList] using sound

theorem defect?_table : defect? table.toList = none := by
  have order : ∀ slot entry, table.toList[slot]? = some entry → InOrder slot entry :=
    fun _ _ => getElem?_table
  rw [defect?, if_neg (by simp), firstDefect?_eq_none_iff]
  simpa using order

/-- The table with the definition of 11H in slot 10H, and with a definition that has no mnemonic
behind it. -/
def doublyDefective : List Opcode :=
  (table.toList.set 0x10 (lookup 0x11)).set 0x20 { lookup 0x20 with mnemonic := "" }

theorem doublyDefective_reports :
    FirstOutOfOrder doublyDefective 0x10 (lookup 0x11) ∧
    defect? doublyDefective = some (.misplaced 0x10 0x11) ∧
    defect? (doublyDefective.drop 1) = some (.size 255) := by
  have size : doublyDefective.length = 256 := by simp [doublyDefective]
  have first : FirstOutOfOrder doublyDefective 0x10 (lookup 0x11) := by
    refine ⟨by simp [doublyDefective], fun h => ?_, fun i hi earlier he => ?_⟩
    · have code := h.code
      rw [code_lookup] at code
      cases code
    · have h1 : 0x10 ≠ i := by omega
      have h2 : 0x20 ≠ i := by omega
      rw [doublyDefective, List.getElem?_set_ne h2, List.getElem?_set_ne h1] at he
      exact getElem?_table he
  refine ⟨first, ?_, ?_⟩
  · refine ((selfCheck_reports doublyDefective).2 _).mpr (.inr ⟨size, _, _, first, ?_⟩)
    rw [code_lookup]
    rfl
  · have short : (doublyDefective.drop 1).length = 255 := by simp [size]
    exact ((selfCheck_reports _).2 _).mpr (.inl ⟨by rw [short]; decide, by rw [short]⟩)

end Opcode
end Intel8080
