import Intel8080.Proofs.Instruction.Spelling
import Intel8080.Proofs.Listing.Columns

/-! The text of a record behind its address and its bytes: the mnemonic in its column, and behind it
the names and the number that are the operands, with commas between them. It tells the instruction
and the operand bytes, unless these are missing. Main statement: `assembly_identifies`. -/
namespace Intel8080

namespace Text

theorem IsWord.not_mem {s : List Char} (h : IsWord s) {c : Char} (hc : c.isAlphanum = false) :
    c ∉ s :=
  fun hm => Bool.false_ne_true (hc.symm.trans (h c hm))

theorem isWord_append {s t : List Char} : IsWord (s ++ t) ↔ IsWord s ∧ IsWord t :=
  List.forall_mem_append

theorem isWord_hexByte (b : Byte) : IsWord (hexByte b) := by
  have digit : ∀ n < 16, (hexDigit n).isAlphanum = true := by decide
  have hb := b.isLt
  intro c hc
  rcases List.mem_pair.mp hc with rfl | rfl
  · exact digit _ (by omega)
  · exact digit _ (by omega)

theorem isWord_hexBytes (bytes : List Byte) : IsWord (bytes.flatMap hexByte) := by
  intro c hc
  obtain ⟨b, -, h⟩ := List.mem_flatMap.mp hc
  exact isWord_hexByte b c h

theorem bytes?_hexBytes (bytes : List Byte) : bytes? (bytes.flatMap hexByte) = some bytes := by
  induction bytes with
  | nil => rfl
  | cons b bytes ih => rw [List.flatMap_cons, bytes?_hexByte, ih, Option.map_some]

theorem padRight_injective {width : Nat} {s t : String} (hs : ' ' ∉ s.toList) (ht : ' ' ∉ t.toList)
    (h : padRight width s = padRight width t) : s = t := by
  have text {u : String} (hu : ' ' ∉ u.toList) :
      (padRight width u).toList.filter (· ≠ ' ') = u.toList := by
    rw [padRight, String.toList_append, String.toList_ofList, List.filter_append]
    have kept : u.toList.filter (· ≠ ' ') = u.toList :=
      List.filter_eq_self.mpr fun c hc => decide_eq_true fun e => hu (e ▸ hc)
    have lost : (List.replicate (width - u.length) ' ').filter (· ≠ ' ') = [] :=
      List.filter_eq_nil_iff.mpr fun c hc => by simp [List.eq_of_mem_replicate hc]
    rw [kept, lost, List.append_nil]
  rw [← String.toList_inj, ← text hs, h, text ht]

def pieces (s : List Char) : List (List Char) := if s = [] then [] else s.splitOn ','

theorem pieces_intercalate {ps : List (List Char)} (h : ∀ p ∈ ps, ',' ∉ p ∧ p ≠ []) :
    pieces ([','].intercalate ps) = ps := by
  cases ps with
  | nil => rfl
  | cons p ps =>
    have first : p ≠ [] := (h p List.mem_cons_self).2
    have some : [','].intercalate (p :: ps) ≠ [] := by
      cases ps with
      | nil => simpa using first
      | cons q ps => simp [List.intercalate_cons_cons]
    rw [pieces, if_neg some, List.splitOn_intercalate _ (fun q hq => (h q hq).1) (by simp)]

end Text

namespace Record

/-- The text from the mnemonic on. -/
def assembly (r : Record) : List Char := r.text.toList.drop 16

/-- The operands that are written: what the instruction names, and the number behind the opcode
byte. -/
def written (r : Record) : List (List Char) :=
  r.opcode.instruction.names.map String.toList ++
    if r.opcode.instruction.operandCount = 0 then [] else [r.immediate.toList]

theorem immediate_isSuffix {r : Record} (some : r.opcode.instruction.operandCount ≠ 0) :
    r.immediate.toList <:+ r.operandText.toList := by
  rw [operandText]
  cases hi : r.opcode.instruction with
  | mvi dest | lxi dest =>
    rw [String.toList_append]
    exact List.suffix_append _ _
  | sta | lda | shld | lhld | jmp | jmpIf _ | call | callIf _ | aluImm _ | input | output =>
    exact List.suffix_rfl
  | _ => exact absurd (hi ▸ rfl) some

namespace Listed
variable {r : Record} (listed : r.Listed)
include listed

theorem assembly_eq : r.assembly =
    (Text.padRight 6 r.opcode.mnemonic).toList ++ r.operandText.toList := by
  have front : (String.ofList (Text.hexWord r.address) ++ "  " ++
      Text.padRight 10 r.byteColumn).toList.length = 16 := by
    have column := listed.length_byteColumn
    rw [String.length_toList, String.length_append, String.length_append, column,
      String.length_ofList, Text.length_hexWord]
    rfl
  rw [assembly, text, String.append_assoc, String.toList_append, List.drop_left' front,
    String.toList_append]

theorem length_opcode : r.opcode.length = 1 + r.opcode.instruction.operandCount := by
  rw [listed.opcode, Opcode.length_lookup]

theorem mnemonic_eq : r.opcode.mnemonic = r.opcode.instruction.mnemonic := by
  rw [listed.opcode, Opcode.mnemonic_lookup]

theorem length_operands (complete : r.truncated = false) :
    r.operands.length = r.opcode.instruction.operandCount := by
  have enough := listed.operands
  have declared := listed.length_opcode
  rw [truncated, decide_eq_false_iff_not] at complete
  omega

theorem immediate_of_count_zero (none : r.opcode.instruction.operandCount = 0) :
    r.immediate = "" := by
  have declared := listed.length_opcode
  have bound := listed.operands
  have empty : r.operands = [] := List.eq_nil_of_length_eq_zero (by omega)
  simp [immediate, byte?, word?, empty, declared, none]

theorem immediate_of_complete (complete : r.truncated = false)
    (some : r.opcode.instruction.operandCount ≠ 0) :
    r.immediate.toList = '$' :: r.operands.reverse.flatMap Text.hexByte := by
  have count := listed.length_operands complete
  have declared := listed.length_opcode
  have few := r.opcode.instruction.operandCount_le
  match operands : r.operands with
  | [] =>
    rw [operands] at count
    exact absurd count.symm some
  | [b] =>
    have one : r.opcode.length = 2 := by
      rw [declared, ← count, operands]
      rfl
    simp [immediate, byte?, operands, one]
  | [low, high] => simp [immediate, byte?, word?, operands, Text.hexWord]
  | _ :: _ :: _ :: _ =>
    rw [operands] at count
    simp only [List.length_cons] at count
    omega

theorem immediate_of_truncated (lacks : r.truncated = true) : r.immediate = "??" := by
  have missing : r.operands.length + 1 < r.opcode.length := of_decide_eq_true lacks
  have declared := listed.length_opcode
  have few := r.opcode.instruction.operandCount_le
  match operands : r.operands with
  | [] =>
    rw [operands, List.length_nil, Nat.zero_add] at missing
    simp [immediate, byte?, word?, operands, missing]
  | [b] =>
    rw [operands, List.length_singleton] at missing
    have two : r.opcode.length ≠ 2 := by omega
    have one : 1 < r.opcode.length := by omega
    simp [immediate, byte?, word?, operands, two, one]
  | _ :: _ :: _ =>
    rw [operands] at missing
    simp only [List.length_cons] at missing
    omega

theorem toList_operandText : r.operandText.toList = [','].intercalate r.written := by
  have absent := listed.immediate_of_count_zero
  rw [operandText, written]
  cases hi : r.opcode.instruction with
  | mov _ _ | mvi _ | lxi _ => simp [Instruction.names, Instruction.operandCount]
  | inr _ | dcr _ | alu _ _ | rst _ => simp [Instruction.names, Instruction.operandCount]
  | stax _ | ldax _ | inx _ | dcx _ | dad _ | push _ | pop _ =>
    simp [Instruction.names, Instruction.operandCount]
  | sta | lda | shld | lhld | jmp | jmpIf _ | call | callIf _ | aluImm _ | input | output =>
    simp [Instruction.names, Instruction.operandCount]
  | _ =>
    rw [hi] at absent
    rw [absent rfl]
    rfl

theorem isWord_mnemonic : Text.IsWord r.opcode.mnemonic.toList := by
  rw [listed.mnemonic_eq]
  exact Instruction.isWord_mnemonic _

theorem written_of_complete (complete : r.truncated = false) : ∀ p ∈ r.written,
    p ≠ [] ∧ ∀ c ∈ p, c.isAlphanum = true ∨ c = '$' := by
  intro p hp
  rcases List.mem_append.mp hp with named | number
  · obtain ⟨name, mem, rfl⟩ := List.mem_map.mp named
    obtain ⟨word, some⟩ := Instruction.isWord_of_mem_names mem
    exact ⟨some, fun c hc => Or.inl (word c hc)⟩
  · split at number
    · exact absurd number List.not_mem_nil
    · rename_i some
      rw [List.mem_singleton.mp number, listed.immediate_of_complete complete some]
      refine ⟨List.cons_ne_nil _ _, List.forall_mem_cons.mpr ⟨Or.inr rfl, fun c hc => ?_⟩⟩
      exact Or.inl (Text.isWord_hexBytes _ c hc)

theorem pieces_operandText (complete : r.truncated = false) :
    Text.pieces r.operandText.toList = r.written := by
  rw [listed.toList_operandText, Text.pieces_intercalate]
  intro p hp
  obtain ⟨some, plain⟩ := listed.written_of_complete complete p hp
  exact ⟨fun comma => absurd (plain ',' comma) (by decide), some⟩

theorem question_not_mem_text (complete : r.truncated = false) : '?' ∉ r.text.toList := by
  have word {t : List Char} (h : Text.IsWord t) : '?' ∉ t := h.not_mem (by decide)
  have blanks (n : Nat) : '?' ∉ List.replicate n ' ' :=
    fun h => absurd (List.eq_of_mem_replicate h) (by decide)
  have address : '?' ∉ Text.hexWord r.address :=
    word (Text.isWord_append.mpr ⟨Text.isWord_hexByte _, Text.isWord_hexByte _⟩)
  have bytes : '?' ∉ (Text.padRight 10 r.byteColumn).toList := by
    rw [listed.toList_byteColumn, List.mem_append, not_or]
    refine ⟨fun h => ?_, blanks _⟩
    obtain ⟨b, -, digits⟩ := List.mem_flatMap.mp h
    rcases List.mem_append.mp digits with digit | blank
    · exact word (Text.isWord_hexByte b) digit
    · exact blanks 1 blank
  have mnemonic : '?' ∉ (Text.padRight 6 r.opcode.mnemonic).toList := by
    rw [Text.padRight, String.toList_append, String.toList_ofList, List.mem_append, not_or]
    exact ⟨word listed.isWord_mnemonic, blanks _⟩
  have operands : '?' ∉ r.operandText.toList := by
    have plain : ∀ c ∈ r.operandText.toList, c ≠ '?' := by
      rw [listed.toList_operandText]
      have comma : ∀ c ∈ [','], c ≠ '?' := List.forall_mem_singleton.mpr (by decide)
      refine Text.forall_mem_intercalate comma fun p hp c hc question => ?_
      subst question
      exact absurd ((listed.written_of_complete complete p hp).2 '?' hc) (by decide)
    exact fun h => plain '?' h rfl
  have gap : '?' ∉ "  ".toList := by decide
  simp only [text, String.toList_append, String.toList_ofList, List.mem_append, not_or]
  exact ⟨⟨⟨⟨address, gap⟩, bytes⟩, mnemonic⟩, operands⟩

end Listed

theorem eq_of_assembly_eq {r s : Record} (hr : r.Listed) (hs : s.Listed)
    (rComplete : r.truncated = false) (sComplete : s.truncated = false)
    (h : r.assembly = s.assembly) :
    r.opcode.instruction = s.opcode.instruction ∧ r.operands = s.operands := by
  -- the mnemonics fill their column, so that the operands begin at the same place
  have column {q : Record} (hq : q.Listed) :
      (Text.padRight 6 q.opcode.mnemonic).toList.length = 6 := by
    rw [String.length_toList, (hq.mnemonic_fits.mono (by decide : 4 ≤ 6)).padRight.2]
  rw [hr.assembly_eq, hs.assembly_eq] at h
  obtain ⟨columns, operandTexts⟩ := List.append_inj h ((column hr).trans (column hs).symm)
  have mnemonics : r.opcode.instruction.mnemonic = s.opcode.instruction.mnemonic := by
    rw [← hr.mnemonic_eq, ← hs.mnemonic_eq]
    exact Text.padRight_injective (hr.isWord_mnemonic.not_mem (by decide))
      (hs.isWord_mnemonic.not_mem (by decide)) (String.toList_injective columns)
  have counts : r.opcode.instruction.operandCount = s.opcode.instruction.operandCount := by
    rw [← Instruction.operandCount_form, Instruction.form_eq_of_mnemonic_eq mnemonics,
      Instruction.operandCount_form]
  have writtens : r.written = s.written := by
    rw [← hr.pieces_operandText rComplete, operandTexts, hs.pieces_operandText sComplete]
  rw [written, written, counts] at writtens
  obtain ⟨names, immediates⟩ := List.append_inj' writtens (by split <;> rfl)
  have same : r.opcode.instruction = s.opcode.instruction :=
    Instruction.eq_of_spelling mnemonics (List.map_injective_iff.mpr
      (fun _ _ => String.toList_injective) names)
  refine ⟨same, ?_⟩
  have rCount := hr.length_operands rComplete
  have sCount := hs.length_operands sComplete
  by_cases none : s.opcode.instruction.operandCount = 0
  · rw [List.eq_nil_of_length_eq_zero (rCount.trans (counts.trans none)),
      List.eq_nil_of_length_eq_zero (sCount.trans none)]
  · rw [if_neg none, if_neg none, hr.immediate_of_complete rComplete (counts ▸ none),
      hs.immediate_of_complete sComplete none] at immediates
    have digits := congrArg Text.bytes? (List.cons.inj (List.cons.inj immediates).1).2
    rw [Text.bytes?_hexBytes, Text.bytes?_hexBytes, Option.some.injEq] at digits
    exact List.reverse_injective digits

theorem assembly_congr {r s : Record} (hr : r.Listed) (hs : s.Listed)
    (rComplete : r.truncated = false) (sComplete : s.truncated = false)
    (instructions : r.opcode.instruction = s.opcode.instruction)
    (operands : r.operands = s.operands) : r.assembly = s.assembly := by
  have immediates : r.immediate.toList = s.immediate.toList := by
    by_cases none : s.opcode.instruction.operandCount = 0
    · rw [hr.immediate_of_count_zero (instructions ▸ none), hs.immediate_of_count_zero none]
    · rw [hr.immediate_of_complete rComplete (instructions ▸ none),
        hs.immediate_of_complete sComplete none, operands]
  rw [hr.assembly_eq, hs.assembly_eq, hr.toList_operandText, hs.toList_operandText, written,
    written, hr.mnemonic_eq, hs.mnemonic_eq, instructions, immediates]

end Record

/-- The text of a record from its sixteenth character on, which is the mnemonic and the operands, is
that of another record, at any address, only if both have the same instruction and the same operand
bytes; so two encodings have one text only if they are duplicates. This holds of complete records.
The text of a truncated record ends with two question marks, and that of a complete one has none. -/
theorem assembly_identifies {r s : Record} {image image' : List Byte} {base base' : Word}
    (hr : r ∈ disassemble image base) (hs : s ∈ disassemble image' base') :
    (r.truncated = false → s.truncated = false →
      (r.assembly = s.assembly ↔
        r.opcode.instruction = s.opcode.instruction ∧ r.operands = s.operands)) ∧
    (r.truncated = true → ['?', '?'] <:+ r.assembly) ∧
    (r.truncated = false → '?' ∉ r.text.toList) := by
  have rListed := Record.listed_of_mem hr
  have sListed := Record.listed_of_mem hs
  refine ⟨fun rComplete sComplete => ⟨?_, fun ⟨instructions, operands⟩ => ?_⟩, fun lacks => ?_,
    rListed.question_not_mem_text⟩
  · exact Record.eq_of_assembly_eq rListed sListed rComplete sComplete
  · exact Record.assembly_congr rListed sListed rComplete sComplete instructions operands
  · have missing : r.operands.length + 1 < r.opcode.length := of_decide_eq_true lacks
    have some : r.opcode.instruction.operandCount ≠ 0 := by
      rw [rListed.length_opcode] at missing
      omega
    have marks : r.immediate.toList = ['?', '?'] := by
      rw [rListed.immediate_of_truncated lacks]
      rfl
    rw [← marks, rListed.assembly_eq]
    exact (Record.immediate_isSuffix some).trans (List.suffix_append _ _)

def callRecord (address : Word) (code : Byte) (operands : List Byte) : Record :=
  ⟨address, .decode code, operands⟩

/-- Two encodings of `CALL $1234` have one text, which is not that of a `CALL` that ends early. -/
theorem callRecord_identified :
    (callRecord 0 0xCD [0x34, 0x12]).assembly = "CALL  $1234".toList ∧
    (callRecord 0x8000 0xED [0x34, 0x12]).assembly =
      (callRecord 0 0xCD [0x34, 0x12]).assembly ∧
    '?' ∉ (callRecord 0x8000 0xED [0x34, 0x12]).text.toList ∧
    ['?', '?'] <:+ (callRecord 0 0xED [0x34]).assembly := by
  have member {code : Byte} {operands : List Byte} (base : Word)
      (call : (Opcode.decode code).length = 2 + 1) (few : operands.length ≤ 2) :
      callRecord base code operands ∈ disassemble (code :: operands) base := by
    rw [disassemble_cons_of_length call, List.take_of_length_le few]
    exact List.mem_cons_self
  have call : callRecord 0 0xCD [0x34, 0x12] ∈ disassemble [0xCD, 0x34, 0x12] 0 :=
    member 0 rfl (by decide)
  have duplicate : callRecord 0x8000 0xED [0x34, 0x12] ∈ disassemble [0xED, 0x34, 0x12] 0x8000 :=
    member 0x8000 rfl (by decide)
  have short : callRecord 0 0xED [0x34] ∈ disassemble [0xED, 0x34] 0 := member 0 rfl (by decide)
  obtain ⟨same, -, plain⟩ := assembly_identifies duplicate call
  obtain ⟨-, marked, -⟩ := assembly_identifies short call
  exact ⟨by decide, (same rfl rfl).mpr ⟨rfl, rfl⟩, plain rfl, marked rfl⟩

end Intel8080
