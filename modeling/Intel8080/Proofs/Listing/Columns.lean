import Intel8080.Listing
import Intel8080.Proofs.Disassembly.Offsets
import Intel8080.Proofs.Opcode.Encodings
import Intel8080.Proofs.Text.Reading

/-! The columns of a listing. Every part of a line has room in its column: the address in four
places, the bytes in ten, the mnemonic in six and the operands in eight. So the comment begins at
the same place of every line, and the address and the bytes can be taken from a line by their
places. -/
namespace Intel8080

open Text (FitsIn NoControl)

/-! The words for an instruction. -/

theorem Condition.suffix_fits (cond : Condition) : FitsIn 2 cond.suffix := by
  cases cond <;> decide

theorem Register.name_fits (r : Register) : FitsIn 1 r.name := by
  cases r <;> decide

theorem Pair.name_fits (rp : Pair) : FitsIn 3 rp.name := by
  cases rp <;> decide

theorem Pair.name_fits_of_ne {rp : Pair} (h : rp ≠ .psw) : FitsIn 2 rp.name := by
  cases rp with
  | psw => exact absurd rfl h
  | _ => decide

theorem AluOp.mnemonic_fits (op : AluOp) :
    FitsIn 3 op.mnemonic ∧ FitsIn 3 op.immediateMnemonic := by
  cases op <;> decide

theorem AluOp.noControl_summary (op : AluOp) {operand : String} (h : NoControl operand.toList) :
    NoControl (op.summary operand).toList := by
  cases op <;> simp only [summary, String.toList_append, Text.noControl_append, h] <;> decide

theorem restart_fits (vector : BitVec 3) : FitsIn 1 (toString vector.toNat) := by
  revert vector
  decide

namespace Instruction

theorem mnemonic_fits (i : Instruction) : FitsIn 4 i.mnemonic := by
  cases i with
  | alu op _ => exact op.mnemonic_fits.1.mono (by decide)
  | aluImm op => exact op.mnemonic_fits.2.mono (by decide)
  | jmpIf cond =>
    have first : FitsIn 2 "J" := by decide
    exact first.append cond.suffix_fits
  | callIf cond =>
    have first : FitsIn 2 "C" := by decide
    exact first.append cond.suffix_fits
  | retIf cond =>
    have first : FitsIn 2 "R" := by decide
    exact first.append cond.suffix_fits
  | _ => simp only [mnemonic]; decide

theorem noControl_summary (i : Instruction) : NoControl i.summary.toList := by
  cases i with
  | alu op _ => exact op.noControl_summary (by decide)
  | aluImm op => exact op.noControl_summary (by decide)
  | _ => simp only [summary]; decide

end Instruction

namespace Record

/-- A record as it stands in a listing: it is made for its opcode byte and has no more operand bytes
than the opcode declares. -/
structure Listed (r : Record) : Prop where
  opcode : r.opcode = .lookup r.opcode.code
  operands : r.operands.length < r.opcode.length

theorem listed_of_mem {r : Record} {image : List Byte} {base : Word}
    (h : r ∈ disassemble image base) : r.Listed := by
  obtain ⟨i, record⟩ := List.getElem?_of_mem h
  obtain ⟨code, -, -, ho, hop⟩ := record_of_getElem? record
  have declared := (Opcode.length_lookup_bounds code).1
  rw [← ho] at declared
  constructor
  · rw [ho, Opcode.code_lookup]
  · rw [hop, List.length_take]
    omega

theorem immediate_fits (r : Record) : FitsIn 5 r.immediate := by
  have sign : FitsIn 1 "$" := by decide
  rw [immediate]
  split
  · exact (sign.append (Text.fitsIn_hexByte _)).mono (by decide)
  · exact sign.append (Text.fitsIn_hexWord _)
  · split <;> decide

namespace Listed
variable {r : Record} (listed : r.Listed)
include listed

theorem length_bytes : r.bytes.length ≤ 3 := by
  have declared := (Opcode.length_lookup_bounds r.opcode.code).2
  rw [← listed.opcode] at declared
  exact Nat.le_trans listed.operands declared

theorem mnemonic_fits : FitsIn 4 r.opcode.mnemonic := by
  rw [listed.opcode, Opcode.mnemonic_lookup]
  exact Instruction.mnemonic_fits _

theorem noControl_summary : NoControl r.opcode.summary.toList := by
  rw [listed.opcode, Opcode.summary_lookup]
  exact Instruction.noControl_summary _

/-- The longest operands are those of an `LXI SP`. -/
theorem operandText_fits : FitsIn 8 r.operandText := by
  have comma : FitsIn 1 "," := by decide
  rw [operandText]
  cases hi : r.opcode.instruction with
  | mov dest src => exact ((dest.name_fits.append comma).append src.name_fits).mono (by decide)
  | mvi dest => exact ((dest.name_fits.append comma).append r.immediate_fits).mono (by decide)
  | lxi dest =>
    have encoded := Opcode.lookup_not_mem_psw r.opcode.code
    rw [← listed.opcode, hi] at encoded
    have hne : dest ≠ .psw := fun e => encoded (by simp [e])
    exact ((Pair.name_fits_of_ne hne).append comma).append r.immediate_fits
  | inr reg | dcr reg | alu _ reg => exact reg.name_fits.mono (by decide)
  | stax rp | ldax rp | inx rp | dcx rp | dad rp | push rp | pop rp =>
    exact rp.name_fits.mono (by decide)
  | rst vector => exact (restart_fits vector).mono (by decide)
  | _ => exact r.immediate_fits.mono (by decide)

theorem toList_byteColumn : (Text.padRight 10 r.byteColumn).toList =
    Text.spaced r.bytes ++ List.replicate (10 - 3 * r.bytes.length) ' ' := by
  have room : 3 * r.bytes.length ≤ 10 := Nat.le_trans (Nat.mul_le_mul_left 3 listed.length_bytes)
    (by decide)
  exact Text.toList_padRight_intercalate (List.cons_ne_nil _ _) room

theorem length_byteColumn : (Text.padRight 10 r.byteColumn).length = 10 := by
  have room := listed.length_bytes
  rw [← String.length_toList, listed.toList_byteColumn, List.length_append, Text.length_spaced,
    List.length_replicate]
  omega

theorem byteColumn_fits : FitsIn 10 (Text.padRight 10 r.byteColumn) := by
  constructor
  · exact Nat.le_of_eq listed.length_byteColumn
  · rw [listed.toList_byteColumn, Text.noControl_append]
    exact ⟨Text.noControl_spaced _, Text.noControl_blanks _⟩

theorem bytes?_byteColumn (s : List Char) :
    Text.bytes? ((Text.padRight 10 r.byteColumn).toList ++ s) =
      (Text.bytes? s).map (r.bytes ++ ·) := by
  rw [listed.toList_byteColumn, List.append_assoc, Text.bytes?_spaced, Text.bytes?_blanks]

/-- No record has a longer text than an `LXI SP`. -/
theorem text_fits : FitsIn 30 r.text := by
  have gap : FitsIn 2 "  " := by decide
  have mnemonic := (listed.mnemonic_fits.mono (by decide : 4 ≤ 6)).padRight.1
  exact ((((Text.fitsIn_hexWord r.address).append gap).append listed.byteColumn_fits).append
    mnemonic).append listed.operandText_fits

theorem noControl_line : NoControl (Listing.line r).toList := by
  have sign : NoControl "; ".toList := by decide
  rw [Listing.line, String.toList_append, String.toList_append, Text.noControl_append,
    Text.noControl_append]
  exact ⟨⟨listed.text_fits.padRight.1.noControl, sign⟩, listed.noControl_summary⟩

theorem drop_line : (Listing.line r).toList.drop 30 = ';' :: ' ' :: r.opcode.summary.toList := by
  have front : (Text.padRight 30 r.text).toList.length = 30 := by
    rw [String.length_toList, listed.text_fits.padRight.2]
  rw [Listing.line, String.append_assoc, String.toList_append, List.drop_left' front]
  simp

end Listed

theorem exists_toList_line (r : Record) : ∃ back, (Listing.line r).toList =
    Text.hexWord r.address ++ ([' ', ' '] ++ ((Text.padRight 10 r.byteColumn).toList ++ back)) := by
  rw [Listing.line, Text.padRight, text]
  simp only [String.toList_append, String.toList_ofList, List.append_assoc]
  exact ⟨_, rfl⟩

theorem take_line (r : Record) : (Listing.line r).toList.take 4 = Text.hexWord r.address := by
  obtain ⟨back, line⟩ := r.exists_toList_line
  rw [line, List.take_left' (Text.length_hexWord r.address)]

theorem Listed.take_drop_line {r : Record} (listed : r.Listed) :
    ((Listing.line r).toList.drop 6).take 10 = (Text.padRight 10 r.byteColumn).toList := by
  obtain ⟨back, line⟩ := r.exists_toList_line
  have front : (Text.hexWord r.address ++ [' ', ' ']).length = 6 := rfl
  have column : (Text.padRight 10 r.byteColumn).toList.length = 10 := by
    rw [String.length_toList, listed.length_byteColumn]
  rw [line, ← List.append_assoc, List.drop_left' front, List.take_left' column]

end Record
end Intel8080
