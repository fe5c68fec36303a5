import Intel8080.Proofs.Disassembly.Partition
import Intel8080.Proofs.Listing.Columns

/-! A listing tells its image. The bytes of the image are read from their column of the lines, and
the base from the first line, so that no two images have one listing. Colours mark a truncated
record at the end and change nothing else. Main statement: `text_faithful`. -/
namespace Intel8080

theorem Terminal.restyle_eq_self (style : List Char) {s : List Char} (h : '\x1b' ∉ s) :
    restyle style s = s := by
  fun_induction restyle style s with
  | case1 rest ih => simp at h
  | case2 c rest _ ih =>
    have later : '\x1b' ∉ rest := fun hm => h (List.mem_cons_of_mem c hm)
    rw [ih later]
  | case3 => rfl

namespace Listing

/-! Painted lines. -/

theorem painted_of_complete {r : Record} (complete : r.truncated = false) (colors : Bool) :
    painted colors r = line r := by
  rw [painted, complete]
  rfl

theorem painted_false (r : Record) : painted false r = line r := by
  cases h : r.truncated with
  | false => exact painted_of_complete h false
  | true => simp [painted, h, Terminal.paint]

theorem painted_true {r : Record} (listed : r.Listed) (lacks : r.truncated = true) :
    painted true r = "\x1b[31m" ++ line r ++ "\x1b[0m" := by
  have red : Terminal.escape [31] = "\x1b[31m" := by decide
  have reset : Terminal.escape [0] = "\x1b[0m" := by decide
  have kept := Terminal.restyle_eq_self (Terminal.escape [31]).toList
    listed.noControl_line.escape_not_mem
  rw [painted, if_pos lacks, Terminal.paint, if_pos rfl, Terminal.Paint.codes, kept,
    String.ofList_toList, Text.padLeft_zero, red, reset]

theorem text_false (records : List Record) :
    text false records = String.join (records.map fun r => line r ++ "\n") := by
  simp only [text, painted_false]

theorem text_of_complete {records : List Record} (complete : ∀ r ∈ records, r.truncated = false)
    (colors : Bool) : text colors records = text false records := by
  have plain : ∀ r ∈ records, painted colors r ++ "\n" = painted false r ++ "\n" := fun r hr => by
    rw [painted_of_complete (complete r hr), painted_of_complete (complete r hr)]
  rw [text, text, List.map_congr_left plain]

/-! What is read from a listing. -/

def lines (listing : String) : List (List Char) := Text.lines listing.toList

/-- The image, which is read from the byte columns of the lines. -/
def image? (listing : String) : Option (List Byte) :=
  Text.bytes? ((lines listing).flatMap fun l => (l.drop 6).take 10)

theorem toList_text_false (records : List Record) : (text false records).toList =
    (records.map fun r => (line r).toList).flatMap (· ++ ['\n']) := by
  rw [text_false, String.toList_join, List.flatMap_map, List.flatMap_map]
  simp

theorem lines_text {records : List Record} (listed : ∀ r ∈ records, r.Listed) :
    lines (text false records) = records.map fun r => (line r).toList := by
  have plain : ∀ l ∈ records.map fun r => (line r).toList, '\n' ∉ l := by
    simpa using fun r hr => (listed r hr).noControl_line.lineFeed_not_mem
  rw [lines, toList_text_false, Text.lines_flatMap plain]

theorem image?_text {records : List Record} (listed : ∀ r ∈ records, r.Listed) :
    image? (text false records) = some (records.flatMap Record.bytes) := by
  rw [image?, lines_text listed]
  induction records with
  | nil => rfl
  | cons r records ih =>
    obtain ⟨first, others⟩ := List.forall_mem_cons.mp listed
    rw [List.map_cons, List.flatMap_cons, first.take_drop_line, first.bytes?_byteColumn, ih others,
      Option.map_some, List.flatMap_cons]

theorem lines_text_disassemble (image : List Byte) (base : Word) :
    lines (text false (disassemble image base)) =
      (disassemble image base).map fun r => (line r).toList :=
  lines_text fun _ => Record.listed_of_mem

theorem image?_text_disassemble (image : List Byte) (base : Word) :
    image? (text false (disassemble image base)) = some image := by
  rw [image?_text fun _ => Record.listed_of_mem, flatMap_bytes_disassemble]

theorem base_of_text {image : List Byte} {base base' : Word} (h : image ≠ [])
    (same : text false (disassemble image base') = text false (disassemble image base)) :
    base' = base := by
  obtain ⟨code, rest, rfl⟩ := List.exists_cons_of_ne_nil h
  have sameLines := congrArg lines same
  rw [lines_text_disassemble, lines_text_disassemble, disassemble_cons, disassemble_cons,
    List.map_cons, List.map_cons] at sameLines
  have first := congrArg (List.take 4) (List.cons.inj sameLines).1
  rw [Record.take_line, Record.take_line] at first
  exact Text.hexWord_injective first

theorem text_true (image : List Byte) (base : Word) :
    text true (disassemble image base) = text false (disassemble image base).dropLast ++
      (disassemble image base).getLast?.elim "" fun r =>
        (if r.truncated then "\x1b[31m" ++ line r ++ "\x1b[0m" else line r) ++ "\n" := by
  rcases List.eq_nil_or_concat (disassemble image base) with none | ⟨front, last, records⟩
  · simp [none, text]
  · rw [List.concat_eq_append] at records
    have complete := truncated_eq_false_of_mem records
    have member : last ∈ disassemble image base := by simp [records]
    have listed := Record.listed_of_mem member
    rw [records, List.dropLast_concat, List.getLast?_concat, text_append,
      text_of_complete complete, Option.elim_some]
    cases lacks : last.truncated with
    | false => simp [text, painted_of_complete lacks]
    | true => simp [text, painted_true listed lacks]

/-- An uncoloured listing has a line for each record, and each line is ended. In front of a line
stands the address; the text of the record has at most thirty characters, and there the comment
begins. The image is read from the byte columns, so that listings are equal only if the images
are, and the bases if there are any bytes. Colours turn the last line red if its record is
truncated, and change nothing else. -/
theorem text_faithful (image : List Byte) (base : Word) :
    let records := disassemble image base
    (text false records = String.join (records.map fun r => line r ++ "\n") ∧
      lines (text false records) = records.map fun r => (line r).toList) ∧
    (∀ r ∈ records, (line r).toList.take 4 = Text.hexWord r.address ∧ r.text.length ≤ 30 ∧
      (line r).toList.drop 30 = ';' :: ' ' :: r.opcode.summary.toList) ∧
    image? (text false records) = some image ∧
    (∀ image' base', text false (disassemble image' base') = text false records →
      image' = image ∧ (image ≠ [] → base' = base)) ∧
    text true records = text false records.dropLast ++
      records.getLast?.elim "" fun r =>
        (if r.truncated then "\x1b[31m" ++ line r ++ "\x1b[0m" else line r) ++ "\n" := by
  intro records
  refine ⟨⟨text_false records, lines_text_disassemble image base⟩, fun r hr => ?_,
    image?_text_disassemble image base, fun image' base' same => ?_, text_true image base⟩
  · have listed := Record.listed_of_mem hr
    exact ⟨r.take_line, listed.text_fits.length, listed.drop_line⟩
  · have images := congrArg image? same
    rw [image?_text_disassemble, image?_text_disassemble, Option.some.injEq] at images
    subst images
    exact ⟨rfl, fun some => base_of_text some same⟩

/-- `LXI SP,$2400` below the top of memory, and an `LXI H` at address 0 that lacks its last byte. -/
def stackAtTop : List Byte := [0x31, 0x00, 0x24, 0x21, 0x34]

theorem disassemble_stackAtTop : disassemble stackAtTop 0xFFFD =
    [⟨0xFFFD, .decode 0x31, [0x00, 0x24]⟩, ⟨0, .decode 0x21, [0x34]⟩] := by
  have stack : (Opcode.decode 0x31).length = 2 + 1 := rfl
  have pair : (Opcode.decode 0x21).length = 2 + 1 := rfl
  rw [stackAtTop, disassemble_cons_of_length stack, List.drop_succ_cons, List.drop_succ_cons,
    List.drop_zero, disassemble_cons_of_length pair, List.drop_succ_cons, List.drop_nil,
    disassemble_nil]
  rfl

/-- The operands of the first instruction fill their column. No other image has its listing. -/
theorem stackAtTop_faithful :
    text false (disassemble stackAtTop 0xFFFD) =
      "fffd  31 00 24  LXI   SP,$2400; rp <- word\n" ++
      "0000  21 34     LXI   H,??    ; rp <- word\n" ∧
    text true (disassemble stackAtTop 0xFFFD) =
      "fffd  31 00 24  LXI   SP,$2400; rp <- word\n" ++
      "\x1b[31m0000  21 34     LXI   H,??    ; rp <- word\x1b[0m\n" ∧
    ∀ image base, text false (disassemble image base) =
      "fffd  31 00 24  LXI   SP,$2400; rp <- word\n" ++
      "0000  21 34     LXI   H,??    ; rp <- word\n" → image = stackAtTop ∧ base = 0xFFFD := by
  obtain ⟨⟨plain, -⟩, -, -, unique, colored⟩ := text_faithful stackAtTop 0xFFFD
  have both : text false (disassemble stackAtTop 0xFFFD) =
      "fffd  31 00 24  LXI   SP,$2400; rp <- word\n" ++
      "0000  21 34     LXI   H,??    ; rp <- word\n" := by
    rw [plain, disassemble_stackAtTop]
    decide
  refine ⟨both, ?_, fun image base same => ?_⟩
  · rw [colored, disassemble_stackAtTop]
    decide
  · obtain ⟨images, bases⟩ := unique image base (same.trans both.symm)
    exact ⟨images, bases (List.cons_ne_nil _ _)⟩

end Listing
end Intel8080
