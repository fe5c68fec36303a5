import Intel8080.Proofs.RegisterDump.Plain
import Intel8080.Proofs.Terminal.Visible

/-! The box of registers as it is seen. Every part of a line has a width of its own, whatever the
registers hold, so that the lines of all boxes have the same lengths. These are not all the same:
the lines of registers, of pairs and of the program counter end four columns in front of the
corners. Main statement: `seen_edges`. -/
namespace Intel8080

open Text (FitsIn NoControl)

namespace Text

theorem fitsIn_toString_toNat (b : Byte) : FitsIn 4 (toString b.toNat) := by
  have := b.isLt
  exact fitsIn_toString (by decide) (by omega)

theorem fitsIn_toString_toInt (b : Byte) : FitsIn 4 (toString b.toInt) := by
  have lower := b.le_toInt
  have upper : b.toInt < 2 ^ 7 := BitVec.toInt_lt
  cases h : b.toInt with
  | ofNat n =>
    rw [h, Int.ofNat_eq_natCast] at upper
    exact fitsIn_toString (by decide) (by omega)
  | negSucc n =>
    have sign : FitsIn 1 "-" := by decide
    have digits : FitsIn 3 (toString (n + 1)) := fitsIn_toString (by decide) (by omega)
    exact sign.append digits

end Text

namespace RegisterDump

open Terminal

/-! The cells of a line. -/

theorem fills_of_lookup {n : Nat} {name : String} (h : characterNames.lookup n = some name) :
    Fills 3 [.text name] := by
  have named : ∀ e ∈ characterNames, Fills 3 [.text e.2] := by decide
  obtain ⟨front, rest, split, -⟩ := List.lookup_eq_some_iff.mp h
  exact named (n, name) (by simp [split])

theorem fills_printed {n : Nat} (first : ¬n < 0x20) (last : n < 0x80) :
    Fills 3 [.text (String.singleton (Char.ofNat n) ++ "  ")] := by
  have table : ∀ n < 0x80, ¬n < 0x20 → 0x20 ≤ (Char.ofNat n).toNat := by decide
  have printed : FitsIn 1 (String.singleton (Char.ofNat n)) :=
    ⟨by simp, by simpa [NoControl] using table n last first⟩
  have blanks : Fills 2 [.text "  "] := by decide
  exact (fills_text printed (by simp)).joined blanks

theorem fills_character (b : Byte) : Fills 3 (character b) := by
  rw [character]
  split
  · exact fills_of_lookup ‹_›
  · split
    · decide
    · split
      · exact fills_printed ‹_› ‹_›
      · decide

theorem fills_flagCell (flags : Flags) (f : Flag) :
    Fills (f.name.length + 1) (flagCell flags f) := by
  rw [flagCell]
  split <;> cases f <;> decide

theorem fills_hexByte (b : Byte) : Fills 2 [.text (hexByte b)] :=
  fills_text (Text.fitsIn_hexByte b) (by simp [hexByte])

theorem fills_hexWord (w : Word) : Fills 4 [.text (hexWord w)] :=
  fills_text (Text.fitsIn_hexWord w) (by simp [hexWord])

theorem fills_bit (set : Bool) : Fills 1 [.text (bit set)] := by
  cases set <;> decide

theorem fills_padLeft {width : Nat} {s : String} (h : FitsIn width s) :
    Fills width [.text (Text.padLeft width s)] :=
  fills_text h.padLeft.1 h.padLeft.2

/-! The lines. -/

theorem fills_boxed {width : Nat} {inside : List Piece} (h : Fills width inside) :
    Fills (1 + width + 1) (boxed inside) := by
  have edge : Fills 1 border := by decide
  exact (edge.append h).append edge

theorem fills_registerLine (r : Register) (b : Byte) : Fills 32 (registerLine r.name b) := by
  have name : Fills 1 (label r.name) := by cases r <;> decide
  obtain ⟨margin, gap, space, front⟩ : Fills 1 [.text " "] ∧ Fills 2 [.text "  "] ∧
      Fills 3 [.text "   "] ∧ Fills 5 [.text "   0x"] := by decide
  have unsigned := fills_padLeft (Text.fitsIn_toString_toNat b)
  have signed := fills_padLeft (Text.fitsIn_toString_toInt b)
  have hex := (front.joined (fills_hexByte b)).joined gap
  have numbers := (((hex.joined unsigned).joined gap).joined signed).joined space
  exact fills_boxed
    ((((margin.append name).append numbers).append (fills_character b)).append space)

theorem fills_pairLine (p : Processor) : Fills 32 (pairLine p) := by
  obtain ⟨margin, rest, bc, de, hl⟩ : Fills 1 [.text " "] ∧ Fills 6 [.text "      "] ∧
      Fills 2 (label "BC") ∧ Fills 2 (label "DE") ∧ Fills 2 (label "HL") := by decide
  have word (rp : Pair) := margin.joined (fills_hexWord (p.pair rp))
  have first := (margin.append bc).append ((word .bc).joined margin)
  have second := (first.append de).append ((word .de).joined margin)
  exact fills_boxed ((second.append hl).append ((word .hl).joined rest))

theorem fills_controlLine (p : Processor) : Fills 32 (controlLine p) := by
  obtain ⟨margin, rest, pc, sp, ie⟩ : Fills 1 [.text " "] ∧ Fills 9 [.text "         "] ∧
      Fills 2 (label "PC") ∧ Fills 2 (label "SP") ∧ Fills 2 (label "IE") := by decide
  have word (w : Word) := (margin.joined (fills_hexWord w)).joined margin
  have first := (margin.append pc).append (word p.pc)
  have second := (first.append sp).append (word p.sp)
  exact fills_boxed
    ((second.append ie).append ((margin.joined (fills_bit p.interrupts)).joined rest))

theorem fills_flagLine (p : Processor) : Fills 36 (flagLine p) := by
  obtain ⟨margin, rest⟩ : Fills 1 [.text " "] ∧ Fills 21 [.text (Text.padLeft 21 "")] := by decide
  have cells : Fills 12 (flags.flatMap (flagCell p.flags)) :=
    fills_flatMap (fills_flagCell p.flags) flags
  exact fills_boxed ((margin.append cells).append rest)

theorem toList_topLine : (visible topLine).toList = '┌' :: (List.replicate 34 '─' ++ ['┐']) := by
  simp [topLine, visible, Piece.visible, Piece.dim, Piece.reset, List.replicate]

theorem toList_bottomLine :
    (visible bottomLine).toList = '└' :: (List.replicate 34 '─' ++ ['┘']) := by
  simp [bottomLine, visible, Piece.visible, Piece.dim, Piece.reset, List.replicate]

theorem toList_headLine : (visible headLine).toList =
    '│' :: ("      hex   uint   int   char     ".toList ++ ['│']) := by
  simp [headLine, visible, Piece.visible, Piece.dim, Piece.italic, Piece.reset]

def boxWidths : List Nat := [36, 36] ++ List.replicate 9 32 ++ [36, 36]

theorem fills_boxLines (p : Processor) : List.Forall₂ Fills boxWidths (boxLines p) := by
  obtain ⟨top, head, bottom⟩ : Fills 36 topLine ∧ Fills 36 headLine ∧ Fills 36 bottomLine := by
    rw [fills_iff, fills_iff, fills_iff, toList_topLine, toList_headLine, toList_bottomLine]
    decide
  have register (r : Register) := fills_registerLine r (p.reg r)
  have last : List.Forall₂ Fills [32, 32, 36, 36]
      [pairLine p, controlLine p, flagLine p, bottomLine] :=
    .cons (fills_pairLine p) (.cons (fills_controlLine p)
      (.cons (fills_flagLine p) (.cons bottom .nil)))
  have registers : List.Forall₂ Fills (List.replicate 7 32)
      (registers.map fun r => registerLine r.name (p.reg r)) := by
    rw [List.forall₂_map_right_iff]
    simp [registers, List.replicate, register]
  exact .cons top (.cons head (List.rel_append registers last))

theorem legible_boxLines (p : Processor) : ∀ line ∈ boxLines p, Legible line :=
  (forall₂_fills_iff.mp (fills_boxLines p)).1

/-- The lines of a box as they are seen, without their escape sequences. -/
def seen (p : Processor) : List (List Char) :=
  (Text.lines (text false p).toList).map Text.shownText

theorem seen_eq (p : Processor) : seen p = (boxLines p).map fun line => (visible line).toList := by
  have single : ∀ l ∈ (lines false p).map String.toList, '\n' ∉ l := by
    simpa [lines] using fun line hl => lineFeed_not_mem_render (legible_boxLines p line hl)
  rw [seen, toList_text, Text.lines_flatMap single]
  simpa [lines] using fun line hl => shownText_render (legible_boxLines p line hl)

theorem map_length_seen (p : Processor) : (seen p).map List.length = boxWidths := by
  have widths := (forall₂_fills_iff.mp (fills_boxLines p)).2
  simpa [seen_eq, Function.comp_def, String.length_toList] using widths

/-- A line stands between a border at its left and a border at its right. -/
def Bordered (line : List Char) : Prop :=
  ∃ left ∈ ['┌', '│', '└'], ∃ right ∈ ['┐', '│', '┘'], ∃ inside, line = left :: (inside ++ [right])

theorem bordered_boxed (inside : List Piece) : Bordered (visible (boxed inside)).toList :=
  ⟨'│', by simp, '│', by simp, (visible inside).toList, by
    simp [boxed, border, visible, Piece.visible, Piece.dim, Piece.reset]⟩

theorem bordered_of_mem_seen {p : Processor} {line : List Char} (h : line ∈ seen p) :
    Bordered line := by
  have top : Bordered (visible topLine).toList :=
    ⟨'┌', by simp, '┐', by simp, _, toList_topLine⟩
  have head : Bordered (visible headLine).toList :=
    ⟨'│', by simp, '│', by simp, _, toList_headLine⟩
  have bottom : Bordered (visible bottomLine).toList :=
    ⟨'└', by simp, '┘', by simp, _, toList_bottomLine⟩
  have all : ∀ line ∈ boxLines p, Bordered (visible line).toList := by
    simp only [boxLines, List.forall_mem_append, List.forall_mem_cons, List.forall_mem_map]
    exact ⟨⟨⟨top, head, List.forall_mem_nil _⟩, fun r _ => bordered_boxed _⟩, bordered_boxed _,
      bordered_boxed _, bordered_boxed _, bottom, List.forall_mem_nil _⟩
  rw [seen_eq] at h
  obtain ⟨line, hl, rfl⟩ := List.mem_map.mp h
  exact all line hl

/-- Whatever the registers hold, each line of the box stands between borders, and each has always
the same number of columns. The top border has 36, as have the head, the condition codes and the
bottom; the nine lines between them have 32. -/
theorem seen_edges (p : Processor) :
    (∀ line ∈ seen p, Bordered line) ∧ (seen p).map List.length = boxWidths :=
  ⟨fun _ h => bordered_of_mem_seen h, map_length_seen p⟩

/-- The box is no rectangle: not all lines are as wide as the top border. -/
theorem zero_not_rectangular : ¬∀ line ∈ seen {}, line.length = (visible topLine).length := by
  intro rectangular
  have narrow : 32 ∈ (seen {}).map List.length := by
    rw [map_length_seen]
    decide
  obtain ⟨line, h, width⟩ := List.mem_map.mp narrow
  have top : (visible topLine).length = 36 := by
    rw [← String.length_toList, toList_topLine]
    rfl
  have := rectangular line h
  omega

end RegisterDump
end Intel8080
