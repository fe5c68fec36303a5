import Intel8080.Proofs.Text.Reading
import Intel8080.RegisterDump

/-! Dumps in plain lines, as they are written. They hold no control character but the line feed
behind each line, and so no escape sequence. -/
namespace Intel8080

open Text (NoControl)

namespace RegisterDump

theorem noControl_bit (set : Bool) : NoControl (bit set).toList := by
  cases set <;> decide

theorem noControl_hexByte (b : Byte) : NoControl (hexByte b).toList :=
  (Text.fitsIn_hexByte b).noControl

theorem noControl_hexWord (w : Word) : NoControl (hexWord w).toList :=
  (Text.fitsIn_hexWord w).noControl

theorem noControl_plainLines (p : Processor) : ∀ l ∈ plainLines p, NoControl l.toList := by
  have register (r : Register) : NoControl (r.name ++ " 0x" ++ hexByte (p.reg r)).toList := by
    have name : NoControl (r.name ++ " 0x").toList := by cases r <;> decide
    exact name.append (noControl_hexByte _)
  have code (f : Flag) : NoControl (f.name ++ "=" ++ bit (p.flags.get f)).toList := by
    have name : NoControl (f.name ++ "=").toList := by cases f <;> decide
    exact name.append (noControl_bit _)
  have codes : NoControl (String.intercalate " "
      (flags.map fun f => f.name ++ "=" ++ bit (p.flags.get f))).toList :=
    Text.noControl_intercalate (by decide) (List.forall_mem_map.mpr fun f _ => code f)
  obtain ⟨pc, sp, codesName, switch⟩ : NoControl "PC 0x".toList ∧ NoControl "SP 0x".toList ∧
      NoControl "FLAGS ".toList ∧ NoControl "IE ".toList := by decide
  simp only [plainLines, List.forall_mem_append, List.forall_mem_map, List.forall_mem_cons]
  exact ⟨fun r _ => register r, pc.append (noControl_hexWord _), sp.append (noControl_hexWord _),
    codesName.append codes, switch.append (noControl_bit _), fun _ h => absurd h List.not_mem_nil⟩

theorem toList_text (minimal : Bool) (p : Processor) : (text minimal p).toList =
    ((lines minimal p).map String.toList).flatMap (· ++ ['\n']) := by
  simp [text, String.toList_join, List.flatMap_map]

theorem escape_not_mem_text_true (p : Processor) : '\x1b' ∉ (text true p).toList := by
  intro h
  rw [toList_text, List.flatMap_map] at h
  obtain ⟨l, hl, hc⟩ := List.mem_flatMap.mp h
  rcases List.mem_append.mp hc with inside | behind
  · exact (noControl_plainLines p l hl).escape_not_mem inside
  · simp at behind

/-- A number in hexadecimal, with as many digits as are asked for. -/
def hexadecimal (width n : Nat) : String :=
  String.ofList ((List.range width).reverse.map fun i => Nat.digitChar (n / 16 ^ i % 16))

theorem hexByte_eq (b : Byte) : hexByte b = hexadecimal 2 b.toNat := by
  have places : (List.range 2).reverse = [1, 0] := rfl
  have high : b.toNat / 16 % 16 = b.toNat / 16 := Nat.mod_eq_of_lt (by have := b.isLt; omega)
  simp [hexByte, Text.hexByte, Text.hexDigit, hexadecimal, places, high]

theorem hexWord_eq (w : Word) : hexWord w = hexadecimal 4 w.toNat := by
  have places : (List.range 4).reverse = [3, 2, 1, 0] := rfl
  have hw := w.isLt
  have first : w.toNat / 256 / 16 = w.toNat / 4096 % 16 := by omega
  have third : w.toNat % 256 / 16 = w.toNat / 16 % 16 := by omega
  have last : w.toNat % 256 % 16 = w.toNat % 16 := by omega
  simp [hexWord, Text.hexWord, Text.hexByte, Text.hexDigit, hexadecimal, places, Word.toNat_hi,
    Word.toNat_lo, first, third, last]

/-- The plain lines of a dump, written out. -/
def written (p : Processor) : String :=
  let digit (set : Bool) : String := if set then "1" else "0"
  let lines :=
    ["A 0x" ++ hexadecimal 2 p.a.toNat,
      "B 0x" ++ hexadecimal 2 p.b.toNat,
      "C 0x" ++ hexadecimal 2 p.c.toNat,
      "D 0x" ++ hexadecimal 2 p.d.toNat,
      "E 0x" ++ hexadecimal 2 p.e.toNat,
      "H 0x" ++ hexadecimal 2 p.h.toNat,
      "L 0x" ++ hexadecimal 2 p.l.toNat,
      "PC 0x" ++ hexadecimal 4 p.pc.toNat,
      "SP 0x" ++ hexadecimal 4 p.sp.toNat,
      "FLAGS S=" ++ digit p.flags.sign ++ " Z=" ++ digit p.flags.zero ++
        " AC=" ++ digit p.flags.auxCarry ++ " P=" ++ digit p.flags.parity ++
        " CY=" ++ digit p.flags.carry,
      "IE " ++ digit p.interrupts]
  String.join (lines.map (· ++ "\n"))

theorem text_true (p : Processor) : text true p = written p := by
  have codes (f : Flags) :
      "FLAGS " ++ String.intercalate " " (flags.map fun c => c.name ++ "=" ++ bit (f.get c)) =
        "FLAGS S=" ++ bit f.sign ++ " Z=" ++ bit f.zero ++ " AC=" ++ bit f.auxCarry ++
          " P=" ++ bit f.parity ++ " CY=" ++ bit f.carry := by
    obtain ⟨s, z, a, p, c⟩ := f
    revert s z a p c
    decide
  rw [text, lines, if_pos rfl, plainLines, codes]
  simp only [hexByte_eq, hexWord_eq]
  rfl

end RegisterDump
end Intel8080
