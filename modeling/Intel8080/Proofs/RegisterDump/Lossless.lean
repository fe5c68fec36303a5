import Intel8080.Proofs.RegisterDump.Box

/-! What a dump tells. The lines of a plain dump begin with names, none of which begins another
one, so that each value is found behind its name. In the box each value stands at a place of its
own, and a condition code has as many letters when it is set as when it is clear. So both kinds of
dump tell all of the register file, and neither tells anything of memory. Main statement:
`text_lossless`. -/
namespace Intel8080

namespace Text

def byteOf? (s : List Char) : Option Byte :=
  match s.length, bytes? s with
  | 2, some [b] => some b
  | _, _ => none

def wordOf? (s : List Char) : Option Word :=
  match s.length, bytes? s with
  | 4, some [high, low] => some (.ofBytes high low)
  | _, _ => none

def switchOf? : List Char → Option Bool
  | ['1'] => some true
  | ['0'] => some false
  | _ => none

theorem byteOf?_hexByte (b : Byte) : byteOf? (hexByte b) = some b := by
  have read := bytes?_hexByte b []
  rw [List.append_nil] at read
  simp [byteOf?, read, bytes?]

theorem wordOf?_hexWord (w : Word) : wordOf? (hexWord w) = some w := by
  have low := bytes?_hexByte w.lo []
  have read := bytes?_hexByte w.hi (hexByte w.lo)
  rw [List.append_nil] at low
  rw [low] at read
  simp [wordOf?, hexWord, read, bytes?]

/-- What stands behind a name in the first text that begins with it. -/
def valueOf? (name : List Char) (texts : List (List Char)) : Option (List Char) :=
  (texts.find? name.isPrefixOf).map (·.drop name.length)

def Apart (s t : List Char) : Prop := ¬s <+: t ∧ ¬t <+: s

instance (s t : List Char) : Decidable (Apart s t) := inferInstanceAs (Decidable (_ ∧ _))

/-- If no name begins another one, then each value is found behind its name. -/
theorem valueOf?_of_mem {entries : List (List Char × List Char)}
    (apart : (entries.map Prod.fst).Pairwise Apart) {name value : List Char}
    (h : (name, value) ∈ entries) :
    valueOf? name (entries.map fun e => e.1 ++ e.2) = some value := by
  induction entries with
  | nil => exact absurd h List.not_mem_nil
  | cons e entries ih =>
    rw [List.map_cons, List.pairwise_cons] at apart
    rcases List.mem_cons.mp h with rfl | later
    · simp [valueOf?]
    · have other : Apart e.1 name := apart.1 name (List.mem_map_of_mem later)
      have no : name.isPrefixOf (e.1 ++ e.2) = false := by
        rw [Bool.eq_false_iff, ne_eq, List.isPrefixOf_iff_prefix]
        intro begins
        rcases List.prefix_or_prefix_of_prefix begins (List.prefix_append e.1 e.2) with h | h
        · exact other.2 h
        · exact other.1 h
      rw [List.map_cons, valueOf?, List.find?_cons_of_neg (by simp [no])]
      exact ih apart.2 later

end Text

namespace RegisterDump

open Terminal

/-- The processors hold the same in the registers, the program counter, the stack pointer, the
condition codes and the interrupt switch. Nothing is said of their memories. -/
structure SameRegisters (p q : Processor) : Prop where
  registers : ∀ r ∈ registers, p.reg r = q.reg r
  pc : p.pc = q.pc
  sp : p.sp = q.sp
  flags : ∀ f, p.flags.get f = q.flags.get f
  interrupts : p.interrupts = q.interrupts

theorem SameRegisters.eq {p q : Processor} (h : SameRegisters p q) :
    q = { p with memory := q.memory } := by
  obtain ⟨registers, pc, sp, flags, interrupts⟩ := h
  have reg (r : Register) (hr : r ∈ RegisterDump.registers) : q.reg r = p.reg r :=
    (registers r hr).symm
  ext1
  · exact reg .a (by decide)
  · exact reg .b (by decide)
  · exact reg .c (by decide)
  · exact reg .d (by decide)
  · exact reg .e (by decide)
  · exact reg .h (by decide)
  · exact reg .l (by decide)
  · exact sp.symm
  · exact pc.symm
  · exact Flags.ext_get fun f => (flags f).symm
  · exact interrupts.symm
  · rfl

theorem reg_withMemory {r : Register} (h : r ∈ registers) (p : Processor) (memory : Memory) :
    ({ p with memory } : Processor).reg r = p.reg r := by
  cases r with
  | m => exact absurd h (by decide)
  | _ => rfl

theorem text_withMemory (minimal : Bool) (p : Processor) (memory : Memory) :
    text minimal { p with memory } = text minimal p := by
  have same {α : Type} (g : Register → Byte → α) :
      registers.map (fun r => g r (({ p with memory } : Processor).reg r)) =
        registers.map fun r => g r (p.reg r) :=
    List.map_congr_left fun r hr => by rw [reg_withMemory hr]
  have plain : plainLines { p with memory } = plainLines p :=
    congrArg (· ++ _) (same fun r b => r.name ++ " 0x" ++ hexByte b)
  have box : boxLines { p with memory } = boxLines p :=
    congrArg (fun ls => [topLine, headLine] ++ ls ++ _) (same fun r b => registerLine r.name b)
  cases minimal with
  | true => simp only [text, lines, plain, if_true]
  | false => simp only [text, lines, box, Bool.false_eq_true, if_false]

/-! Plain dumps. -/

def flagEntries (p : Processor) : List (List Char × List Char) :=
  flags.map fun f => ((f.name ++ "=").toList, (bit (p.flags.get f)).toList)

/-- The lines of a plain dump, each as a name and what stands behind it. -/
def entries (p : Processor) : List (List Char × List Char) :=
  registers.map (fun r => ((r.name ++ " 0x").toList, Text.hexByte (p.reg r))) ++
    [("PC 0x".toList, Text.hexWord p.pc), ("SP 0x".toList, Text.hexWord p.sp),
      ("FLAGS ".toList, [' '].intercalate ((flagEntries p).map fun e => e.1 ++ e.2)),
      ("IE ".toList, (bit p.interrupts).toList)]

theorem lines_text_true (p : Processor) :
    Text.lines (text true p).toList = (entries p).map fun e => e.1 ++ e.2 := by
  have single : ∀ l ∈ (lines true p).map String.toList, '\n' ∉ l := by
    simpa [lines] using fun l hl => (noControl_plainLines p l hl).lineFeed_not_mem
  rw [toList_text, Text.lines_flatMap single]
  simp [lines, plainLines, entries, flagEntries, hexByte, hexWord, String.toList_intercalate,
    Function.comp_def]

def valueAfter? (name dump : String) : Option (List Char) :=
  Text.valueOf? name.toList (Text.lines dump.toList)

def byte? (name dump : String) : Option Byte := (valueAfter? (name ++ " 0x") dump).bind Text.byteOf?

def word? (name dump : String) : Option Word := (valueAfter? (name ++ " 0x") dump).bind Text.wordOf?

def switch? (dump : String) : Option Bool := (valueAfter? "IE " dump).bind Text.switchOf?

/-- A condition code, which is read from the line of all of them. -/
def flag? (f : Flag) (dump : String) : Option Bool := do
  let codes ← valueAfter? "FLAGS " dump
  let code ← Text.valueOf? (f.name ++ "=").toList (codes.splitOn ' ')
  Text.switchOf? code

/-- The dump is read as the register file of a processor. -/
structure Tells (dump : String) (p : Processor) : Prop where
  registers : ∀ r ∈ registers, byte? r.name dump = some (p.reg r)
  pc : word? "PC" dump = some p.pc
  sp : word? "SP" dump = some p.sp
  flags : ∀ f, flag? f dump = some (p.flags.get f)
  interrupts : switch? dump = some p.interrupts

theorem Tells.unique {dump : String} {p q : Processor} (hp : Tells dump p) (hq : Tells dump q) :
    SameRegisters p q where
  registers r hr := Option.some.inj ((hp.registers r hr).symm.trans (hq.registers r hr))
  pc := Option.some.inj (hp.pc.symm.trans hq.pc)
  sp := Option.some.inj (hp.sp.symm.trans hq.sp)
  flags f := Option.some.inj ((hp.flags f).symm.trans (hq.flags f))
  interrupts := Option.some.inj (hp.interrupts.symm.trans hq.interrupts)

theorem valueAfter?_of_mem {p : Processor} {name : String} {value : List Char}
    (h : (name.toList, value) ∈ entries p) : valueAfter? name (text true p) = some value := by
  have names : (entries p).map Prod.fst = (registers.map fun r => (r.name ++ " 0x").toList) ++
      ["PC 0x".toList, "SP 0x".toList, "FLAGS ".toList, "IE ".toList] := rfl
  have apart : ((entries p).map Prod.fst).Pairwise Text.Apart := by
    rw [names]
    decide
  rw [valueAfter?, lines_text_true, Text.valueOf?_of_mem apart h]

theorem read_of_mem {α : Type} {read : List Char → Option α} {p : Processor} {name : String}
    {value : List Char} {x : α} (h : (name.toList, value) ∈ entries p) (written : read value = some x) :
    (valueAfter? name (text true p)).bind read = some x := by
  rw [valueAfter?_of_mem h, Option.bind_some, written]

theorem switchOf?_bit (set : Bool) : Text.switchOf? (bit set).toList = some set := by
  cases set <;> decide

theorem mem_flags (f : Flag) : f ∈ flags := by
  cases f <;> decide

theorem blank_not_mem_flagEntries (p : Processor) :
    ∀ word ∈ (flagEntries p).map fun e => e.1 ++ e.2, ' ' ∉ word := by
  have name (f : Flag) : ' ' ∉ (f.name ++ "=").toList := by cases f <;> decide
  have digit (set : Bool) : ' ' ∉ (bit set).toList := by cases set <;> decide
  rw [flagEntries, List.map_map, List.forall_mem_map]
  intro f _ blank
  rcases List.mem_append.mp blank with inName | inDigit
  · exact name f inName
  · exact digit _ inDigit

theorem flag?_text_true (p : Processor) (f : Flag) :
    flag? f (text true p) = some (p.flags.get f) := by
  have line : valueAfter? "FLAGS " (text true p) =
      some ([' '].intercalate ((flagEntries p).map fun e => e.1 ++ e.2)) :=
    valueAfter?_of_mem (by simp [entries])
  have words : ([' '].intercalate ((flagEntries p).map fun e => e.1 ++ e.2)).splitOn ' ' =
      (flagEntries p).map fun e => e.1 ++ e.2 :=
    List.splitOn_intercalate ' ' (blank_not_mem_flagEntries p) (by simp [flagEntries, flags])
  have apart : ((flagEntries p).map Prod.fst).Pairwise Text.Apart := by
    have names : (flagEntries p).map Prod.fst = flags.map fun f => (f.name ++ "=").toList := rfl
    rw [names]
    decide
  have code : Text.valueOf? (f.name ++ "=").toList ((flagEntries p).map fun e => e.1 ++ e.2) =
      some (bit (p.flags.get f)).toList :=
    Text.valueOf?_of_mem apart (List.mem_map_of_mem (mem_flags f))
  rw [flag?, line, Option.bind_eq_bind, Option.bind_some, words, code]
  exact switchOf?_bit _

theorem tells_text_true (p : Processor) : Tells (text true p) p where
  registers r hr :=
    read_of_mem (List.mem_append_left _ (List.mem_map_of_mem hr)) (Text.byteOf?_hexByte (p.reg r))
  pc := read_of_mem (by simp [entries]) (Text.wordOf?_hexWord p.pc)
  sp := read_of_mem (by simp [entries]) (Text.wordOf?_hexWord p.sp)
  flags := flag?_text_true p
  interrupts := read_of_mem (by simp [entries]) (switchOf?_bit p.interrupts)

/-! Boxes. -/

/-- Cells of the same lengths tell where each of them ends. -/
theorem eq_of_flatMap_eq {α β : Type} {f g : α → List β} {xs : List α}
    (same : ∀ x, (f x).length = (g x).length) (h : xs.flatMap f = xs.flatMap g) :
    ∀ x ∈ xs, f x = g x := by
  induction xs with
  | nil => exact fun _ h => absurd h List.not_mem_nil
  | cons x xs ih =>
    rw [List.flatMap_cons, List.flatMap_cons] at h
    obtain ⟨first, others⟩ := List.append_inj h (same x)
    exact List.forall_mem_cons.mpr ⟨first, ih others⟩

theorem get_eq_of_visible_flagCell {v w : Flags} {f : Flag}
    (h : (visible (flagCell v f)).toList = (visible (flagCell w f)).toList) : v.get f = w.get f := by
  have differ : (visible (label f.name)).toList ≠
      (visible [.dim, .text f.lowerName, .reset]).toList := by
    cases f <;> decide
  rw [flagCell, flagCell, visible_append, visible_append, String.toList_append,
    String.toList_append] at h
  have cell := List.append_cancel_right h
  cases hv : v.get f <;> cases hw : w.get f <;> simp only [hv, hw, if_true] at cell
  · rfl
  · exact absurd cell.symm differ
  · exact absurd cell differ
  · rfl

theorem exists_toList_registerLine (name : String) (b : Byte) :
    ∃ rest, (visible (registerLine name b)).toList =
      ("│ " ++ name ++ "   0x").toList ++ (Text.hexByte b ++ rest) := by
  refine ⟨("  " ++ Text.padLeft 4 (toString b.toNat) ++ "  " ++ Text.padLeft 4 (toString b.toInt) ++
    "   ").toList ++ ((visible (character b)).toList ++ "   │".toList), ?_⟩
  simp [registerLine, boxed, border, label, toList_visible, Piece.visible, Piece.dim, Piece.bold,
    Piece.reset, hexByte]

theorem exists_toList_controlLine (p : Processor) :
    ∃ rest, (visible (controlLine p)).toList = "│ PC ".toList ++ (Text.hexWord p.pc ++
      (" SP ".toList ++ (Text.hexWord p.sp ++
        (" IE ".toList ++ ((bit p.interrupts).toList ++ rest))))) := by
  refine ⟨"         │".toList, ?_⟩
  simp [controlLine, boxed, border, label, toList_visible, Piece.visible, Piece.dim, Piece.bold,
    Piece.reset, hexWord]

theorem exists_toList_flagLine (p : Processor) :
    ∃ rest, (visible (flagLine p)).toList = "│ ".toList ++
      (flags.flatMap (fun f => (visible (flagCell p.flags f)).toList) ++ rest) := by
  refine ⟨(Text.padLeft 21 "" ++ "│").toList, ?_⟩
  simp [flagLine, boxed, border, toList_visible, Piece.visible, Piece.dim, Piece.reset,
    List.flatMap_assoc]

theorem eq_of_registerLine {name : String} {b c : Byte}
    (h : (visible (registerLine name b)).toList = (visible (registerLine name c)).toList) :
    b = c := by
  obtain ⟨_, hb⟩ := exists_toList_registerLine name b
  obtain ⟨_, hc⟩ := exists_toList_registerLine name c
  rw [hb, hc] at h
  exact Text.hexByte_injective (List.append_inj (List.append_cancel_left h) rfl).1

theorem eq_of_controlLine {p q : Processor}
    (h : (visible (controlLine p)).toList = (visible (controlLine q)).toList) :
    p.pc = q.pc ∧ p.sp = q.sp ∧ p.interrupts = q.interrupts := by
  obtain ⟨_, hp⟩ := exists_toList_controlLine p
  obtain ⟨_, hq⟩ := exists_toList_controlLine q
  have width (set : Bool) : (bit set).toList.length = 1 := by cases set <;> decide
  rw [hp, hq] at h
  obtain ⟨pc, h⟩ := List.append_inj (List.append_cancel_left h) rfl
  obtain ⟨sp, h⟩ := List.append_inj (List.append_cancel_left h) rfl
  have digit := (List.append_inj (List.append_cancel_left h) (by rw [width, width])).1
  have switch := congrArg Text.switchOf? digit
  rw [switchOf?_bit, switchOf?_bit] at switch
  exact ⟨Text.hexWord_injective pc, Text.hexWord_injective sp, Option.some.inj switch⟩

theorem eq_of_flagLine {p q : Processor}
    (h : (visible (flagLine p)).toList = (visible (flagLine q)).toList) (f : Flag) :
    p.flags.get f = q.flags.get f := by
  obtain ⟨_, hp⟩ := exists_toList_flagLine p
  obtain ⟨_, hq⟩ := exists_toList_flagLine q
  have width (v : Flags) (f : Flag) : (visible (flagCell v f)).toList.length = f.name.length + 1 := by
    rw [String.length_toList, (fills_flagCell v f).length]
  have whole (v : Flags) :
      (flags.flatMap fun f => (visible (flagCell v f)).toList).length = 12 := by
    simp only [List.length_flatMap, width]
    rfl
  rw [hp, hq] at h
  have cells := (List.append_inj (List.append_cancel_left h) (by rw [whole, whole])).1
  have same : ∀ f, (visible (flagCell p.flags f)).toList.length =
      (visible (flagCell q.flags f)).toList.length := fun f => by rw [width, width]
  exact get_eq_of_visible_flagCell (eq_of_flatMap_eq same cells f (mem_flags f))

theorem sameRegisters_of_text_false {p q : Processor} (h : text false p = text false q) :
    SameRegisters p q := by
  have same : seen p = seen q := by rw [seen, seen, h]
  rw [seen_eq, seen_eq] at same
  simp only [boxLines, List.map_append, List.map_cons, List.map_nil, List.map_map] at same
  obtain ⟨above, below⟩ := List.append_inj same (by simp)
  have registerLines := List.map_inj_left.mp (List.append_cancel_left above)
  simp only [List.cons.injEq] at below
  obtain ⟨-, control, codes, -⟩ := below
  obtain ⟨pc, sp, interrupts⟩ := eq_of_controlLine control
  exact ⟨fun r hr => eq_of_registerLine (registerLines r hr), pc, sp, eq_of_flagLine codes, interrupts⟩

end RegisterDump
end Intel8080
