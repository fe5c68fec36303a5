import Intel8080.Text.Column
import Intel8080.Text.Hex
import Mathlib.Algebra.GroupWithZero.Nat

/-! Printed text: whether it has room in a column, and what is read back from it, which is its lines
and the bytes for which its digits stand. -/
namespace Intel8080.Text

/-- No character stands below the blank, so that the text stays in its line and begins no escape
sequence. -/
def NoControl (s : List Char) : Prop := ∀ c ∈ s, 0x20 ≤ c.toNat

instance (s : List Char) : Decidable (NoControl s) := List.decidableBAll _ s

@[simp] theorem noControl_append {s t : List Char} :
    NoControl (s ++ t) ↔ NoControl s ∧ NoControl t :=
  List.forall_mem_append

theorem NoControl.append {s t : String} (hs : NoControl s.toList) (ht : NoControl t.toList) :
    NoControl (s ++ t).toList := by
  rw [String.toList_append]
  exact noControl_append.mpr ⟨hs, ht⟩

/-- What holds of the characters of a separator and of some texts holds of those of the texts with
the separator between them. -/
theorem forall_mem_intercalate {P : Char → Prop} {separator : List Char} {texts : List (List Char)}
    (hs : ∀ c ∈ separator, P c) (ht : ∀ t ∈ texts, ∀ c ∈ t, P c) :
    ∀ c ∈ separator.intercalate texts, P c := by
  induction texts with
  | nil => exact fun _ h => absurd h List.not_mem_nil
  | cons t texts ih =>
    obtain ⟨first, others⟩ := List.forall_mem_cons.mp ht
    cases texts with
    | nil => simpa using first
    | cons u texts =>
      rw [List.intercalate_cons_cons, List.forall_mem_append, List.forall_mem_append]
      exact ⟨⟨first, hs⟩, ih others⟩

theorem noControl_intercalate {separator : String} (hs : NoControl separator.toList)
    {texts : List String} (ht : ∀ t ∈ texts, NoControl t.toList) :
    NoControl (String.intercalate separator texts).toList := by
  rw [String.toList_intercalate]
  exact forall_mem_intercalate hs (List.forall_mem_map.mpr ht)

/-- The text has room in a column of the given width, and stays in it. -/
structure FitsIn (width : Nat) (s : String) : Prop where
  length : s.length ≤ width
  noControl : NoControl s.toList

instance (width : Nat) (s : String) : Decidable (FitsIn width s) :=
  decidable_of_iff (s.length ≤ width ∧ NoControl s.toList) ⟨fun h => ⟨h.1, h.2⟩, fun h => ⟨h.1, h.2⟩⟩

theorem FitsIn.append {v w : Nat} {s t : String} (hs : FitsIn v s) (ht : FitsIn w t) :
    FitsIn (v + w) (s ++ t) := by
  constructor
  · rw [String.length_append]
    exact Nat.add_le_add hs.length ht.length
  · simp [hs.noControl, ht.noControl]

theorem FitsIn.mono {v w : Nat} {s : String} (h : FitsIn v s) (hw : v ≤ w) : FitsIn w s :=
  ⟨Nat.le_trans h.length hw, h.noControl⟩

theorem fitsIn_ofList {s : List Char} (h : NoControl s) : FitsIn s.length (String.ofList s) := by
  constructor
  · simp
  · simpa using h

theorem noControl_blanks (n : Nat) : NoControl (List.replicate n ' ') := by
  intro c hc
  obtain rfl : c = ' ' := List.eq_of_mem_replicate hc
  decide

theorem FitsIn.padRight {width : Nat} {s : String} (h : FitsIn width s) :
    FitsIn width (padRight width s) ∧ (padRight width s).length = width := by
  have full : (Text.padRight width s).length = width := by
    rw [length_padRight, Nat.max_eq_left h.length]
  refine ⟨⟨Nat.le_of_eq full, ?_⟩, full⟩
  simp [Text.padRight, h.noControl, noControl_blanks]

theorem FitsIn.padLeft {width : Nat} {s : String} (h : FitsIn width s) :
    FitsIn width (padLeft width s) ∧ (padLeft width s).length = width := by
  have full : (Text.padLeft width s).length = width := by
    rw [length_padLeft, Nat.max_eq_left h.length]
  refine ⟨⟨Nat.le_of_eq full, ?_⟩, full⟩
  simp [Text.padLeft, h.noControl, noControl_blanks]

theorem bounds_of_mem_toString {n : Nat} {c : Char} (h : c ∈ (toString n).toList) :
    0x30 ≤ c.toNat ∧ c.toNat ≤ 0x39 := by
  have written : c ∈ Nat.toDigits 10 n := by simpa [Nat.repr] using h
  have digit : c.isDigit = true :=
    Nat.isDigit_of_mem_toDigits (by decide) (by decide) written
  simp only [Char.isDigit, Bool.and_eq_true, decide_eq_true_eq] at digit
  exact ⟨UInt32.le_iff_toNat_le.mp digit.1, UInt32.le_iff_toNat_le.mp digit.2⟩

/-- A number has room in as many places as the power of ten above it has zeros. -/
theorem fitsIn_toString {n width : Nat} (pos : 0 < width) (h : n < 10 ^ width) :
    FitsIn width (toString n) := by
  constructor
  · have digits := (Nat.length_toDigits_le_iff (by decide) pos).mpr h
    simpa [Nat.repr] using digits
  · intro c hc
    have := (bounds_of_mem_toString hc).1
    omega

theorem noControl_hexByte (b : Byte) : NoControl (hexByte b) := by
  have digit : ∀ n < 16, 0x20 ≤ (hexDigit n).toNat := by decide
  have hb := b.isLt
  intro c hc
  simp only [hexByte, List.mem_cons, List.not_mem_nil, or_false] at hc
  rcases hc with rfl | rfl
  · exact digit _ (by omega)
  · exact digit _ (by omega)

theorem fitsIn_hexByte (b : Byte) : FitsIn 2 (String.ofList (hexByte b)) :=
  fitsIn_ofList (noControl_hexByte b)

theorem fitsIn_hexWord (w : Word) : FitsIn 4 (String.ofList (hexWord w)) :=
  fitsIn_ofList (noControl_append.mpr ⟨noControl_hexByte w.hi, noControl_hexByte w.lo⟩)

theorem NoControl.lineFeed_not_mem {s : List Char} (h : NoControl s) : '\n' ∉ s :=
  fun hm => absurd (h _ hm) (by decide)

theorem NoControl.escape_not_mem {s : List Char} (h : NoControl s) : '\x1b' ∉ s :=
  fun hm => absurd (h _ hm) (by decide)

/-- The lines of a text, each of which is ended. -/
def lines (s : List Char) : List (List Char) := (s.splitOn '\n').dropLast

theorem splitOn_flatMap {ls : List (List Char)} (h : ∀ l ∈ ls, '\n' ∉ l) :
    (ls.flatMap (· ++ ['\n'])).splitOn '\n' = ls ++ [[]] := by
  induction ls with
  | nil => rfl
  | cons l ls ih =>
    obtain ⟨first, others⟩ := List.forall_mem_cons.mp h
    rw [List.flatMap_cons, List.append_assoc, List.singleton_append,
      List.splitOn_append_cons_self_of_not_mem first, ih others, List.cons_append]

theorem lines_flatMap {ls : List (List Char)} (h : ∀ l ∈ ls, '\n' ∉ l) :
    lines (ls.flatMap (· ++ ['\n'])) = ls := by
  rw [lines, splitOn_flatMap h, List.dropLast_concat]

/-- The bytes for which pairs of digits stand. Between the pairs there may be blanks. -/
def bytes? : List Char → Option (List Byte)
  | [] => some []
  | [c] => if c = ' ' then some [] else none
  | c :: d :: rest =>
    if c = ' ' then bytes? (d :: rest)
    else
      match hexValue? c, hexValue? d, bytes? rest with
      | some high, some low, some bytes => some (BitVec.ofNat 8 (16 * high + low) :: bytes)
      | _, _, _ => none

theorem bytes?_blank (s : List Char) : bytes? (' ' :: s) = bytes? s := by
  cases s with
  | nil => rfl
  | cons c s => rw [bytes?, if_pos rfl]

theorem bytes?_blanks (n : Nat) (s : List Char) :
    bytes? (List.replicate n ' ' ++ s) = bytes? s := by
  induction n with
  | zero => rfl
  | succ n ih => rw [List.replicate_succ, List.cons_append, bytes?_blank, ih]

theorem bytes?_hexByte (b : Byte) (s : List Char) :
    bytes? (hexByte b ++ s) = (bytes? s).map (b :: ·) := by
  have hb := b.isLt
  have digit : ∀ n < 16, hexDigit n ≠ ' ' := by decide
  have high := hexValue?_hexDigit (b.toNat / 16) (by omega)
  have low := hexValue?_hexDigit (b.toNat % 16) (by omega)
  have whole : BitVec.ofNat 8 (16 * (b.toNat / 16) + b.toNat % 16) = b := by
    rw [Nat.div_add_mod, BitVec.ofNat_toNat, BitVec.setWidth_eq]
  simp only [hexByte, List.cons_append, List.nil_append, bytes?,
    if_neg (digit (b.toNat / 16) (by omega)), high, low]
  cases bytes? s with
  | none => rfl
  | some bytes => exact congrArg (fun b => some (b :: bytes)) whole

def spaced (bytes : List Byte) : List Char := bytes.flatMap fun b => hexByte b ++ [' ']

theorem length_spaced (bytes : List Byte) : (spaced bytes).length = 3 * bytes.length := by
  induction bytes with
  | nil => rfl
  | cons b bytes ih =>
    rw [spaced, List.flatMap_cons, List.length_append, ← spaced, ih, List.length_append,
      length_hexByte, List.length_singleton, List.length_cons]
    omega

theorem noControl_spaced (bytes : List Byte) : NoControl (spaced bytes) := by
  induction bytes with
  | nil => exact fun _ h => absurd h List.not_mem_nil
  | cons b bytes ih =>
    rw [spaced, List.flatMap_cons, noControl_append, noControl_append]
    exact ⟨⟨noControl_hexByte b, by decide⟩, ih⟩

theorem bytes?_spaced (bytes : List Byte) (s : List Char) :
    bytes? (spaced bytes ++ s) = (bytes? s).map (bytes ++ ·) := by
  induction bytes with
  | nil => simp [spaced]
  | cons b bytes ih =>
    rw [spaced, List.flatMap_cons, List.append_assoc, List.append_assoc, bytes?_hexByte,
      List.singleton_append, bytes?_blank, ← spaced, ih, Option.map_map]
    rfl

/-- Bytes between blanks have one blank less than bytes that are each followed by a blank. -/
theorem toList_intercalate_append_blank {bytes : List Byte} (h : bytes ≠ []) :
    (String.intercalate " " (bytes.map fun b => String.ofList (hexByte b))).toList ++ [' '] =
      spaced bytes := by
  rw [String.toList_intercalate, List.map_map]
  induction bytes with
  | nil => exact absurd rfl h
  | cons b rest ih =>
    cases rest with
    | nil => simp [spaced]
    | cons c rest =>
      have later := ih (by simp)
      simpa [spaced, List.intercalate_cons_cons] using later

theorem toList_padRight_intercalate {bytes : List Byte} (h : bytes ≠ []) {width : Nat}
    (room : 3 * bytes.length ≤ width) :
    (padRight width
        (String.intercalate " " (bytes.map fun b => String.ofList (hexByte b)))).toList =
      spaced bytes ++ List.replicate (width - 3 * bytes.length) ' ' := by
  have front := toList_intercalate_append_blank h
  have long := congrArg List.length front
  rw [List.length_append, String.length_toList, length_spaced, List.length_singleton] at long
  generalize String.intercalate " " (bytes.map fun b => String.ofList (hexByte b)) = digits at *
  have blanks : width - digits.length = width - 3 * bytes.length + 1 := by omega
  rw [padRight, String.toList_append, String.toList_ofList, blanks, List.replicate_succ, ← front,
    List.append_assoc, List.singleton_append]

end Intel8080.Text
