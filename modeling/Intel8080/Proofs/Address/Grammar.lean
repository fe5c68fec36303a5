import Intel8080.Address
import Intel8080.Proofs.Text.Numerals
import Intel8080.Proofs.Text.Trimming

/-! The texts that write an address. A mark in front says that the numeral is hexadecimal, and a
numeral without a mark is decimal. A text that writes a number above FFFFH, or no number, is refused
and quoted, without the blanks around it. Main statement: `parse_exact`. -/
namespace Intel8080.Address

open Text

def hexMarks : List (List Char) := [['0', 'x'], ['0', 'X'], ['$']]

/-- The text, which has no blanks around it, writes a number. -/
def Denotes (t : List Char) (n : Nat) : Prop :=
  (∃ mark ∈ hexMarks, ∃ numeral, t = mark ++ numeral ∧ IsNumeral 16 numeral n) ∨
    (∀ mark ∈ hexMarks, ¬mark <+: t) ∧ IsNumeral 10 t n

section Marks
variable {t mark : List Char} {n : Nat}

theorem eq_of_marks_append {other s : List Char} (hm : mark ∈ hexMarks) (ho : other ∈ hexMarks)
    (h : mark ++ t = other ++ s) : t = s := by
  have apart : ∀ first ∈ hexMarks, ∀ second ∈ hexMarks, first <+: second → first = second := by
    decide
  have begins : other <+: mark ++ t := h ▸ List.prefix_append other s
  obtain rfl : mark = other := by
    rcases List.prefix_or_prefix_of_prefix (List.prefix_append mark t) begins with le | ge
    · exact apart mark hm other ho le
    · exact (apart other ho mark hm ge).symm
  exact List.append_cancel_left h

theorem denotes_append (hm : mark ∈ hexMarks) : Denotes (mark ++ t) n ↔ IsNumeral 16 t n := by
  constructor
  · rintro (⟨other, ho, numeral, h, writes⟩ | ⟨unmarked, -⟩)
    · rwa [eq_of_marks_append hm ho h]
    · exact absurd (List.prefix_append mark t) (unmarked mark hm)
  · exact fun h => .inl ⟨mark, hm, t, rfl, h⟩

theorem denotes_of_unmarked (h : ∀ mark ∈ hexMarks, ¬mark <+: t) :
    Denotes t n ↔ IsNumeral 10 t n := by
  constructor
  · rintro (⟨mark, hm, numeral, rfl, -⟩ | ⟨-, writes⟩)
    · exact absurd (List.prefix_append mark numeral) (h mark hm)
    · exact writes
  · exact fun writes => .inr ⟨h, writes⟩

theorem exists_mem_mark (hm : mark ∈ hexMarks) : ∃ c ∈ mark, c ≠ '+' ∧ hexValue? c = none := by
  have shape : mark = ['0', 'x'] ∨ mark = ['0', 'X'] ∨ mark = ['$'] := by simpa [hexMarks] using hm
  rcases shape with rfl | rfl | rfl
  · exact ⟨'x', by decide, by decide, by decide⟩
  · exact ⟨'X', by decide, by decide, by decide⟩
  · exact ⟨'$', by decide, by decide, by decide⟩

theorem denotes_of_writesNumber (h : WritesNumber 10 t n) (ne : t ≠ []) : Denotes t n := by
  refine (denotes_of_unmarked fun mark hm begins => ?_).mpr (h.isNumeral ne)
  obtain ⟨c, hc, -, noDigit⟩ := exists_mem_mark hm
  obtain ⟨d, digit⟩ := h.mem (begins.subset hc)
  simp [hexValue?_eq_some_iff.mpr (digit.mono (by decide))] at noDigit

theorem readNumeral_append (hm : mark ∈ hexMarks) :
    readNumeral (mark ++ t) = Text.readNumeral 16 0xFFFF t := by
  simp only [hexMarks, List.mem_cons, List.not_mem_nil, or_false] at hm
  rcases hm with rfl | rfl | rfl <;> rfl

theorem readNumeral_of_unmarked (h : ∀ mark ∈ hexMarks, ¬mark <+: t) :
    readNumeral t = Text.readNumeral 10 0xFFFF t := by
  have unmarked (mark : List Char) (hm : mark ∈ hexMarks) (rest : List Char) : t ≠ mark ++ rest :=
    fun e => h mark hm ⟨rest, e.symm⟩
  unfold readNumeral
  split
  · next rest => exact absurd rfl (unmarked ['0', 'x'] (by decide) rest)
  · next rest => exact absurd rfl (unmarked ['0', 'X'] (by decide) rest)
  · next rest => exact absurd rfl (unmarked ['$'] (by decide) rest)
  · rfl

theorem readNumeral_eq_ok_iff : readNumeral t = .ok n ↔ Denotes t n ∧ n ≤ 0xFFFF := by
  by_cases marked : ∃ mark ∈ hexMarks, mark <+: t
  · obtain ⟨mark, hm, numeral, rfl⟩ := marked
    rw [readNumeral_append hm, denotes_append hm]
    exact Text.readNumeral_eq_ok_iff (by decide) (by decide)
  · have unmarked : ∀ mark ∈ hexMarks, ¬mark <+: t := by simpa using marked
    rw [readNumeral_of_unmarked unmarked, denotes_of_unmarked unmarked]
    exact Text.readNumeral_eq_ok_iff (by decide) (by decide)

theorem Denotes.unique {m : Nat} (h : Denotes t m) (h' : Denotes t n) : m = n := by
  rcases h with ⟨mark, hm, numeral, rfl, writes⟩ | ⟨unmarked, writes⟩
  · exact writes.unique (by decide) (by decide) ((denotes_append hm).mp h')
  · exact writes.unique (by decide) (by decide) ((denotes_of_unmarked unmarked).mp h')

theorem Denotes.mem (h : Denotes t n) {c : Char} (hc : c ∈ t) :
    c ∈ ['x', 'X', '$', '+'] ∨ ∃ d, IsDigit 16 c d := by
  rcases h with ⟨mark, hm, numeral, rfl, writes⟩ | ⟨-, writes⟩
  · rcases List.mem_append.mp hc with hc | hc
    · have marks : ∀ mark ∈ hexMarks, mark ⊆ ['0', 'x', 'X', '$'] := by decide
      rcases List.mem_cons.mp (marks mark hm hc) with rfl | hc
      · exact .inr ⟨0, by decide⟩
      · exact .inl (List.mem_append_left ['+'] hc)
    · exact (writes.mem hc).imp_left fun h => by simp [h]
  · exact (writes.mem hc).imp (fun h => by simp [h]) fun ⟨d, digit⟩ => ⟨d, digit.mono (by decide)⟩

theorem Denotes.plain (h : Denotes t n) : '-' ∉ t ∧ NoBlank t := by
  have digits : ∀ d < 16, '-' ∉ [Nat.digitChar d, (Nat.digitChar d).toUpper] ∧
      NoBlank [Nat.digitChar d, (Nat.digitChar d).toUpper] := by decide
  have others : '-' ∉ ['x', 'X', '$', '+'] ∧ NoBlank ['x', 'X', '$', '+'] := by decide
  constructor
  · intro hc
    rcases h.mem hc with hc | ⟨d, less, hc⟩
    · exact others.1 hc
    · exact (digits d less).1 (by simpa using hc)
  · intro c hc
    rcases h.mem hc with hc | ⟨d, less, hc⟩
    · exact others.2 c hc
    · exact (digits d less).2 c (by simpa using hc)

theorem Denotes.trimmed (h : Denotes t n) : Trimmed t := h.plain.2.trimmed

/-- The text has no digits, or a minus sign or a blank in it, or two marks. -/
def Malformed (t : List Char) : Prop :=
  (∃ mark ∈ [] :: hexMarks, ∃ sign ∈ [[], ['+']], t = mark ++ sign) ∨
    (∃ c ∈ t, c = '-' ∨ isBlank c = true) ∨
    ∃ mark ∈ hexMarks, ∃ other ∈ hexMarks, mark ++ other <+: t

theorem Malformed.not_denotes (h : Malformed t) : ¬Denotes t n := by
  intro writes
  rcases h with ⟨mark, hm, sign, hs, rfl⟩ | ⟨c, hc, foreign⟩ | ⟨mark, hm, other, ho, rest, rfl⟩
  · have empty (radix : Nat) (small : radix ≤ 16) : ¬IsNumeral radix sign n :=
      not_isNumeral_sign small hs
    rcases List.mem_cons.mp hm with rfl | hm
    · have unmarked : ∀ sign ∈ [[], ['+']], ∀ mark ∈ hexMarks, ¬mark <+: sign := by decide
      exact empty 10 (by decide) ((denotes_of_unmarked (unmarked sign hs)).mp writes)
    · exact empty 16 (by decide) ((denotes_append hm).mp writes)
  · rcases foreign with rfl | blank
    · exact writes.plain.1 hc
    · simp [writes.plain.2 c hc] at blank
  · rw [List.append_assoc, denotes_append hm] at writes
    obtain ⟨c, hc, noSign, noDigit⟩ := exists_mem_mark ho
    rcases writes.mem (List.mem_append_left rest hc) with rfl | ⟨d, digit⟩
    · exact noSign rfl
    · simp [hexValue?_eq_some_iff.mpr digit] at noDigit

theorem parse_of_denotes {text : String} (h : Denotes (trim text.toList) n) (small : n ≤ 0xFFFF) :
    parse text = .ok (BitVec.ofNat 16 n) := by
  simp [parse, readNumeral_eq_ok_iff.mpr ⟨h, small⟩]

theorem parse_of_forall_lt {text : String} (h : ∀ n, Denotes (trim text.toList) n → 0xFFFF < n) :
    parse text = .error ⟨String.ofList (trim text.toList)⟩ := by
  cases hr : readNumeral (trim text.toList) with
  | ok n =>
    obtain ⟨writes, small⟩ := readNumeral_eq_ok_iff.mp hr
    exact absurd (h n writes) (Nat.not_lt.mpr small)
  | error e => simp [parse, hr]

theorem parse_eq_ok_iff {text : String} {w : Word} :
    parse text = .ok w ↔ Denotes (trim text.toList) w.toNat := by
  constructor
  · intro h
    by_cases reads : ∃ n ≤ 0xFFFF, Denotes (trim text.toList) n
    · obtain ⟨n, small, writes⟩ := reads
      rw [parse_of_denotes writes small, Except.ok.injEq] at h
      rwa [← h, BitVec.toNat_ofNat, Nat.mod_eq_of_lt (Nat.lt_succ_of_le small)]
    · rw [parse_of_forall_lt fun n hn => Nat.lt_of_not_le fun small => reads ⟨n, small, hn⟩] at h
      cases h
  · intro h
    rw [parse_of_denotes h (Nat.le_of_lt_succ w.isLt), BitVec.ofNat_toNat, BitVec.setWidth_eq]

theorem parse_eq_error_iff {text : String} {e : AddressError} :
    parse text = .error e ↔ e = ⟨String.ofList (trim text.toList)⟩ ∧
      ∀ n, Denotes (trim text.toList) n → 0xFFFF < n := by
  constructor
  · intro h
    have large (n : Nat) (hn : Denotes (trim text.toList) n) : 0xFFFF < n := by
      by_contra small
      rw [parse_of_denotes hn (Nat.le_of_not_lt small)] at h
      cases h
    rw [parse_of_forall_lt large] at h
    exact ⟨(Except.error.inj h).symm, large⟩
  · rintro ⟨rfl, large⟩
    exact parse_of_forall_lt large

end Marks

theorem parse_ofList_append {before after t : List Char} (hb : AllBlank before)
    (ha : AllBlank after) {w : Word} (h : Denotes t w.toNat) :
    parse (String.ofList (before ++ t ++ after)) = .ok w := by
  rw [parse_eq_ok_iff, String.toList_ofList, trim_append hb ha, h.trimmed.trim_eq]
  exact h

/-- A text is read as an address exactly if it writes one, with blanks around it or none, and any
other is refused and quoted, among them those that write no number for the reasons of `Malformed`
and those that write a number which is too large. So every address is read from its decimal
digits, and from its hexadecimal digits behind any mark, with zeros in front of the digits and
blanks around. -/
theorem parse_exact :
    (∀ text : String,
      let t := trim text.toList
      let refusal : AddressError := ⟨String.ofList t⟩
      (∀ w, parse text = .ok w ↔ Denotes t w.toNat) ∧
      (∀ e, parse text = .error e ↔ e = refusal ∧ ∀ n, Denotes t n → 0xFFFF < n) ∧
      (Malformed t → parse text = .error refusal) ∧
      (∀ n, Denotes t n → 0xFFFF < n → parse text = .error refusal) ∧
      refusal.message = "'" ++ String.ofList t ++ "' is not an address between 0 and 0xFFFF") ∧
    ∀ (w : Word) (zeros : Nat) (before after : List Char), AllBlank before → AllBlank after →
      parse (String.ofList (before ++ (List.replicate zeros '0' ++ Nat.toDigits 10 w.toNat) ++
        after)) = .ok w ∧
      ∀ mark ∈ hexMarks, ∀ letter ∈ [id, Char.toUpper],
        parse (String.ofList (before ++ (mark ++ (List.replicate zeros '0' ++
          (Nat.toDigits 16 w.toNat).map letter)) ++ after)) = .ok w := by
  refine ⟨fun text => ?_, fun w zeros before after hb ha => ⟨?_, fun mark hm letter hl => ?_⟩⟩
  · refine ⟨fun w => parse_eq_ok_iff, fun e => parse_eq_error_iff, fun malformed => ?_,
      fun n writes large => ?_, rfl⟩
    · exact parse_of_forall_lt fun n writes => absurd writes malformed.not_denotes
    · exact parse_of_forall_lt fun m other => other.unique writes ▸ large
  · have digits : WritesNumber 10 (Nat.toDigits 10 w.toNat) w.toNat := by
      simpa using writesNumber_toDigits (by decide) (by simp : id ∈ [id, Char.toUpper]) w.toNat
    have writes := denotes_of_writesNumber (digits.zeros (by decide) zeros) (by simp)
    exact parse_ofList_append hb ha writes
  · have digits := writesNumber_toDigits (by decide : 1 < 16) hl w.toNat
    have numeral : IsNumeral 16 _ w.toNat :=
      (digits.zeros (by decide) zeros).isNumeral (by simp)
    exact parse_ofList_append hb ha ((denotes_append hm).mpr numeral)

theorem denotes_lastAddress : Denotes "$+0fFfF".toList 0xFFFF ∧ Denotes "65536".toList 0x10000 := by
  have hex : WritesNumber 16 "0fFfF".toList 0xFFFF :=
    ⟨[0, 15, 15, 15, 15], by simp; decide, rfl⟩
  have decimal : WritesNumber 10 "65536".toList 0x10000 := ⟨[6, 5, 5, 3, 6], by simp; decide, rfl⟩
  refine ⟨.inl ⟨['$'], by decide, "+0fFfF".toList, rfl, ?_⟩, ?_⟩
  · exact (isNumeral_plus (by decide)).mpr ⟨by decide, hex⟩
  · exact denotes_of_writesNumber decimal (by decide)

/-- The last address is read in several spellings. The number behind it is refused, and so is an
address with two marks. -/
theorem lastAddress_exact :
    parse " $+0fFfF\t" = .ok 0xFFFF ∧
    parse "65536 " = .error ⟨"65536"⟩ ∧
    parse "0x$1" = .error ⟨"0x$1"⟩ ∧
    AllBlank ['\t', ' '] ∧
    parse (String.ofList (['\t', ' '] ++ (['0', 'X'] ++ (List.replicate 3 '0' ++
      (Nat.toDigits 16 0xFFFF).map Char.toUpper)) ++ [])) = .ok 0xFFFF := by
  obtain ⟨exact, renderings⟩ := parse_exact
  obtain ⟨hex, decimal⟩ := denotes_lastAddress
  have blank : AllBlank ['\t', ' '] := by decide
  have trimmed : trim " $+0fFfF\t".toList = "$+0fFfF".toList ∧
      trim "65536 ".toList = "65536".toList ∧ trim "0x$1".toList = "0x$1".toList := by decide
  obtain ⟨first, -⟩ := exact " $+0fFfF\t"
  obtain ⟨-, -, -, large, -⟩ := exact "65536 "
  obtain ⟨-, -, malformed, -⟩ := exact "0x$1"
  rw [trimmed.1] at first
  rw [trimmed.2.1] at large
  rw [trimmed.2.2] at malformed
  obtain ⟨-, marked⟩ := renderings 0xFFFF 3 _ [] blank allBlank_nil
  refine ⟨(first _).mpr hex, large _ decimal (by decide), malformed (.inr (.inr ?_)), blank,
    marked ['0', 'X'] (by decide) Char.toUpper (by simp)⟩
  exact ⟨['0', 'x'], by decide, ['$'], by decide, by decide⟩

end Intel8080.Address
