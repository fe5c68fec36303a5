import Intel8080.Text.Numeral
import Mathlib.Data.List.Forall2
import Mathlib.Data.Nat.Digits.Defs
import Mathlib.Tactic.Ring

/-! Numerals as texts that write a number. A numeral is a sequence of digits, which may have a plus
sign in front; its number is the sum of its digits by their places. Reading accepts exactly the
numerals of the numbers up to the largest one, whatever zeros stand in front of them. -/
namespace Intel8080.Text

/-- The character is a digit of the radix. The digits from ten on are letters of either case. -/
def IsDigit (radix : Nat) (c : Char) (d : Nat) : Prop :=
  d < radix ∧ (c = Nat.digitChar d ∨ c = (Nat.digitChar d).toUpper)

instance (radix : Nat) (c : Char) (d : Nat) : Decidable (IsDigit radix c d) :=
  inferInstanceAs (Decidable (_ ∧ _))

theorem IsDigit.mono {radix larger : Nat} {c : Char} {d : Nat} (h : IsDigit radix c d)
    (le : radix ≤ larger) : IsDigit larger c d :=
  ⟨Nat.lt_of_lt_of_le h.1 le, h.2⟩

/-- The text is the digits of a number, the most significant digit first. -/
def WritesNumber (radix : Nat) (s : List Char) (n : Nat) : Prop :=
  ∃ digits, List.Forall₂ (IsDigit radix) s digits ∧ n = Nat.ofDigits radix digits.reverse

/-- The text is one digit or more of a number, behind one plus sign at most. -/
def IsNumeral (radix : Nat) (s : List Char) (n : Nat) : Prop :=
  ∃ sign digits, sign ∈ [[], ['+']] ∧ s = sign ++ digits ∧ digits ≠ [] ∧
    WritesNumber radix digits n

theorem lt_of_hexValue? {c : Char} {d : Nat} (h : hexValue? c = some d) : c.toNat < 103 := by
  by_contra large
  have above {last : Char} (hl : last.toNat < 103) : ¬c ≤ last := fun hc =>
    large (Nat.lt_of_le_of_lt (UInt32.le_iff_toNat_le.mp (Char.le_def.mp hc)) hl)
  have decimal : ¬c ≤ '9' := above (by decide)
  have lower : ¬c ≤ 'f' := above (by decide)
  have upper : ¬c ≤ 'F' := above (by decide)
  simp [hexValue?, decimal, lower, upper] at h

theorem hexValue?_eq_some_iff {c : Char} {d : Nat} : hexValue? c = some d ↔ IsDigit 16 c d := by
  constructor
  · intro h
    have table : ∀ n < 103, ∀ d ∈ hexValue? (Char.ofNat n), IsDigit 16 (Char.ofNat n) d := by
      decide
    have row := table c.toNat (lt_of_hexValue? h) d
    rw [Char.ofNat_toNat] at row
    exact row h
  · have table : ∀ d < 16, hexValue? (Nat.digitChar d) = some d ∧
        hexValue? (Nat.digitChar d).toUpper = some d := by decide
    rintro ⟨hd, rfl | rfl⟩
    · exact (table d hd).1
    · exact (table d hd).2

section Radix
variable {radix : Nat} {c : Char} {s : List Char} {n : Nat}

theorem digit?_eq_some_iff (small : radix ≤ 16) {d : Nat} :
    digit? radix c = some d ↔ IsDigit radix c d := by
  simp only [digit?, Option.filter_eq_some_iff, hexValue?_eq_some_iff, IsDigit, decide_eq_true_eq]
  constructor
  · rintro ⟨⟨-, h⟩, hd⟩
    exact ⟨hd, h⟩
  · rintro ⟨hd, h⟩
    exact ⟨⟨by omega, h⟩, hd⟩

@[simp] theorem writesNumber_nil : WritesNumber radix [] n ↔ n = 0 := by
  simp [WritesNumber]

theorem writesNumber_cons : WritesNumber radix (c :: s) n ↔
    ∃ d k, IsDigit radix c d ∧ WritesNumber radix s k ∧ n = d * radix ^ s.length + k := by
  simp only [WritesNumber, List.forall₂_cons_left_iff]
  constructor
  · rintro ⟨_, ⟨d, digits, first, rest, rfl⟩, rfl⟩
    refine ⟨d, _, first, ⟨digits, rest, rfl⟩, ?_⟩
    rw [Nat.ofDigits_reverse_cons, rest.length_eq]
    ring
  · rintro ⟨d, _, first, ⟨digits, rest, rfl⟩, rfl⟩
    refine ⟨_, ⟨d, digits, first, rest, rfl⟩, ?_⟩
    rw [Nat.ofDigits_reverse_cons, rest.length_eq]
    ring

theorem WritesNumber.mem (h : WritesNumber radix s n) (hc : c ∈ s) : ∃ d, IsDigit radix c d := by
  induction s generalizing n with
  | nil => exact absurd hc List.not_mem_nil
  | cons first s ih =>
    obtain ⟨d, k, digit, rest, -⟩ := writesNumber_cons.mp h
    rcases List.mem_cons.mp hc with rfl | hc
    · exact ⟨d, digit⟩
    · exact ih rest hc

theorem WritesNumber.append {d : Nat} (h : WritesNumber radix s n) (hc : IsDigit radix c d) :
    WritesNumber radix (s ++ [c]) (n * radix + d) := by
  obtain ⟨digits, hs, rfl⟩ := h
  refine ⟨digits ++ [d], List.rel_append hs (.cons hc .nil), ?_⟩
  rw [List.reverse_append, List.reverse_singleton, List.singleton_append, Nat.ofDigits_cons]
  ring

theorem WritesNumber.zeros (pos : 0 < radix) (h : WritesNumber radix s n) (zeros : Nat) :
    WritesNumber radix (List.replicate zeros '0' ++ s) n := by
  induction zeros with
  | zero => exact h
  | succ zeros ih =>
    have zero : IsDigit radix '0' 0 := ⟨pos, .inl rfl⟩
    exact writesNumber_cons.mpr ⟨0, n, zero, ih, by simp⟩

theorem writesNumber_toDigits (big : 1 < radix) {letter : Char → Char}
    (hl : letter ∈ [id, Char.toUpper]) (n : Nat) :
    WritesNumber radix ((Nat.toDigits radix n).map letter) n := by
  have digit {d : Nat} (hd : d < radix) : IsDigit radix (letter (Nat.digitChar d)) d := by
    simp only [List.mem_cons, List.not_mem_nil, or_false] at hl
    rcases hl with rfl | rfl
    · exact ⟨hd, .inl rfl⟩
    · exact ⟨hd, .inr rfl⟩
  induction n using Nat.strong_induction_on with
  | _ n ih =>
    by_cases small : n < radix
    · rw [Nat.toDigits_of_lt_base small]
      exact writesNumber_cons.mpr ⟨n, 0, digit small, by simp, by simp⟩
    · have large : radix ≤ n := Nat.le_of_not_lt small
      have less : n / radix < n := Nat.div_lt_self (by omega) big
      have last := (ih _ less).append (digit (Nat.mod_lt n (by omega)))
      rw [Nat.toDigits_of_base_le big large, List.map_append]
      rwa [Nat.div_add_mod'] at last

/-- A number that has grown too large does not become smaller by further digits, so that it does not
matter when it is found to be. -/
theorem readDigits_eq_ok_iff (small : radix ≤ 16) (pos : 0 < radix) {largest m : Nat}
    (hn : n ≤ largest) : readDigits radix largest n s = .ok m ↔
      m ≤ largest ∧ ∃ k, WritesNumber radix s k ∧ m = n * radix ^ s.length + k := by
  induction s generalizing n with
  | nil =>
    simp only [readDigits, Except.ok.injEq, writesNumber_nil]
    constructor
    · rintro rfl
      exact ⟨hn, 0, rfl, by simp⟩
    · rintro ⟨-, _, rfl, rfl⟩
      simp
  | cons c s ih =>
    rw [readDigits]
    cases hd : digit? radix c with
    | none =>
      simp only [reduceCtorEq, false_iff]
      rintro ⟨-, _, writes, -⟩
      obtain ⟨d, -, digit, -⟩ := writesNumber_cons.mp writes
      simp [(digit?_eq_some_iff small).mpr digit] at hd
    | some d =>
      have digit : IsDigit radix c d := (digit?_eq_some_iff small).mp hd
      have only {e : Nat} (he : IsDigit radix c e) : e = d := by
        have := (digit?_eq_some_iff small).mpr he
        exact Option.some.inj (this.symm.trans hd)
      by_cases room : n * radix + d ≤ largest
      · simp only [if_pos room, ih room, writesNumber_cons]
        refine and_congr_right fun _ => ⟨?_, ?_⟩
        · rintro ⟨k, writes, rfl⟩
          refine ⟨_, ⟨d, k, digit, writes, rfl⟩, ?_⟩
          rw [List.length_cons]
          ring
        · rintro ⟨_, ⟨e, k, he, writes, rfl⟩, rfl⟩
          refine ⟨k, writes, ?_⟩
          rw [only he, List.length_cons]
          ring
      · simp only [if_neg room, reduceCtorEq, false_iff]
        rintro ⟨hm, _, writes, rfl⟩
        obtain ⟨e, k, he, -, rfl⟩ := writesNumber_cons.mp writes
        have grown : n * radix + d ≤ (n * radix + d) * radix ^ s.length :=
          Nat.le_mul_of_pos_right _ (Nat.pow_pos pos)
        have whole : n * radix ^ (c :: s).length + (e * radix ^ s.length + k) =
            (n * radix + d) * radix ^ s.length + k := by
          rw [only he, List.length_cons]
          ring
        omega

theorem not_isDigit_plus (small : radix ≤ 16) (d : Nat) : ¬IsDigit radix '+' d := by
  intro h
  have value := (digit?_eq_some_iff small).mpr h
  have none : hexValue? '+' = none := by decide
  simp [digit?, none] at value

theorem WritesNumber.isNumeral (h : WritesNumber radix s n) (ne : s ≠ []) : IsNumeral radix s n :=
  ⟨[], s, by simp, rfl, ne, h⟩

theorem isNumeral_plus (small : radix ≤ 16) :
    IsNumeral radix ('+' :: s) n ↔ s ≠ [] ∧ WritesNumber radix s n := by
  constructor
  · rintro ⟨sign, digits, hs, eq, ne, writes⟩
    simp only [List.mem_cons, List.not_mem_nil, or_false] at hs
    rcases hs with rfl | rfl
    · obtain rfl : digits = '+' :: s := eq.symm
      obtain ⟨d, -, digit, -⟩ := writesNumber_cons.mp writes
      exact absurd digit (not_isDigit_plus small d)
    · obtain rfl : s = digits := by simpa using eq
      exact ⟨ne, writes⟩
  · rintro ⟨ne, writes⟩
    exact ⟨['+'], s, by simp, rfl, ne, writes⟩

theorem isNumeral_of_ne_plus (first : s.head? ≠ some '+') :
    IsNumeral radix s n ↔ s ≠ [] ∧ WritesNumber radix s n := by
  constructor
  · rintro ⟨sign, digits, hs, rfl, ne, writes⟩
    simp only [List.mem_cons, List.not_mem_nil, or_false] at hs
    rcases hs with rfl | rfl
    · exact ⟨ne, writes⟩
    · simp at first
  · rintro ⟨ne, writes⟩
    exact writes.isNumeral ne

theorem not_isNumeral_sign (small : radix ≤ 16) {sign : List Char} (hs : sign ∈ [[], ['+']]) :
    ¬IsNumeral radix sign n := by
  simp only [List.mem_cons, List.not_mem_nil, or_false] at hs
  rcases hs with rfl | rfl
  · exact fun h => ((isNumeral_of_ne_plus (by simp)).mp h).1 rfl
  · exact fun h => ((isNumeral_plus small).mp h).1 rfl

theorem IsNumeral.mem (h : IsNumeral radix s n) (hc : c ∈ s) : c = '+' ∨ ∃ d, IsDigit radix c d := by
  obtain ⟨sign, digits, hs, rfl, -, writes⟩ := h
  rcases List.mem_append.mp hc with hc | hc
  · simp only [List.mem_cons, List.not_mem_nil, or_false] at hs
    rcases hs with rfl | rfl
    · exact absurd hc List.not_mem_nil
    · exact .inl (List.mem_singleton.mp hc)
  · exact .inr (writes.mem hc)

/-- Reading accepts the numerals of the numbers that are not too large. -/
theorem readNumeral_eq_ok_iff (small : radix ≤ 16) (pos : 0 < radix) {largest : Nat} :
    readNumeral radix largest s = .ok n ↔ IsNumeral radix s n ∧ n ≤ largest := by
  have digits {s : List Char} : readDigits radix largest 0 s = .ok n ↔
      WritesNumber radix s n ∧ n ≤ largest := by
    rw [readDigits_eq_ok_iff small pos (Nat.zero_le _), and_comm]
    simp
  cases s with
  | nil =>
    have none : ¬IsNumeral radix [] n := not_isNumeral_sign small (by simp)
    simp [readNumeral, none]
  | cons c s =>
    by_cases plus : c = '+'
    · subst plus
      rw [isNumeral_plus small]
      cases s with
      | nil => simp [readNumeral]
      | cons d s => simp [readNumeral, digits]
    · have first : (c :: s).head? ≠ some '+' := by simpa using plus
      have read : readNumeral radix largest (c :: s) = readDigits radix largest 0 (c :: s) := by
        rw [readNumeral]
        · simp
        · simp [plus]
        · simp [plus]
      simp [isNumeral_of_ne_plus first, read, digits]

theorem IsNumeral.unique (small : radix ≤ 16) (pos : 0 < radix) {m : Nat}
    (hm : IsNumeral radix s m) (hn : IsNumeral radix s n) : m = n := by
  -- both are what a reading gives that accepts the larger of them
  have first := (readNumeral_eq_ok_iff small pos).mpr ⟨hm, Nat.le_max_left m n⟩
  have second := (readNumeral_eq_ok_iff small pos).mpr ⟨hn, Nat.le_max_right m n⟩
  exact Except.ok.inj (first.symm.trans second)

end Radix
end Intel8080.Text
