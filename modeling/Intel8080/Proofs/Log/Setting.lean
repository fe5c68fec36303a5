import Intel8080.Log.Setting
import Intel8080.Proofs.Text.Numerals
import Intel8080.Proofs.Text.Trimming

/-! The level of the log is set once. It can be used when it was made and not before, the first
attempt to make it decides, and what is refused changes nothing, so that a sequence of requests is
answered with one level from there on. This is the level for which the variable asks, by its name
in letters of either case or by its number. Main statement: `respondAll_once`. -/
namespace Intel8080.Log

namespace Level

/-- The word is the name of the level in letters of either case. -/
def Names (level : Level) (word : List Char) : Prop :=
  List.Forall₂ (fun c letter => c = letter ∨ c = letter.toLower) word level.name.toList

/-- The word is the name of the level, or a numeral of its number. -/
def Spells (level : Level) (word : List Char) : Prop :=
  level.Names word ∨ Text.IsNumeral 10 word level.rank

/-- The text spells the level, with nothing but blanks around the word. -/
def AskedBy (level : Level) (text : String) : Prop :=
  ∃ before word after, Text.AllBlank before ∧ Text.AllBlank after ∧
    text.toList = before ++ word ++ after ∧ level.Spells word

/-- The variable fixes the level: its text asks for the level, or the level is `warn` and there is
no text that asks for one. -/
def FixedBy (level : Level) (value? : Option String) : Prop :=
  (∃ text ∈ value?, level.AskedBy text) ∨
    level = .warn ∧ ∀ text ∈ value?, ∀ other : Level, ¬other.AskedBy text

theorem mem_all (level : Level) : level ∈ all := by
  cases level <;> decide

theorem rank_injective : Function.Injective rank := by
  intro l m h
  cases l <;> cases m <;> first | rfl | cases h

theorem name_injective : Function.Injective fun level : Level => level.name.toList := by
  intro l m h
  cases l <;> cases m <;> first | rfl | exact absurd h (by decide)

theorem find?_all_eq_some_iff {α : Type} [BEq α] [LawfulBEq α] {key : Level → α}
    (injective : Function.Injective key) {x : α} {level : Level} :
    all.find? (key · == x) = some level ↔ key level = x := by
  constructor
  · intro found
    simpa using List.find?_some found
  · rintro rfl
    have found : (all.find? (key · == key level)).isSome := by
      rw [List.find?_isSome]
      exact ⟨level, mem_all level, by simp⟩
    obtain ⟨other, found⟩ := Option.isSome_iff_exists.mp found
    have same : key other = key level := by simpa using List.find?_some found
    rw [found, injective same]

/-- Making capitals changes letters to the same letters only. -/
theorem eq_or_eq_toLower_toUpper (c : Char) : c = c.toUpper ∨ c = c.toUpper.toLower := by
  by_cases small : 'a'.val ≤ c.val ∧ c.val ≤ 'z'.val
  · have below : c.toNat < 123 :=
      Nat.lt_of_le_of_lt (UInt32.le_iff_toNat_le.mp small.2) (by decide)
    have table : ∀ n < 123, Char.ofNat n = (Char.ofNat n).toUpper ∨
        Char.ofNat n = (Char.ofNat n).toUpper.toLower := by decide
    simpa using table c.toNat below
  · left
    delta Char.toUpper
    rw [dif_neg small]

theorem map_toUpper_eq_iff (level : Level) {word : List Char} :
    word.map Char.toUpper = level.name.toList ↔ level.Names word := by
  have capitals : ∀ letter ∈ level.name.toList,
      letter.toUpper = letter ∧ letter.toLower.toUpper = letter := by
    cases level <;> simp [name]
  constructor
  · intro same
    rw [Names, ← same, List.forall₂_map_right_iff, List.forall₂_same]
    exact fun c _ => eq_or_eq_toLower_toUpper c
  · rw [Names]
    generalize level.name.toList = name at capitals
    intro spelt
    induction spelt with
    | nil => rfl
    | cons first _ ih =>
      rw [List.forall_mem_cons] at capitals
      rw [List.map_cons, ih capitals.2]
      obtain rfl | rfl := first
      · rw [capitals.1.1]
      · rw [capitals.1.2]

theorem Names.exists_letter {level : Level} {word : List Char} (h : level.Names word) {c : Char}
    (hc : c ∈ word) : ∃ letter ∈ level.name.toList, c = letter ∨ c = letter.toLower := by
  obtain ⟨n, hn, rfl⟩ := List.getElem_of_mem hc
  obtain ⟨same, letters⟩ := List.forall₂_iff_get.mp h
  exact ⟨_, List.get_mem _ ⟨n, same ▸ hn⟩, letters n hn (same ▸ hn)⟩

theorem Names.plain {level : Level} {word : List Char} (h : level.Names word) {c : Char}
    (hc : c ∈ word) : c.isAlpha = true ∧ Text.isBlank c = false := by
  have letters : level.name.toList.all fun letter =>
      [letter, letter.toLower].all fun c => c.isAlpha && !Text.isBlank c := by
    cases level <;> decide
  obtain ⟨letter, name, same⟩ := h.exists_letter hc
  have both := List.all_eq_true.mp letters letter name
  simpa using List.all_eq_true.mp both c (by simpa using same)

theorem not_isNumeral_of_name {level : Level} {word : List Char} {n : Nat}
    (h : level.Names word) : ¬Text.IsNumeral 10 word n := by
  intro numeral
  have digits : ∀ d < 10, (Nat.digitChar d).isAlpha = false ∧
      (Nat.digitChar d).toUpper.isAlpha = false := by decide
  have nonempty : word ≠ [] := by
    rintro rfl
    have same := h.length_eq
    revert same
    cases level <;> decide
  obtain ⟨c, rest, rfl⟩ := List.exists_cons_of_ne_nil nonempty
  obtain ⟨alpha, -⟩ := h.plain List.mem_cons_self
  obtain rfl | ⟨d, small, rfl | rfl⟩ := numeral.mem List.mem_cons_self
  · exact absurd alpha (by decide)
  · simp [(digits d small).1] at alpha
  · simp [(digits d small).2] at alpha

theorem Spells.noBlank {level : Level} {word : List Char} (h : level.Spells word) :
    Text.NoBlank word := by
  intro c hc
  have digits : ∀ d < 10, Text.NoBlank [Nat.digitChar d, (Nat.digitChar d).toUpper] := by decide
  obtain name | numeral := h
  · exact (name.plain hc).2
  · obtain rfl | ⟨d, small, same⟩ := numeral.mem hc
    · decide
    · exact digits d small c (by simpa using same)

theorem ofWord?_eq_some_iff {word : List Char} {level : Level} :
    ofWord? word = some level ↔ level.Spells word := by
  have small : level.rank ≤ 0xFFFFFFFFFFFFFFFF := by cases level <;> decide
  have reads {n : Nat} : Text.readNumeral 10 0xFFFFFFFFFFFFFFFF word = .ok n ↔
      Text.IsNumeral 10 word n ∧ n ≤ 0xFFFFFFFFFFFFFFFF :=
    Text.readNumeral_eq_ok_iff (by decide) (by decide)
  rw [ofWord?, Spells]
  cases read : Text.readNumeral 10 0xFFFFFFFFFFFFFFFF word with
  | ok n =>
    obtain ⟨numeral, -⟩ := reads.mp read
    simp only [find?_all_eq_some_iff rank_injective]
    constructor
    · rintro rfl
      exact .inr numeral
    · rintro (name | other)
      · exact absurd numeral (not_isNumeral_of_name name)
      · exact other.unique (by decide) (by decide) numeral
  | error e =>
    have none : ¬Text.IsNumeral 10 word level.rank := fun numeral => by
      rw [reads.mpr ⟨numeral, small⟩] at read
      cases read
    rw [or_iff_left none, ← map_toUpper_eq_iff, eq_comm (b := level.name.toList)]
    exact find?_all_eq_some_iff name_injective

theorem askedBy_iff {level : Level} {text : String} :
    level.AskedBy text ↔ level.Spells (Text.trim text.toList) := by
  constructor
  · rintro ⟨before, word, after, hb, ha, whole, spells⟩
    have trims := Text.trim_eq_iff.mpr ⟨spells.noBlank.trimmed, before, after, hb, ha, whole⟩
    rwa [trims]
  · intro spells
    obtain ⟨-, before, after, hb, ha, whole⟩ :=
      Text.trim_eq_iff.mp (rfl : Text.trim text.toList = _)
    exact ⟨before, _, after, hb, ha, whole, spells⟩

theorem parse?_eq_some_iff {text : String} {level : Level} :
    parse? text = some level ↔ level.AskedBy text :=
  ofWord?_eq_some_iff.trans askedBy_iff.symm

theorem fixedBy_iff {value? : Option String} {level : Level} :
    level.FixedBy value? ↔ level = ofVariable value? := by
  simp only [FixedBy, ← parse?_eq_some_iff, ofVariable]
  cases value? with
  | none => simp
  | some text =>
    cases read : parse? text with
    | none => simp [read]
    | some other => simp [read, eq_comm]

end Level

def Level.answer (level : Level) : Request → Response
  | .make _ => .refused .alreadyMade
  | .use => .used level

theorem Setting.respond_some_eq (level : Level) (r : Request) :
    Setting.respond (some level) r = (level.answer r, some level) := by
  cases r <;> rfl

theorem Setting.respondAll_some (level : Level) (requests : List Request) :
    Setting.respondAll (some level) requests = requests.map level.answer := by
  induction requests with
  | nil => rfl
  | cons r rs ih => rw [respondAll, respond_some_eq, ih, List.map_cons]

/-- The first attempt to make the level decides. Before it the level cannot be used. From there on
it is used as it was made, and every further attempt is refused and changes nothing. -/
theorem Setting.respondAll_once (requests : List Request) :
    (∃ n, requests = List.replicate n .use ∧
      respondAll none requests = List.replicate n (.refused .notMade)) ∨
    ∃ n value? later level, requests = List.replicate n .use ++ .make value? :: later ∧
      (∀ other : Level, other.FixedBy value? ↔ other = level) ∧
      respondAll none requests =
        List.replicate n (.refused .notMade) ++ .made :: later.map level.answer := by
  induction requests with
  | nil => exact .inl ⟨0, rfl, rfl⟩
  | cons r rs ih =>
    cases r with
    | make value? =>
      refine .inr ⟨0, value?, rs, .ofVariable value?, rfl, fun _ => Level.fixedBy_iff, ?_⟩
      exact congrArg (.made :: ·) (respondAll_some _ rs)
    | use =>
      have refused : respondAll none (.use :: rs) = .refused .notMade :: respondAll none rs := rfl
      rw [refused]
      obtain ⟨n, uses, responses⟩ | ⟨n, value?, later, level, asked, fixed, responses⟩ := ih
      · exact .inl ⟨n + 1, by rw [uses]; rfl, by rw [responses]; rfl⟩
      · exact .inr ⟨n + 1, value?, later, level, by rw [asked]; rfl, fixed, by rw [responses]; rfl⟩

/-- The level is asked for with blanks around its name, and the number of another one comes too
late. -/
theorem Setting.respondAll_debug :
    respondAll none [.use, .make (some " Debug\n"), .make (some "+1"), .use] =
      [.refused .notMade, .made, .refused .alreadyMade, .used .debug] := by
  have debug : Level.debug.FixedBy (some " Debug\n") :=
    .inl ⟨_, rfl, [' '], ['D', 'e', 'b', 'u', 'g'], ['\n'], by decide, by decide, rfl,
      .inl (by simp [Level.Names, Level.name])⟩
  obtain ⟨n, uses, -⟩ | ⟨n, value?, later, level, asked, fixed, responses⟩ :=
    respondAll_once [.use, .make (some " Debug\n"), .make (some "+1"), .use]
  · have made : Request.make (some " Debug\n") ∈ List.replicate n .use := by
      rw [← uses]
      decide
    cases List.eq_of_mem_replicate made
  · obtain _ | _ | n := n
    · cases asked
    · cases asked
      rw [responses, (fixed .debug).mp debug]
      rfl
    · cases asked

end Intel8080.Log
