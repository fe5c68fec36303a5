import Intel8080.FeatureSet
import Intel8080.Proofs.Text.Trimming
import Mathlib.Data.List.Induction
import Mathlib.Data.List.Nodup

/-! The words of a feature list. Reading keeps the set that the words so far name. It ends well if
all words are names and none is there twice, and otherwise at the first word that is no name or that
has been there before. -/
namespace Intel8080

open Text

namespace Group

def names : List (List Char) :=
  ["io", "interrupt", "restart", "decimal", "undocumented"].map String.toList

theorem mem_names_iff {word : List Char} :
    word ∈ names ↔ ∃ g ∈ optional, g.name.toList = word := by
  have each : names = optional.map fun g => g.name.toList := rfl
  rw [each, List.mem_map]

theorem named?_eq_none_iff {word : List Char} : named? word = none ↔ word ∉ names := by
  simp [named?, mem_names_iff]

theorem named?_eq_some_iff {word : List Char} {g : Group} :
    named? word = some g ↔ g ≠ .base ∧ g.name.toList = word := by
  constructor
  · intro h
    exact ⟨(mem_optional_iff g).mp (List.mem_of_find?_eq_some h), by simpa using List.find?_some h⟩
  · rintro ⟨ne, rfl⟩
    cases g with
    | base => exact absurd rfl ne
    | _ => rfl

theorem eq_of_name_eq {g h : Group} (hg : g ≠ .base) (hh : h ≠ .base)
    (e : g.name.toList = h.name.toList) : g = h :=
  Option.some.inj ((named?_eq_some_iff.mpr ⟨hg, e⟩).symm.trans (named?_eq_some_iff.mpr ⟨hh, rfl⟩))

theorem word_of_mem_names {word : List Char} (h : word ∈ names) :
    word ≠ [] ∧ NoBlank word ∧ ',' ∉ word := by
  have all : ∀ word ∈ names, word ≠ [] ∧ NoBlank word ∧ ',' ∉ word := by decide
  exact all word h

end Group

namespace FeatureSet

/-- The words are names, none of them twice. -/
structure Proper (words : List (List Char)) : Prop where
  names : ∀ w ∈ words, w ∈ Group.names
  nodup : words.Nodup

/-- The set consists of the base group and the groups that are named. -/
def Holds (s : FeatureSet) (words : List (List Char)) : Prop :=
  ∀ g, s.enables g = true ↔ g = .base ∨ g.name.toList ∈ words

section Words
variable {s r : FeatureSet} {words seen : List (List Char)} {word : List Char}

theorem Holds.unique (h : r.Holds words) (h' : s.Holds words) : r = s :=
  ext_enables fun g => Bool.eq_iff_iff.mpr ((h g).trans (h' g).symm)

theorem Holds.congr {order : List (List Char)} (h : r.Holds words)
    (same : ∀ w, w ∈ order ↔ w ∈ words) : r.Holds order := by
  intro g
  rw [h g, same]

theorem holds_minimal : minimal.Holds [] := by
  intro g
  simp

theorem holds_nil_iff : r.Holds [] ↔ r = minimal :=
  ⟨fun h => h.unique holds_minimal, fun h => h ▸ holds_minimal⟩

theorem proper_nil : Proper [] := ⟨by simp, List.nodup_nil⟩

theorem proper_append_singleton :
    Proper (seen ++ [word]) ↔ Proper seen ∧ word ∈ Group.names ∧ word ∉ seen := by
  constructor
  · rintro ⟨names, nodup⟩
    rw [List.nodup_append_comm, List.singleton_append, List.nodup_cons] at nodup
    exact ⟨⟨fun w hw => names w (by simp [hw]), nodup.2⟩, names word (by simp), nodup.1⟩
  · rintro ⟨⟨names, nodup⟩, name, fresh⟩
    refine ⟨fun w hw => ?_, ?_⟩
    · rcases List.mem_append.mp hw with hw | hw
      · exact names w hw
      · rwa [List.mem_singleton.mp hw]
    · rw [List.nodup_append_comm, List.singleton_append, List.nodup_cons]
      exact ⟨fresh, nodup⟩

theorem Proper.perm {order : List (List Char)} (h : Proper words) (perm : order.Perm words) :
    Proper order :=
  ⟨fun w hw => h.names w (perm.mem_iff.mp hw), perm.nodup_iff.mpr h.nodup⟩

/-- What an error says of the word that was met behind others. -/
def Reports (seen : List (List Char)) (word : List Char) (e : FeatureError) : Prop :=
  (word ∉ Group.names ∧ e = .unknown (String.ofList word)) ∨
    (word ∈ seen ∧ e = .repeated (String.ofList word))

/-- Words that are not proper have a first one of which there is something to be reported. -/
theorem proper_or_exists_reports (words : List (List Char)) : Proper words ∨
    ∃ first word rest e, words = first ++ word :: rest ∧ Proper first ∧ Reports first word e := by
  induction words using List.reverseRecOn with
  | nil => exact .inl proper_nil
  | append_singleton words last ih =>
    rcases ih with proper | ⟨first, word, rest, e, rfl, proper, reports⟩
    · by_cases name : last ∈ Group.names
      · by_cases again : last ∈ words
        · exact .inr ⟨words, last, [], _, rfl, proper, .inr ⟨again, rfl⟩⟩
        · exact .inl (proper_append_singleton.mpr ⟨proper, name, again⟩)
      · exact .inr ⟨words, last, [], _, rfl, proper, .inl ⟨name, rfl⟩⟩
    · exact .inr ⟨first, word, rest ++ [last], e, by simp, proper, reports⟩

theorem addNames_of_fresh (proper : Proper (seen ++ [word])) (holds : s.Holds seen)
    (words : List (List Char)) :
    ∃ t : FeatureSet, t.Holds (seen ++ [word]) ∧ addNames s (word :: words) = addNames t words := by
  obtain ⟨-, name, fresh⟩ := proper_append_singleton.mp proper
  obtain ⟨g, hg, rfl⟩ := Group.mem_names_iff.mp name
  have ne : g ≠ .base := (Group.mem_optional_iff g).mp hg
  have disabled : ¬s.enables g = true := by
    rw [holds g]
    simp [ne, fresh]
  refine ⟨s.enable g, fun h => ?_, ?_⟩
  · by_cases hb : h = .base
    · simp [hb, enables]
    · have same : h = g ↔ h.name.toList = g.name.toList :=
        ⟨fun e => e ▸ rfl, Group.eq_of_name_eq hb ne⟩
      rw [enables_enable, Bool.or_eq_true, decide_eq_true_eq, holds h, same]
      simp [hb, or_comm]
  · simp [addNames, Group.named?_eq_some_iff.mpr ⟨ne, rfl⟩, disabled]

theorem addNames_of_reports (names : ∀ w ∈ seen, w ∈ Group.names) (holds : s.Holds seen)
    {e : FeatureError} (reports : Reports seen word e) (words : List (List Char)) :
    addNames s (word :: words) = .error e := by
  rcases reports with ⟨foreign, rfl⟩ | ⟨again, rfl⟩
  · simp [addNames, Group.named?_eq_none_iff.mpr foreign]
  · obtain ⟨g, hg, rfl⟩ := Group.mem_names_iff.mp (names word again)
    have ne : g ≠ .base := (Group.mem_optional_iff g).mp hg
    have enabled : s.enables g = true := (holds g).mpr (.inr again)
    simp [addNames, Group.named?_eq_some_iff.mpr ⟨ne, rfl⟩, enabled]

theorem addNames_append (holds : s.Holds seen) {first : List (List Char)}
    (proper : Proper (seen ++ first)) (rest : List (List Char)) :
    ∃ t : FeatureSet, t.Holds (seen ++ first) ∧ addNames s (first ++ rest) = addNames t rest := by
  induction first generalizing s seen with
  | nil => exact ⟨s, by simpa using holds, rfl⟩
  | cons word first ih =>
    rw [List.append_cons] at proper
    have begins : Proper (seen ++ [word]) :=
      ⟨fun w hw => proper.names w (List.mem_append_left first hw),
        proper.nodup.sublist (List.sublist_append_left _ first)⟩
    obtain ⟨t, ht, now⟩ := addNames_of_fresh begins holds (first ++ rest)
    obtain ⟨u, hu, later⟩ := ih ht proper
    exact ⟨u, by simpa using hu, now.trans later⟩

theorem exists_addNames_of_proper (proper : Proper words) :
    ∃ r : FeatureSet, r.Holds words ∧ addNames minimal words = .ok r := by
  obtain ⟨r, holds, read⟩ := addNames_append holds_minimal proper []
  exact ⟨r, holds, by simpa [addNames] using read⟩

theorem addNames_append_of_reports {first rest : List (List Char)} (proper : Proper first)
    {e : FeatureError} (reports : Reports first word e) :
    addNames minimal (first ++ word :: rest) = .error e := by
  obtain ⟨t, holds, read⟩ := addNames_append holds_minimal proper (word :: rest)
  exact read.trans (addNames_of_reports proper.names holds reports rest)

theorem addNames_eq_ok_iff :
    addNames minimal words = .ok r ↔ Proper words ∧ r.Holds words := by
  constructor
  · intro h
    rcases proper_or_exists_reports words with proper | ⟨first, word, rest, e, rfl, proper, reports⟩
    · obtain ⟨t, holds, read⟩ := exists_addNames_of_proper proper
      rw [read, Except.ok.injEq] at h
      exact ⟨proper, h ▸ holds⟩
    · rw [addNames_append_of_reports proper reports] at h
      cases h
  · rintro ⟨proper, holds⟩
    obtain ⟨t, ht, read⟩ := exists_addNames_of_proper proper
    rw [read, ht.unique holds]

theorem addNames_eq_error_iff {e : FeatureError} : addNames minimal words = .error e ↔
    ∃ first word rest, words = first ++ word :: rest ∧ Proper first ∧ Reports first word e := by
  constructor
  · intro h
    rcases proper_or_exists_reports words with proper | ⟨first, word, rest, d, rfl, proper, reports⟩
    · obtain ⟨t, -, read⟩ := exists_addNames_of_proper proper
      rw [read] at h
      cases h
    · rw [addNames_append_of_reports proper reports, Except.error.injEq] at h
      exact ⟨first, word, rest, rfl, proper, h ▸ reports⟩
  · rintro ⟨first, word, rest, rfl, proper, reports⟩
    exact addNames_append_of_reports proper reports

end Words
end FeatureSet
end Intel8080
