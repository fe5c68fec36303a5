import Intel8080.Proofs.Features.Words

/-! Lists of features. A list holds names between commas, and blanks, empty places and the order
of the names do not matter; the two words for a whole set stand alone. Main statement:
`parse_lists`. -/
namespace Intel8080.FeatureSet

open Text

/-- The pieces of a list that holds the words in their order, with blanks around each of them. A
piece that holds no word has nothing but blanks. -/
inductive Spaces : List (List Char) → List (List Char) → Prop
  | nil : Spaces [] []
  | blank {words pieces : List (List Char)} {piece : List Char} (blank : AllBlank piece)
      (rest : Spaces words pieces) : Spaces words (piece :: pieces)
  | word {words pieces : List (List Char)} {before after : List Char} (word : List Char)
      (hb : AllBlank before) (ha : AllBlank after) (rest : Spaces words pieces) :
      Spaces (word :: words) ((before ++ word ++ after) :: pieces)

theorem isBlank_comma : isBlank ',' = false := by decide

section Pieces
variable {words pieces : List (List Char)}

theorem spaces_self (words : List (List Char)) : Spaces words words := by
  induction words with
  | nil => exact .nil
  | cons word words ih => simpa using Spaces.word word allBlank_nil allBlank_nil ih

theorem Spaces.comma_not_mem (h : Spaces words pieces) (names : ∀ w ∈ words, w ∈ Group.names) :
    ∀ piece ∈ pieces, ',' ∉ piece := by
  induction h with
  | nil => simp
  | blank blank rest ih =>
    exact List.forall_mem_cons.mpr ⟨blank.not_mem isBlank_comma, ih names⟩
  | word word hb ha rest ih =>
    obtain ⟨name, names⟩ := List.forall_mem_cons.mp names
    refine List.forall_mem_cons.mpr ⟨?_, ih names⟩
    simp [hb.not_mem isBlank_comma, ha.not_mem isBlank_comma, (Group.word_of_mem_names name).2.2]

theorem Spaces.filter_trim (h : Spaces words pieces) (names : ∀ w ∈ words, w ∈ Group.names) :
    (pieces.map trim).filter (· ≠ []) = words := by
  induction h with
  | nil => rfl
  | blank blank rest ih => simpa [trim_of_allBlank blank] using ih names
  | word word hb ha rest ih =>
    obtain ⟨name, names⟩ := List.forall_mem_cons.mp names
    obtain ⟨ne, noBlank, -⟩ := Group.word_of_mem_names name
    rw [List.map_cons, trim_append hb ha, noBlank.trimmed.trim_eq,
      List.filter_cons_of_pos (by simpa using ne), ih names]

theorem Spaces.namesOf (h : Spaces words pieces) (names : ∀ w ∈ words, w ∈ Group.names) :
    namesOf ([','].intercalate pieces) = words := by
  by_cases empty : pieces = []
  · subst empty
    cases h
    rfl
  · rw [FeatureSet.namesOf, List.splitOn_intercalate _ (h.comma_not_mem names) empty]
    exact h.filter_trim names

end Pieces

theorem namesOf_of_comma_not_mem {s : List Char} (comma : ',' ∉ trim s) (ne : trim s ≠ []) :
    namesOf s = [trim s] := by
  obtain ⟨before, after, hb, ha, hs⟩ := exists_eq_trim s
  have whole : ',' ∉ s := by
    rw [hs]
    simp [hb.not_mem isBlank_comma, ha.not_mem isBlank_comma, comma]
  simp [namesOf, List.splitOn_eq_singleton whole, ne]

def wholes : List (List Char) := ["all".toList, "minimal".toList]

theorem not_proper_of_whole {s : List Char} (h : trim s ∈ wholes) : ¬Proper (namesOf s) := by
  have foreign : ∀ w ∈ wholes, ',' ∉ w ∧ w ≠ [] ∧ w ∉ Group.names := by decide
  obtain ⟨comma, ne, noName⟩ := foreign _ h
  rw [namesOf_of_comma_not_mem comma ne]
  exact fun proper => noName (proper.names _ (List.mem_singleton_self _))

section Texts
variable {text : String} {r : FeatureSet}

theorem parse_of_all (h : trim text.toList = "all".toList) : parse text = .ok all := if_pos h

theorem parse_of_minimal (h : trim text.toList = "minimal".toList) : parse text = .ok minimal := by
  have noAll : trim text.toList ≠ "all".toList := by
    rw [h]
    decide
  exact (if_neg noAll).trans (if_pos h)

theorem parse_of_not_whole (h : trim text.toList ∉ wholes) :
    parse text = addNames minimal (namesOf text.toList) := by
  obtain ⟨noAll, noMinimal⟩ := not_or.mp (List.mem_pair.not.mp h)
  exact (if_neg noAll).trans (if_neg noMinimal)

theorem holds_all_iff : (∀ g, r.enables g = true) ↔ r = all := by
  constructor
  · exact fun h => ext_enables fun g => by simp [h g]
  · rintro rfl
    exact enables_all

theorem parse_eq_ok_iff : parse text = .ok r ↔
    (trim text.toList = "all".toList ∧ r = all) ∨
    (trim text.toList = "minimal".toList ∧ r = minimal) ∨
    (Proper (namesOf text.toList) ∧ r.Holds (namesOf text.toList)) := by
  have differ : "all".toList ≠ "minimal".toList := by decide
  by_cases whole : trim text.toList ∈ wholes
  · have improper := not_proper_of_whole whole
    rcases List.mem_pair.mp whole with h | h
    · simp only [parse_of_all h, h, differ, improper, Except.ok.injEq, true_and, false_and, or_false,
        eq_comm]
    · simp only [parse_of_minimal h, h, differ.symm, improper, Except.ok.injEq, true_and, false_and,
        or_false, false_or, eq_comm]
  · obtain ⟨noAll, noMinimal⟩ := not_or.mp (List.mem_pair.not.mp whole)
    simp only [parse_of_not_whole whole, addNames_eq_ok_iff, noAll, noMinimal, false_and, false_or]

theorem parse_eq_error_iff {e : FeatureError} : parse text = .error e ↔
    trim text.toList ∉ wholes ∧ ∃ first word rest,
      namesOf text.toList = first ++ word :: rest ∧ Proper first ∧ Reports first word e := by
  by_cases h : trim text.toList ∈ wholes
  · have ok : ∃ s, parse text = .ok s := by
      rcases List.mem_pair.mp h with h | h
      · exact ⟨_, parse_of_all h⟩
      · exact ⟨_, parse_of_minimal h⟩
    obtain ⟨s, ok⟩ := ok
    simp [ok, h]
  · rw [parse_of_not_whole h, addNames_eq_error_iff, and_iff_right h]

theorem parse_of_spaces {words pieces : List (List Char)} (spaces : Spaces words pieces)
    (proper : Proper words) (holds : r.Holds words) :
    parse (String.ofList ([','].intercalate pieces)) = .ok r := by
  rw [parse_eq_ok_iff, String.toList_ofList, spaces.namesOf proper.names]
  exact .inr (.inr ⟨proper, holds⟩)

theorem proper_optional (s : FeatureSet) :
    Proper ((Group.optional.filter s.enables).map fun g => g.name.toList) := by
  have nodup : (Group.optional.map fun g => g.name.toList).Nodup := by decide
  refine ⟨?_, (List.filter_sublist.map _).nodup nodup⟩
  simp only [List.mem_map, List.mem_filter]
  rintro _ ⟨g, ⟨hg, -⟩, rfl⟩
  exact Group.mem_names_iff.mpr ⟨g, hg, rfl⟩

theorem holds_optional (s : FeatureSet) :
    s.Holds ((Group.optional.filter s.enables).map fun g => g.name.toList) := by
  intro g
  by_cases hb : g = .base
  · simp [hb, enables]
  · simp only [hb, false_or, List.mem_map, List.mem_filter, Group.mem_optional_iff]
    constructor
    · exact fun h => ⟨g, ⟨hb, h⟩, rfl⟩
    · rintro ⟨h, ⟨hh, enabled⟩, same⟩
      rwa [← Group.eq_of_name_eq hh hb same]

theorem parse_text (s : FeatureSet) : parse s.text = .ok s := by
  have commas : s.text = String.ofList ([','].intercalate
      ((Group.optional.filter s.enables).map fun g => g.name.toList)) := by
    simp [text, ← String.toList_inj, String.toList_intercalate, Function.comp_def]
  rw [commas]
  exact parse_of_spaces (spaces_self _) (proper_optional s) (holds_optional s)

/-- A list is accepted if it is one of the words for a whole set or if its words are names, none
of them twice. It enables what it names, however it spaces and orders the names. A list is refused
at the first word that is no name or that has been there before. What is written for a set is read
as that set. -/
theorem parse_lists :
    (∀ text : String, (∃ r, parse text = .ok r) ↔
      trim text.toList = "all".toList ∨ trim text.toList = "minimal".toList ∨
      Proper (namesOf text.toList)) ∧
    (∀ (text : String) (r : FeatureSet), parse text = .ok r ↔
      (trim text.toList = "all".toList ∧ ∀ g, r.enables g = true) ∨
      (trim text.toList = "minimal".toList ∧ r.Holds []) ∨
      (Proper (namesOf text.toList) ∧ r.Holds (namesOf text.toList))) ∧
    (∀ (text : String) (r : FeatureSet), parse text = .ok r → trim text.toList ∉ wholes →
      ∀ order pieces, order.Perm (namesOf text.toList) → Spaces order pieces →
        parse (String.ofList ([','].intercalate pieces)) = .ok r) ∧
    (∀ (text : String) (e : FeatureError), parse text = .error e ↔
      trim text.toList ∉ wholes ∧ ∃ first word rest,
        namesOf text.toList = first ++ word :: rest ∧ Proper first ∧
        ((word ∉ Group.names ∧ e = .unknown (String.ofList word)) ∨
          (word ∈ first ∧ e = .repeated (String.ofList word)))) ∧
    (∀ word, (FeatureError.unknown word).message = "Unknown feature '" ++ word ++ "'" ∧
      (FeatureError.repeated word).message = "Cannot specify feature '" ++ word ++ "' twice") ∧
    ∀ r : FeatureSet, parse r.text = .ok r := by
  have ok (text : String) (r : FeatureSet) : parse text = .ok r ↔
      (trim text.toList = "all".toList ∧ ∀ g, r.enables g = true) ∨
      (trim text.toList = "minimal".toList ∧ r.Holds []) ∨
      (Proper (namesOf text.toList) ∧ r.Holds (namesOf text.toList)) := by
    rw [parse_eq_ok_iff, holds_all_iff, holds_nil_iff]
  refine ⟨fun text => ?_, ok, ?_, fun _ _ => parse_eq_error_iff, fun _ => ⟨rfl, rfl⟩, parse_text⟩
  · constructor
    · rintro ⟨r, h⟩
      exact ((ok text r).mp h).imp And.left (Or.imp And.left And.left)
    · rintro (h | h | proper)
      · exact ⟨_, parse_of_all h⟩
      · exact ⟨_, parse_of_minimal h⟩
      · obtain ⟨r, holds, -⟩ := exists_addNames_of_proper proper
        exact ⟨r, (ok text r).mpr (.inr (.inr ⟨proper, holds⟩))⟩
  · intro text r h whole order pieces perm spaces
    rw [parse_of_not_whole whole, addNames_eq_ok_iff] at h
    obtain ⟨proper, holds⟩ := h
    exact parse_of_spaces spaces (proper.perm perm) (holds.congr fun _ => perm.mem_iff)

/-- Two names with blanks and empty places are read in either order. A word for a whole set is no
name, and of two errors the first one is reported. -/
theorem decimalIo_lists :
    let both : FeatureSet := ⟨true, false, false, true, false⟩
    parse " decimal ,, io," = .ok both ∧
    parse (String.ofList ([','].intercalate [['i', 'o', '\t'], [' '], "decimal".toList])) =
      .ok both ∧
    parse "io,all,io" = .error (.unknown "all") ∧
    parse "io, io,video" = .error (.repeated "io") ∧
    parse both.text = .ok both := by
  intro both
  obtain ⟨-, ok, reorder, refused, -, text⟩ := parse_lists
  have words : namesOf " decimal ,, io,".toList = ["decimal".toList, "io".toList] := by decide
  have proper : Proper ["decimal".toList, "io".toList] := ⟨by decide, by decide⟩
  have holds : both.Holds ["decimal".toList, "io".toList] := fun g => by cases g <;> decide
  have read : parse " decimal ,, io," = .ok both :=
    (ok _ _).mpr (.inr (.inr (words ▸ ⟨proper, holds⟩)))
  have perm : ["io".toList, "decimal".toList].Perm (namesOf " decimal ,, io,".toList) :=
    words ▸ List.Perm.swap _ _ _
  have tab : AllBlank ['\t'] := by decide
  have spaces : Spaces ["io".toList, "decimal".toList]
      [['i', 'o', '\t'], [' '], "decimal".toList] :=
    .word _ allBlank_nil tab (.blank (by decide) (spaces_self _))
  refine ⟨read, reorder _ _ read (by decide) _ _ perm spaces, ?_, ?_, text both⟩
  · exact (refused _ _).mpr ⟨by decide, ["io".toList], "all".toList, ["io".toList], by decide,
      ⟨by decide, by decide⟩, .inl ⟨by decide, rfl⟩⟩
  · exact (refused _ _).mpr ⟨by decide, ["io".toList], "io".toList, ["video".toList], by decide,
      ⟨by decide, by decide⟩, .inr ⟨by decide, rfl⟩⟩

end Texts

end Intel8080.FeatureSet
