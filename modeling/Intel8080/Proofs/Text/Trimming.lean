import Intel8080.Text.Blank
import Mathlib.Data.List.TakeWhile

/-! What trimming leaves of a text. It takes away blanks at the two ends and no other character, and
what is left neither begins nor ends with a blank; there is only one such text. -/
namespace Intel8080.Text

def AllBlank (s : List Char) : Prop := ∀ c ∈ s, isBlank c = true

instance (s : List Char) : Decidable (AllBlank s) := List.decidableBAll _ s

def NoBlank (s : List Char) : Prop := ∀ c ∈ s, isBlank c = false

instance (s : List Char) : Decidable (NoBlank s) := List.decidableBAll _ s

/-- The text neither begins nor ends with a blank. -/
structure Trimmed (s : List Char) : Prop where
  first : ∀ c ∈ s.head?, isBlank c = false
  last : ∀ c ∈ s.getLast?, isBlank c = false

theorem AllBlank.not_mem {s : List Char} (h : AllBlank s) {c : Char} (hc : isBlank c = false) :
    c ∉ s := by
  intro hm
  simp [h c hm] at hc

@[simp] theorem allBlank_nil : AllBlank [] := fun _ h => absurd h List.not_mem_nil

@[simp] theorem allBlank_append {s t : List Char} :
    AllBlank (s ++ t) ↔ AllBlank s ∧ AllBlank t := List.forall_mem_append

@[simp] theorem allBlank_reverse {s : List Char} : AllBlank s.reverse ↔ AllBlank s := by
  simp [AllBlank]

theorem Trimmed.trim_eq {s : List Char} (h : Trimmed s) : trim s = s := trim_of_ends h.first h.last

theorem NoBlank.trimmed {s : List Char} (h : NoBlank s) : Trimmed s :=
  ⟨fun c hc => h c (List.mem_of_mem_head? hc), fun c hc => h c (List.mem_of_mem_getLast? hc)⟩

theorem trim_of_allBlank {s : List Char} (h : AllBlank s) : trim s = [] := by
  simp [trim, List.dropWhile_eq_nil_iff.mpr h]

theorem exists_dropWhile_eq (s : List Char) :
    ∃ front, AllBlank front ∧ s = front ++ s.dropWhile isBlank :=
  ⟨s.takeWhile isBlank, fun _ h => List.mem_takeWhile_imp h, List.takeWhile_append_dropWhile.symm⟩

/-- The blanks in front are taken away first, and then those behind. -/
theorem exists_dropWhile_eq_trim (s : List Char) :
    ∃ after, AllBlank after ∧ s.dropWhile isBlank = trim s ++ after := by
  obtain ⟨after, ha, h⟩ := exists_dropWhile_eq (s.dropWhile isBlank).reverse
  refine ⟨after.reverse, by simpa using ha, ?_⟩
  have whole := congrArg List.reverse h
  rwa [List.reverse_reverse, List.reverse_append] at whole

theorem exists_eq_trim (s : List Char) :
    ∃ before after, AllBlank before ∧ AllBlank after ∧ s = before ++ trim s ++ after := by
  obtain ⟨before, hb, hs⟩ := exists_dropWhile_eq s
  obtain ⟨after, ha, rest⟩ := exists_dropWhile_eq_trim s
  exact ⟨before, after, hb, ha, by rw [List.append_assoc, ← rest, ← hs]⟩

theorem trimmed_trim (s : List Char) : Trimmed (trim s) := by
  have begins (s : List Char) : ∀ c ∈ (s.dropWhile isBlank).head?, isBlank c = false := by
    intro c hc
    have h := List.head?_dropWhile_not isBlank s
    rwa [Option.mem_def.mp hc] at h
  constructor
  · obtain ⟨after, -, rest⟩ := exists_dropWhile_eq_trim s
    intro c hc
    refine begins s c ?_
    simp [rest, Option.mem_def.mp hc]
  · rw [trim, List.getLast?_reverse]
    exact begins _

theorem trim_append {before after : List Char} (hb : AllBlank before) (ha : AllBlank after)
    (s : List Char) : trim (before ++ s ++ after) = trim s := by
  by_cases blank : AllBlank s
  · rw [trim_of_allBlank blank, trim_of_allBlank (by simp [hb, blank, ha])]
  · have rest : s.dropWhile isBlank ≠ [] := fun h => blank (List.dropWhile_eq_nil_iff.mp h)
    have front : (before ++ s ++ after).dropWhile isBlank = s.dropWhile isBlank ++ after := by
      rw [List.append_assoc, List.dropWhile_append_of_pos hb, List.dropWhile_append]
      simp [rest]
    rw [trim, front, List.reverse_append,
      List.dropWhile_append_of_pos (allBlank_reverse.mpr ha), trim]

theorem trim_eq_iff {s t : List Char} : trim s = t ↔
    Trimmed t ∧ ∃ before after, AllBlank before ∧ AllBlank after ∧ s = before ++ t ++ after := by
  constructor
  · rintro rfl
    exact ⟨trimmed_trim s, exists_eq_trim s⟩
  · rintro ⟨ends, before, after, hb, ha, rfl⟩
    rw [trim_append hb ha, ends.trim_eq]

end Intel8080.Text
