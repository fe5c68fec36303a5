import Intel8080.Proofs.Text.Reading
import Intel8080.Terminal.Styled
import Intel8080.Text.Cell
import Mathlib.Data.List.Forall2

/-! What is seen of a styled line. A style is sent as an escape sequence, which shows nothing, so
that of a line whose texts hold no control characters these texts are shown and nothing else. -/
namespace Intel8080

namespace Text

/-- The characters that are shown of a text that begins at a place. -/
def shownFrom : Place → List Char → List Char
  | _, [] => []
  | p, c :: rest => if p.shows c then c :: shownFrom (p.next c) rest else shownFrom (p.next c) rest

theorem filterMap_cellsFrom (p : Place) (hidden s : List Char) :
    (cellsFrom p hidden s).filterMap Cell.shown? = shownFrom p s := by
  induction s generalizing p hidden with
  | nil => by_cases none : hidden.isEmpty <;> simp [cellsFrom, shownFrom, none]
  | cons c rest ih => by_cases shows : p.shows c <;> simp [cellsFrom, shownFrom, shows, ih]

theorem shownText_eq (s : List Char) : shownText s = shownFrom .plain s :=
  filterMap_cellsFrom .plain [] s

theorem shownFrom_plain_append {s : List Char} (h : NoControl s) (t : List Char) :
    shownFrom .plain (s ++ t) = s ++ shownFrom .plain t := by
  induction s with
  | nil => rfl
  | cons c s ih =>
    obtain ⟨first, others⟩ := List.forall_mem_cons.mp h
    have ordinary : c ≠ '\x1b' := by
      rintro rfl
      exact absurd first (by decide)
    simp [shownFrom, Place.shows, Place.next, ordinary, ih others]

theorem shownFrom_control_append {s : List Char} (h : ∀ c ∈ s, c.toNat < 0x40) (t : List Char) :
    shownFrom .control (s ++ 'm' :: t) = shownFrom .plain t := by
  induction s with
  | nil => rfl
  | cons c s ih =>
    obtain ⟨first, others⟩ := List.forall_mem_cons.mp h
    have on : ¬ '@' ≤ c := by
      intro letter
      have large : 0x40 ≤ c.toNat := UInt32.le_iff_toNat_le.mp (Char.le_def.mp letter)
      omega
    simp [shownFrom, Place.shows, Place.next, on, ih others]

end Text

namespace Terminal

open Text (NoControl shownFrom)

def codeText (codes : List Nat) : List Char :=
  (String.intercalate ";" (codes.map toString)).toList

theorem mem_codeText {codes : List Nat} :
    ∀ c ∈ codeText codes, 0x20 ≤ c.toNat ∧ c.toNat < 0x40 := by
  rw [codeText, String.toList_intercalate, List.map_map]
  refine Text.forall_mem_intercalate (by simp) (List.forall_mem_map.mpr fun code _ c hc => ?_)
  have digit := Text.bounds_of_mem_toString hc
  omega

theorem toList_escape (codes : List Nat) :
    (escape codes).toList = '\x1b' :: '[' :: (codeText codes ++ ['m']) := by
  simp [escape, codeText]

/-- An escape sequence shows nothing. -/
theorem shownFrom_escape_append (codes : List Nat) (t : List Char) :
    shownFrom .plain ((escape codes).toList ++ t) = shownFrom .plain t := by
  have below : ∀ c ∈ codeText codes, c.toNat < 0x40 := fun c hc => (mem_codeText c hc).2
  rw [toList_escape, List.cons_append, List.cons_append, List.append_assoc, List.singleton_append]
  exact Text.shownFrom_control_append below t

theorem lineFeed_not_mem_escape (codes : List Nat) : '\n' ∉ (escape codes).toList := by
  have inside : NoControl (codeText codes) := fun c hc => (mem_codeText c hc).1
  simp [toList_escape, inside.lineFeed_not_mem]

def Legible (line : List Piece) : Prop := ∀ piece ∈ line, NoControl piece.visible.toList

instance (line : List Piece) : Decidable (Legible line) := List.decidableBAll _ line

@[simp] theorem legible_nil : Legible [] := fun _ h => absurd h List.not_mem_nil

@[simp] theorem legible_cons {piece : Piece} {line : List Piece} :
    Legible (piece :: line) ↔ NoControl piece.visible.toList ∧ Legible line :=
  List.forall_mem_cons

@[simp] theorem legible_append {l m : List Piece} : Legible (l ++ m) ↔ Legible l ∧ Legible m :=
  List.forall_mem_append

theorem toList_render (line : List Piece) :
    (render line).toList = line.flatMap fun piece => piece.render.toList := by
  simp [render, String.toList_join, List.flatMap_map]

theorem toList_visible (line : List Piece) :
    (visible line).toList = line.flatMap fun piece => piece.visible.toList := by
  simp [visible, String.toList_join, List.flatMap_map]

theorem shownFrom_render_append {piece : Piece} (h : NoControl piece.visible.toList)
    (t : List Char) : shownFrom .plain (piece.render.toList ++ t) =
      piece.visible.toList ++ shownFrom .plain t := by
  cases piece with
  | text s => exact Text.shownFrom_plain_append h t
  | style codes => exact shownFrom_escape_append codes t

/-- What is sent is seen without its escape sequences. -/
theorem shownText_render {line : List Piece} (h : Legible line) :
    Text.shownText (render line).toList = (visible line).toList := by
  rw [Text.shownText_eq, toList_render, toList_visible]
  induction line with
  | nil => rfl
  | cons piece line ih =>
    obtain ⟨first, others⟩ := legible_cons.mp h
    rw [List.flatMap_cons, List.flatMap_cons, shownFrom_render_append first, ih others]

theorem lineFeed_not_mem_render {line : List Piece} (h : Legible line) :
    '\n' ∉ (render line).toList := by
  rw [toList_render]
  intro hm
  obtain ⟨piece, hp, hc⟩ := List.mem_flatMap.mp hm
  cases piece with
  | text s => exact (h _ hp).lineFeed_not_mem hc
  | style codes => exact lineFeed_not_mem_escape codes hc

/-- A line is seen in the given number of columns. -/
structure Fills (width : Nat) (line : List Piece) : Prop where
  legible : Legible line
  length : (visible line).length = width

theorem legible_iff {line : List Piece} : Legible line ↔ NoControl (visible line).toList := by
  simp only [Legible, NoControl, toList_visible, List.mem_flatMap]
  exact ⟨fun h c ⟨piece, hp, hc⟩ => h piece hp c hc, fun h piece hp c hc => h c ⟨piece, hp, hc⟩⟩

theorem fills_iff {width : Nat} {line : List Piece} : Fills width line ↔
    NoControl (visible line).toList ∧ (visible line).toList.length = width := by
  rw [← legible_iff, String.length_toList]
  exact ⟨fun h => ⟨h.1, h.2⟩, fun h => ⟨h.1, h.2⟩⟩

instance (width : Nat) (line : List Piece) : Decidable (Fills width line) :=
  decidable_of_iff' _ fills_iff

theorem Fills.append {v w : Nat} {l m : List Piece} (hl : Fills v l) (hm : Fills w m) :
    Fills (v + w) (l ++ m) := by
  constructor
  · exact legible_append.mpr ⟨hl.legible, hm.legible⟩
  · rw [visible_append, String.length_append, hl.length, hm.length]

theorem fills_flatMap {α : Type} {cell : α → List Piece} {width : α → Nat}
    (h : ∀ x, Fills (width x) (cell x)) (xs : List α) :
    Fills (xs.map width).sum (xs.flatMap cell) := by
  induction xs with
  | nil => exact ⟨legible_nil, rfl⟩
  | cons x xs ih => exact (h x).append ih

theorem Fills.joined {v w : Nat} {s t : String} (hs : Fills v [.text s]) (ht : Fills w [.text t]) :
    Fills (v + w) [.text (s ++ t)] := by
  have both := hs.append ht
  constructor
  · simpa [Piece.visible] using both.legible
  · simpa [visible, Piece.visible] using both.length

theorem fills_text {width : Nat} {s : String} (h : Text.FitsIn width s) (full : s.length = width) :
    Fills width [.text s] := by
  constructor
  · exact legible_cons.mpr ⟨h.noControl, legible_nil⟩
  · simpa [visible, Piece.visible] using full

theorem forall₂_fills_iff {widths : List Nat} {lines : List (List Piece)} :
    List.Forall₂ Fills widths lines ↔
      (∀ line ∈ lines, Legible line) ∧ (lines.map fun line => (visible line).length) = widths := by
  induction lines generalizing widths with
  | nil => simp [eq_comm]
  | cons line lines ih =>
    rw [List.forall₂_cons_right_iff, List.forall_mem_cons, List.map_cons]
    constructor
    · rintro ⟨width, widths, first, others, rfl⟩
      obtain ⟨legible, lengths⟩ := ih.mp others
      exact ⟨⟨first.legible, legible⟩, by rw [first.length, lengths]⟩
    · rintro ⟨⟨first, legible⟩, rfl⟩
      exact ⟨_, _, ⟨first, rfl⟩, ih.mpr ⟨legible, rfl⟩, rfl⟩

end Terminal
end Intel8080
