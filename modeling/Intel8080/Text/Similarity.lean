/-! Likeness of two words by the characters they share. A character of the first word is matched
with the first equal one of the second that is still free and stands near its own place; the
likeness is the mean of the matched part of the first word, of the second word, and of the matches
that stand in the same order in both. -/
namespace Intel8080.Text

/-- How far from its place a character may be matched. -/
def matchRange (a b : List Char) : Nat := max a.length b.length / 2 - 1

/-- The first free place with the character, among those from `first` on and before `last`. -/
def findFree (c : Char) (first last : Nat) (b : List Char) (taken : List Nat) : Option Nat :=
  let isFree (place : Char × Nat) : Bool :=
    decide (first ≤ place.2) && place.1 == c && !taken.contains place.2
  ((b.take last).zipIdx.find? isFree).map (·.2)

/-- The places of matched characters in the first word with those in the second, in the order of
the first word. -/
def matchPlaces (range : Nat) (b : List Char) :
    List (Char × Nat) → List Nat → List (Char × Nat)
  | [], _ => []
  | (c, i) :: rest, taken =>
    match findFree c (i - range) (i + range + 1) b taken with
    | none => matchPlaces range b rest taken
    | some j => (c, j) :: matchPlaces range b rest (j :: taken)

/-- The likeness of two words is at least seven tenths. -/
def isSimilar (a b : List Char) : Bool :=
  let matched := matchPlaces (matchRange a b) b a.zipIdx []
  let n := matched.length
  let inOrder := (matched.mergeSort fun p q => decide (p.2 ≤ q.2)).map (·.1)
  let moved := ((matched.map (·.1)).zip inOrder).countP (fun (c, d) => c != d) / 2
  decide (0 < n) &&
    decide (21 * n * a.length * b.length ≤
      10 * (n * n * b.length + n * n * a.length + (n - moved) * a.length * b.length))

end Intel8080.Text
