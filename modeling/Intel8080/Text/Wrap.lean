import Intel8080.Text.Alphanumeric
import Intel8080.Text.Cell
import Intel8080.Text.LineBreak

/-! Paragraphs set into lines of a width. A paragraph is cut into words where a line may end, words
are cut behind hyphens, and what is still wider than a line is cut where the line is full. The
pieces are then put into lines as long as they fit. Blanks at the end of a line are dropped. -/
namespace Intel8080.Text

/-- The paragraphs of a text, which are parted by line feeds. -/
def paragraphs : List Char → List (List Char)
  | [] => [[]]
  | c :: rest =>
    if c = '\n' then [] :: paragraphs rest
    else match paragraphs rest with
      | [] => [[c]]
      | first :: others => (c :: first) :: others

/-- A part of a paragraph that is kept in one line, and the blanks behind it. -/
structure Fragment where
  text : List Char
  blanks : Nat := 0
  deriving DecidableEq

namespace Fragment

def columns (f : Fragment) : Nat := textColumns f.text

def ofWord (word : List Char) : Fragment where
  text := (word.reverse.dropWhile (· == ' ')).reverse
  blanks := (word.reverse.takeWhile (· == ' ')).length

def ofParts (blanks : Nat) : List (List Char) → List Fragment
  | [] => []
  | [last] => [⟨last, blanks⟩]
  | part :: parts => ⟨part, 0⟩ :: ofParts blanks parts

end Fragment

/-- Words are not ended behind these, but cut afterwards. -/
def isHyphen (c : Char) : Bool := c == '-' || c == '\xad'

/-- The places of `mayEnd` that are left when those behind a hyphen are not used. The last place is
the end of the text. -/
def withoutHyphens (before : Char) : List Char → List Bool → List Bool
  | [], _ => [!isHyphen before]
  | c :: rest, place :: places => (place && !isHyphen before) :: withoutHyphens c rest places
  | c :: rest, [] => false :: withoutHyphens c rest []

def withoutLast : List Bool → List Bool
  | [] => []
  | place :: places =>
    if places.contains true then place :: withoutLast places else false :: withoutLast places

/-- Cut a text in front of the cells at certain places. -/
def cutAt (word : List Char) : List Cell → List Bool → List (List Char)
  | [], _ => if word.isEmpty then [] else [word]
  | cell :: cells, true :: places => word :: cutAt cell.text cells places
  | cell :: cells, places => cutAt (word ++ cell.text) cells places.tail

theorem flatten_cutAt (word : List Char) (cells : List Cell) (places : List Bool) :
    (cutAt word cells places).flatten = word ++ cells.flatMap Cell.text := by
  induction cells generalizing word places with
  | nil => cases word <;> simp [cutAt]
  | cons cell cells ih => rcases places with _ | ⟨_ | _, places⟩ <;> simp [cutAt, ih]

def words (s : List Char) : List (List Char) :=
  let shown := shownText s
  cutAt [] (cells s) (withoutLast (withoutHyphens ' ' shown (lineEnds shown)))

theorem flatten_words (s : List Char) : (words s).flatten = s := by
  rw [words, flatten_cutAt, flatMap_cells, List.nil_append]

/-- Cut a word behind hyphens that have a letter or a digit on either side. `before` is the
character in front of the text, and `part` is what was read since the last cut. -/
def cutHyphens (before : Char) (part : List Char) : List Char → List (List Char)
  | [] => [part]
  | [c] => [part ++ [c]]
  | c :: next :: rest =>
    if c = '-' ∧ isAlphanumeric before ∧ isAlphanumeric next then
      (part ++ [c]) :: cutHyphens c [] (next :: rest)
    else cutHyphens c (part ++ [c]) (next :: rest)

theorem flatten_cutHyphens (before : Char) (part s : List Char) :
    (cutHyphens before part s).flatten = part ++ s := by
  fun_induction cutHyphens before part s <;> simp_all

/-- Cut a text where a line of a width is full. `part` was read since the last cut and fills a
number of columns. -/
def cutFull (width filled : Nat) (part : List Char) : List Cell → List (List Char)
  | [] => [part]
  | cell :: cells =>
    if 0 < filled ∧ width < filled + cell.columns then
      (part ++ cell.hidden) :: cutFull width cell.columns cell.shown?.toList cells
    else cutFull width (filled + cell.columns) (part ++ cell.text) cells

theorem flatten_cutFull (width filled : Nat) (part : List Char) (cells : List Cell) :
    (cutFull width filled part cells).flatten = part ++ cells.flatMap Cell.text := by
  fun_induction cutFull width filled part cells <;> simp_all [Cell.text]

def fragments (width : Nat) (s : List Char) : List Fragment :=
  (words s).flatMap fun word =>
    let ⟨text, blanks⟩ := Fragment.ofWord word
    Fragment.ofParts blanks ((cutHyphens ' ' [] text).flatMap (cutFull width 0 [] <| cells ·))

/-- Set fragments into lines. The current line fills a number of columns, and blanks follow it. -/
def setLines (width : Nat) (line : List Char) (filled blanks : Nat) :
    List Fragment → List (List Char)
  | [] => [line]
  | f :: rest =>
    if width < filled + blanks + f.columns then
      line :: setLines width f.text f.columns f.blanks rest
    else
      setLines width (line ++ List.replicate blanks ' ' ++ f.text) (filled + blanks + f.columns)
        f.blanks rest

/-- The lines of a text. -/
def wrap (width : Nat) (text : String) : List String :=
  (paragraphs text.toList).flatMap fun s =>
    (setLines width [] 0 0 (fragments width s)).map String.ofList

def indented (first rest : String) : List String → String
  | [] => first ++ "\n"
  | line :: lines => first ++ line ++ "\n" ++ String.join (lines.map fun l => rest ++ l ++ "\n")

end Intel8080.Text
