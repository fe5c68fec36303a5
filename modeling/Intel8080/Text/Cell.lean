import Intel8080.Text.Width

/-! Text with escape sequences, as cells: each holds one character that is shown and the sequences
in front of it, which take no room. -/
namespace Intel8080.Text

inductive Place
  | plain
  | escape
  | control
  /-- In a command, which ends with a bell, or with an escape character and a backslash. -/
  | command (last : Char)

namespace Place

def shows (p : Place) (c : Char) : Bool :=
  match p with
  | .plain => c != '\x1b'
  | _ => false

def next (p : Place) (c : Char) : Place :=
  match p with
  | .plain => if c = '\x1b' then .escape else .plain
  | .escape => if c = '[' then .control else if c = ']' then .command ']' else .plain
  | .control => if '@' ≤ c ∧ c ≤ '~' then .plain else .control
  | .command last =>
    if c = '\x07' ∨ (c = '\\' ∧ last = '\x1b') then .plain else .command c

end Place

/-- A character and what stands hidden in front of it. Sequences at the end of a text are a cell
without a character. -/
structure Cell where
  hidden : List Char
  shown? : Option Char
  deriving DecidableEq

namespace Cell

def text (cell : Cell) : List Char := cell.hidden ++ cell.shown?.toList

def columns (cell : Cell) : Nat := (cell.shown?.map Text.columns).getD 0

end Cell

/-- The cells of a text, some characters of which were read and are hidden. -/
def cellsFrom (p : Place) (hidden : List Char) : List Char → List Cell
  | [] => if hidden.isEmpty then [] else [⟨hidden, none⟩]
  | c :: rest =>
    if p.shows c then ⟨hidden, some c⟩ :: cellsFrom (p.next c) [] rest
    else cellsFrom (p.next c) (hidden ++ [c]) rest

def cells (s : List Char) : List Cell := cellsFrom .plain [] s

theorem flatMap_cellsFrom (p : Place) (hidden s : List Char) :
    (cellsFrom p hidden s).flatMap Cell.text = hidden ++ s := by
  induction s generalizing p hidden with
  | nil => cases hidden <;> simp [cellsFrom, Cell.text]
  | cons c rest ih => rw [cellsFrom]; split <;> simp [ih, Cell.text]

theorem flatMap_cells (s : List Char) : (cells s).flatMap Cell.text = s :=
  flatMap_cellsFrom .plain [] s

def shownText (s : List Char) : List Char := (cells s).filterMap Cell.shown?

def textColumns (s : List Char) : Nat := (cells s).foldl (fun n cell => n + cell.columns) 0

end Intel8080.Text
