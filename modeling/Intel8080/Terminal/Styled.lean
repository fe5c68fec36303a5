/-! Text with display styles. A style takes effect where it stands and lasts until the reset; it
is written as an escape sequence that takes no room on the terminal. -/
namespace Intel8080.Terminal

inductive Piece
  | text (s : String)
  | style (codes : List Nat)

def escape (codes : List Nat) : String :=
  "\x1b[" ++ String.intercalate ";" (codes.map toString) ++ "m"

namespace Piece

def bold : Piece := .style [1]

def dim : Piece := .style [2]

def italic : Piece := .style [3]

def reset : Piece := .style [0]

def render : Piece → String
  | .text s => s
  | .style codes => escape codes

def visible : Piece → String
  | .text s => s
  | .style _ => ""

end Piece

/-- A line as it is sent to the terminal. -/
def render (line : List Piece) : String := String.join (line.map Piece.render)

def visible (line : List Piece) : String := String.join (line.map Piece.visible)

@[simp] theorem render_append (l m : List Piece) : render (l ++ m) = render l ++ render m := by
  simp [render]

@[simp] theorem visible_append (l m : List Piece) : visible (l ++ m) = visible l ++ visible m := by
  simp [visible]

end Intel8080.Terminal
