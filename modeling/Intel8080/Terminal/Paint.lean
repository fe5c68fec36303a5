import Intel8080.Terminal.Styled
import Intel8080.Text.Column

/-! Painted text and status lines. Painting puts a style in front of a text and a reset after it;
where the text itself holds a reset, the style is put on again. Nothing is painted when colours
are off. -/
namespace Intel8080.Terminal

inductive Paint
  | green | cyan | red | plainRed | banner
  deriving DecidableEq

/-- Display codes: bold and a colour, except for a truncated record, which is red alone. -/
def Paint.codes : Paint → List Nat
  | .green => [1, 32]
  | .cyan => [1, 36]
  | .red => [1, 31]
  | .plainRed => [31]
  | .banner => [1, 94]

/-- Put a style on again after every reset. -/
def restyle (style : List Char) : List Char → List Char
  | '\x1b' :: '[' :: '0' :: 'm' :: rest =>
    ['\x1b', '[', '0', 'm'] ++ style ++ restyle style rest
  | c :: rest => c :: restyle style rest
  | [] => []

/-- Paint a text at the right of a column. -/
def paint (colors : Bool) (p : Paint) (width : Nat) (text : String) : String :=
  if colors then
    escape p.codes ++
      Text.padLeft width (String.ofList (restyle (escape p.codes).toList text.toList)) ++ escape [0]
  else Text.padLeft width text

def statusLine (colors : Bool) (p : Paint) (verb detail : String) : String :=
  paint colors p 12 verb ++ " " ++ detail

end Intel8080.Terminal
