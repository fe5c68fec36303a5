import Intel8080.Disassembly.Text
import Intel8080.Terminal.Paint

/-! Listings: a line for each record, with the effect of its instruction as a comment. -/
namespace Intel8080.Listing

def line (r : Record) : String := Text.padRight 30 r.text ++ "; " ++ r.opcode.summary

/-- A line as it is printed: a truncated record is red. -/
def painted (colors : Bool) (r : Record) : String :=
  if r.truncated then Terminal.paint colors .plainRed 0 (line r) else line r

def text (colors : Bool) (records : List Record) : String :=
  String.join (records.map fun r => painted colors r ++ "\n")

theorem text_append (colors : Bool) (rs ss : List Record) :
    text colors (rs ++ ss) = text colors rs ++ text colors ss := by
  simp [text]

end Intel8080.Listing
