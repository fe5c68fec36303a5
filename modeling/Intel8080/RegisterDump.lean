import Intel8080.Processor.Basic
import Intel8080.Terminal.Styled
import Intel8080.Text.Column
import Intel8080.Text.Hex

/-! The register file as text: a box that shows each byte in hexadecimal, as a number with and
without sign and as a character, or plain lines of a name and a value. Memory is not shown. -/
namespace Intel8080

def Flag.name : Flag → String
  | .sign => "S"
  | .zero => "Z"
  | .auxCarry => "AC"
  | .parity => "P"
  | .carry => "CY"

def Flag.lowerName : Flag → String
  | .sign => "s"
  | .zero => "z"
  | .auxCarry => "ac"
  | .parity => "p"
  | .carry => "cy"

namespace RegisterDump

def registers : List Register := [.a, .b, .c, .d, .e, .h, .l]

def flags : List Flag := [.sign, .zero, .auxCarry, .parity, .carry]

def bit (set : Bool) : String := if set then "1" else "0"

def hexByte (b : Byte) : String := String.ofList (Text.hexByte b)

def hexWord (w : Word) : String := String.ofList (Text.hexWord w)

def plainLines (p : Processor) : List String :=
  registers.map (fun r => r.name ++ " 0x" ++ hexByte (p.reg r)) ++
    ["PC 0x" ++ hexWord p.pc,
      "SP 0x" ++ hexWord p.sp,
      "FLAGS " ++
        String.intercalate " " (flags.map fun f => f.name ++ "=" ++ bit (p.flags.get f)),
      "IE " ++ bit p.interrupts]

def characterNames : List (Nat × String) :=
  [(0x00, "NUL"), (0x08, "BS "), (0x09, "HT "), (0x0A, "LF "), (0x0D, "CR "), (0x1B, "ESC"),
    (0x20, "[_]"), (0x7F, "DEL")]

/-- A byte as a character, three columns wide. Other control characters and the bytes beyond ASCII
are drawn as dim lines. -/
def character (b : Byte) : List Terminal.Piece :=
  match characterNames.lookup b.toNat with
  | some name => [.text name]
  | none =>
    if b.toNat < 0x20 then [.dim, .text "───", .reset]
    else if b.toNat < 0x80 then [.text (String.singleton (Char.ofNat b.toNat) ++ "  ")]
    else [.dim, .text "┄┄┄", .reset]

def border : List Terminal.Piece := [.dim, .text "│", .reset]

def label (name : String) : List Terminal.Piece := [.bold, .text name, .reset]

def boxed (inside : List Terminal.Piece) : List Terminal.Piece := border ++ inside ++ border

def topLine : List Terminal.Piece :=
  [.dim, .text "┌──────────────────────────────────┐", .reset]

def headLine : List Terminal.Piece :=
  [.dim, .text "│      ", .italic, .text "hex   uint   int   char", .reset, .dim,
    .text "     │", .reset]

def bottomLine : List Terminal.Piece :=
  [.dim, .text "└──────────────────────────────────┘", .reset]

def registerLine (name : String) (b : Byte) : List Terminal.Piece :=
  boxed <| [.text " "] ++ label name ++
    [.text ("   0x" ++ hexByte b ++ "  " ++ Text.padLeft 4 (toString b.toNat) ++ "  " ++
      Text.padLeft 4 (toString b.toInt) ++ "   ")] ++
    character b ++ [.text "   "]

def pairLine (p : Processor) : List Terminal.Piece :=
  boxed <| [.text " "] ++ label "BC" ++ [.text (" " ++ hexWord (p.pair .bc) ++ " ")] ++
    label "DE" ++ [.text (" " ++ hexWord (p.pair .de) ++ " ")] ++
    label "HL" ++ [.text (" " ++ hexWord (p.pair .hl) ++ "      ")]

def controlLine (p : Processor) : List Terminal.Piece :=
  boxed <| [.text " "] ++ label "PC" ++ [.text (" " ++ hexWord p.pc ++ " ")] ++
    label "SP" ++ [.text (" " ++ hexWord p.sp ++ " ")] ++
    label "IE" ++ [.text (" " ++ bit p.interrupts ++ "         ")]

/-- A condition code that is set stands out in upper case; one that is clear is dim and in lower
case. -/
def flagCell (flags : Flags) (f : Flag) : List Terminal.Piece :=
  (if flags.get f then label f.name else [.dim, .text f.lowerName, .reset]) ++ [.text " "]

def flagLine (p : Processor) : List Terminal.Piece :=
  boxed <| [.text " "] ++ flags.flatMap (flagCell p.flags) ++ [.text (Text.padLeft 21 "")]

def boxLines (p : Processor) : List (List Terminal.Piece) :=
  [topLine, headLine] ++ registers.map (fun r => registerLine r.name (p.reg r)) ++
    [pairLine p, controlLine p, flagLine p, bottomLine]

def lines (minimal : Bool) (p : Processor) : List String :=
  if minimal then plainLines p else (boxLines p).map Terminal.render

def text (minimal : Bool) (p : Processor) : String :=
  String.join ((lines minimal p).map (· ++ "\n"))

end RegisterDump
end Intel8080
