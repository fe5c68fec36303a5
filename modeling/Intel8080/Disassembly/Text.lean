import Intel8080.Disassembly.Basic
import Intel8080.Text.Column
import Intel8080.Text.Hex

/-! A record in assembly language: its address, its bytes, its mnemonic and its operands, each in
a column of its own. An operand that is missing is written as two question marks. -/
namespace Intel8080.Record

def byteColumn (r : Record) : String :=
  String.intercalate " " (r.bytes.map fun b => String.ofList (Text.hexByte b))

def immediate (r : Record) : String :=
  match r.byte?, r.word? with
  | some b, _ => "$" ++ String.ofList (Text.hexByte b)
  | none, some w => "$" ++ String.ofList (Text.hexWord w)
  | none, none => if 1 < r.opcode.length then "??" else ""

def operandText (r : Record) : String :=
  match r.opcode.instruction with
  | .mov dest src => dest.name ++ "," ++ src.name
  | .mvi dest => dest.name ++ "," ++ r.immediate
  | .lxi dest => dest.name ++ "," ++ r.immediate
  | .inr reg | .dcr reg | .alu _ reg => reg.name
  | .stax rp | .ldax rp | .inx rp | .dcx rp | .dad rp | .push rp | .pop rp => rp.name
  | .rst vector => toString vector.toNat
  | _ => r.immediate

def text (r : Record) : String :=
  String.ofList (Text.hexWord r.address) ++ "  " ++ Text.padRight 10 r.byteColumn ++
    Text.padRight 6 r.opcode.mnemonic ++ r.operandText

end Intel8080.Record
