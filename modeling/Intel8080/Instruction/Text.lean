import Intel8080.Instruction.Basic

/-! The words for an instruction: its mnemonic in assembly language, and its effect in register
transfer notation. -/
namespace Intel8080

def AluOp.mnemonic : AluOp → String
  | .add => "ADD"
  | .adc => "ADC"
  | .sub => "SUB"
  | .sbb => "SBB"
  | .ana => "ANA"
  | .xra => "XRA"
  | .ora => "ORA"
  | .cmp => "CMP"

def AluOp.immediateMnemonic : AluOp → String
  | .add => "ADI"
  | .adc => "ACI"
  | .sub => "SUI"
  | .sbb => "SBI"
  | .ana => "ANI"
  | .xra => "XRI"
  | .ora => "ORI"
  | .cmp => "CPI"

def AluOp.summary (operand : String) : AluOp → String
  | .add => "A <- A + " ++ operand
  | .adc => "A <- A + " ++ operand ++ " + CY"
  | .sub => "A <- A - " ++ operand
  | .sbb => "A <- A - " ++ operand ++ " - CY"
  | .ana => "A <- A & " ++ operand
  | .xra => "A <- A ^ " ++ operand
  | .ora => "A <- A | " ++ operand
  | .cmp => "A - " ++ operand

namespace Instruction

def mnemonic : Instruction → String
  | .nop => "NOP"
  | .hlt => "HLT"
  | .mov _ _ => "MOV"
  | .mvi _ => "MVI"
  | .lxi _ => "LXI"
  | .stax _ => "STAX"
  | .ldax _ => "LDAX"
  | .sta => "STA"
  | .lda => "LDA"
  | .shld => "SHLD"
  | .lhld => "LHLD"
  | .xchg => "XCHG"
  | .inr _ => "INR"
  | .dcr _ => "DCR"
  | .inx _ => "INX"
  | .dcx _ => "DCX"
  | .dad _ => "DAD"
  | .alu op _ => op.mnemonic
  | .aluImm op => op.immediateMnemonic
  | .daa => "DAA"
  | .rlc => "RLC"
  | .rrc => "RRC"
  | .ral => "RAL"
  | .rar => "RAR"
  | .cma => "CMA"
  | .stc => "STC"
  | .cmc => "CMC"
  | .jmp => "JMP"
  | .jmpIf cond => "J" ++ cond.suffix
  | .call => "CALL"
  | .callIf cond => "C" ++ cond.suffix
  | .ret => "RET"
  | .retIf cond => "R" ++ cond.suffix
  | .rst _ => "RST"
  | .pchl => "PCHL"
  | .push _ => "PUSH"
  | .pop _ => "POP"
  | .xthl => "XTHL"
  | .sphl => "SPHL"
  | .input => "IN"
  | .output => "OUT"
  | .ei => "EI"
  | .di => "DI"

def summary : Instruction → String
  | .nop => "no operation"
  | .hlt => "halt until interrupt"
  | .mov _ _ => "r1 <- r2"
  | .mvi _ => "r <- byte"
  | .lxi _ => "rp <- word"
  | .stax _ => "(rp) <- A"
  | .ldax _ => "A <- (rp)"
  | .sta => "(adr) <- A"
  | .lda => "A <- (adr)"
  | .shld => "(adr) <- L; (adr+1) <- H"
  | .lhld => "L <- (adr); H <- (adr+1)"
  | .xchg => "HL <-> DE"
  | .inr _ => "r <- r+1"
  | .dcr _ => "r <- r-1"
  | .inx _ => "rp <- rp+1"
  | .dcx _ => "rp <- rp-1"
  | .dad _ => "HL <- HL + rp"
  | .alu op _ => op.summary "r"
  | .aluImm op => op.summary "byte"
  | .daa => "decimal adjust A"
  | .rlc => "A <- A << 1; CY <- A7"
  | .rrc => "A <- A >> 1; CY <- A0"
  | .ral => "A <- A << 1 through CY"
  | .rar => "A <- A >> 1 through CY"
  | .cma => "A <- !A"
  | .stc => "CY <- 1"
  | .cmc => "CY <- !CY"
  | .jmp => "PC <- adr"
  | .jmpIf _ => "if cond, PC <- adr"
  | .call => "push PC; PC <- adr"
  | .callIf _ => "if cond, push PC; PC <- adr"
  | .ret => "PC <- pop"
  | .retIf _ => "if cond, PC <- pop"
  | .rst _ => "push PC; PC <- 8*n"
  | .pchl => "PC <- HL"
  | .push _ => "push rp"
  | .pop _ => "rp <- pop"
  | .xthl => "L <-> (SP); H <-> (SP+1)"
  | .sphl => "SP <- HL"
  | .input => "A <- port"
  | .output => "port <- A"
  | .ei => "enable interrupts"
  | .di => "disable interrupts"

end Instruction
end Intel8080
