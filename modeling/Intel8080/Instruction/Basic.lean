import Intel8080.Flags
import Intel8080.Register

/-! Instructions without their operand bytes, how many operand bytes each one has, and the condition
codes that each one may change. -/
namespace Intel8080

inductive Instruction
  | nop
  | hlt
  -- data transfer, the destination first
  | mov (dest src : Register)
  | mvi (dest : Register)
  | lxi (dest : Pair)
  | stax (address : Pair)
  | ldax (address : Pair)
  | sta
  | lda
  | shld
  | lhld
  | xchg
  -- arithmetic and logic
  | inr (r : Register)
  | dcr (r : Register)
  | inx (rp : Pair)
  | dcx (rp : Pair)
  | dad (rp : Pair)
  | alu (op : AluOp) (src : Register)
  | aluImm (op : AluOp)
  | daa
  | rlc
  | rrc
  | ral
  | rar
  | cma
  | stc
  | cmc
  -- branches
  | jmp
  | jmpIf (cond : Condition)
  | call
  | callIf (cond : Condition)
  | ret
  | retIf (cond : Condition)
  | rst (vector : BitVec 3)
  | pchl
  -- the stack
  | push (rp : Pair)
  | pop (rp : Pair)
  | xthl
  | sphl
  -- ports and the interrupt switch
  | input
  | output
  | ei
  | di
  deriving DecidableEq, Inhabited

namespace Instruction

def operandCount : Instruction → Nat
  | .lxi _ | .sta | .lda | .shld | .lhld | .jmp | .jmpIf _ | .call | .callIf _ => 2
  | .mvi _ | .aluImm _ | .input | .output => 1
  | _ => 0

theorem operandCount_le (i : Instruction) : i.operandCount ≤ 2 := by
  cases i <;> simp [operandCount]

def length (i : Instruction) : Nat := 1 + i.operandCount

/-- The condition codes that the instruction may change. -/
def affected : Instruction → List Flag
  | .inr _ | .dcr _ => [.zero, .sign, .parity, .auxCarry]
  | .alu _ _ | .aluImm _ | .daa | .pop .psw => Flag.all
  | .dad _ | .rlc | .rrc | .ral | .rar | .stc | .cmc => [.carry]
  | _ => []

end Instruction
end Intel8080
