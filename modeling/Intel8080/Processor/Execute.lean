import Intel8080.Alu
import Intel8080.Condition
import Intel8080.Instruction.Basic
import Intel8080.Processor.Basic

/-! The effect of each instruction on the processor, and where control goes after it. The
instructions that use a port do nothing here: what they do depends on a device. -/
namespace Intel8080

/-- Where control goes after an instruction. -/
inductive Flow
  /-- To the instruction that stands next in memory. -/
  | next
  /-- Nowhere, until an interrupt lets it go on to the next instruction. -/
  | halt
  | jump (target : Word)
  deriving DecidableEq

def Flow.target (next : Word) : Flow → Word
  | .jump target => target
  | _ => next

def Flow.fallsThrough : Flow → Bool
  | .jump _ => false
  | _ => true

/-- The address of a restart. -/
def restartAddress (vector : BitVec 3) : Word := 0#10 ++ vector ++ 0#3

theorem toNat_restartAddress : ∀ v : BitVec 3, (restartAddress v).toNat = 8 * v.toNat := by
  decide

namespace Processor

def accumulate (p : Processor) (op : AluOp) (value : Byte) : Processor :=
  let (a, flags) := Alu.apply op p.a value p.flags.carry
  { p with a, flags }

def rotated (p : Processor) (result : Byte × Bool) : Processor :=
  { p with a := result.1, flags := { p.flags with carry := result.2 } }

def call (p : Processor) (target back : Word) : Processor × Flow := (p.push back, .jump target)

/-- Jump to the address on top of the stack. -/
def ret (p : Processor) : Processor × Flow := (p.drop, .jump p.top)

/-- Add a pair to `HL`. Only the carry shows. -/
def addPair (p : Processor) (rp : Pair) : Processor :=
  let sum := (p.pair .hl).toNat + (p.pair rp).toNat
  { p with flags := p.flags.setCarry sum .word }.setPair .hl (BitVec.ofNat 16 sum)

def exchangeTop (p : Processor) : Processor :=
  let top := p.top
  let hl := p.pair .hl
  { p with memory := p.memory.writeWord p.sp hl }.setPair .hl top

/-- Execute an instruction. `operand` is the word after the opcode byte, whose low byte alone
counts where the instruction has one operand byte; `next` is the address of the next instruction.
-/
def execute (p : Processor) (operand next : Word) : Instruction → Processor × Flow
  | .nop => (p, .next)
  | .hlt => (p, .halt)
  | .mov dest src => (p.setReg dest (p.reg src), .next)
  | .mvi dest => (p.setReg dest operand.lo, .next)
  | .lxi dest => (p.setPair dest operand, .next)
  | .stax rp => ({ p with memory := p.memory.write (p.pair rp) p.a }, .next)
  | .ldax rp => ({ p with a := p.memory.read (p.pair rp) }, .next)
  | .sta => ({ p with memory := p.memory.write operand p.a }, .next)
  | .lda => ({ p with a := p.memory.read operand }, .next)
  | .shld => ({ p with memory := p.memory.writeWord operand (p.pair .hl) }, .next)
  | .lhld => (p.setPair .hl (p.memory.readWord operand), .next)
  | .xchg => ({ p with d := p.h, e := p.l, h := p.d, l := p.e }, .next)
  | .inr r =>
    let (value, flags) := Alu.increment (p.reg r) p.flags
    ({ p with flags }.setReg r value, .next)
  | .dcr r =>
    let (value, flags) := Alu.decrement (p.reg r) p.flags
    ({ p with flags }.setReg r value, .next)
  | .inx rp => (p.setPair rp (p.pair rp + 1), .next)
  | .dcx rp => (p.setPair rp (p.pair rp - 1), .next)
  | .dad rp => (p.addPair rp, .next)
  | .alu op src => (p.accumulate op (p.reg src), .next)
  | .aluImm op => (p.accumulate op operand.lo, .next)
  | .daa =>
    let (a, flags) := Alu.decimalAdjust p.a p.flags
    ({ p with a, flags }, .next)
  | .rlc => (p.rotated (Alu.rotateLeft p.a), .next)
  | .rrc => (p.rotated (Alu.rotateRight p.a), .next)
  | .ral => (p.rotated (Alu.rotateLeftCarry p.a p.flags.carry), .next)
  | .rar => (p.rotated (Alu.rotateRightCarry p.a p.flags.carry), .next)
  | .cma => ({ p with a := ~~~p.a }, .next)
  | .stc => ({ p with flags := { p.flags with carry := true } }, .next)
  | .cmc => ({ p with flags := { p.flags with carry := !p.flags.carry } }, .next)
  | .jmp => (p, .jump operand)
  | .jmpIf cond => (p, if cond.holds p.flags then .jump operand else .next)
  | .call => p.call operand next
  | .callIf cond => if cond.holds p.flags then p.call operand next else (p, .next)
  | .ret => p.ret
  | .retIf cond => if cond.holds p.flags then p.ret else (p, .next)
  | .rst vector => p.call (restartAddress vector) next
  | .pchl => (p, .jump (p.pair .hl))
  | .push rp => (p.push (p.pair rp), .next)
  | .pop rp => (p.drop.setPair rp p.top, .next)
  | .xthl => (p.exchangeTop, .next)
  | .sphl => ({ p with sp := p.pair .hl }, .next)
  | .input | .output => (p, .next)
  | .ei => ({ p with interrupts := true }, .next)
  | .di => ({ p with interrupts := false }, .next)

end Processor
end Intel8080
