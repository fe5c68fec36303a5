import Intel8080.Flags
import Intel8080.Memory
import Intel8080.Register

/-! The processor: its register file, its condition codes, its interrupt switch and the memory it
addresses. Pairs are not stored but read from their halves, so that `reg`, `pair` and their
setters are views of the same fields. The stack grows downwards. -/
namespace Intel8080

@[ext] structure Processor where
  a : Byte := 0
  b : Byte := 0
  c : Byte := 0
  d : Byte := 0
  e : Byte := 0
  h : Byte := 0
  l : Byte := 0
  sp : Word := 0
  pc : Word := 0
  flags : Flags := {}
  interrupts : Bool := false
  memory : Memory := Memory.zero
  deriving Inhabited

/-- An image that does not fit between its base and the end of memory. -/
structure TooLarge where
  base : Word
  length : Nat
  deriving DecidableEq

namespace Processor

def pair (p : Processor) : Pair → Word
  | .bc => .ofBytes p.b p.c
  | .de => .ofBytes p.d p.e
  | .hl => .ofBytes p.h p.l
  | .sp => p.sp
  | .psw => .ofBytes p.a p.flags.toByte

/-- Put a word into a pair. The fixed bits of the flag byte are lost. -/
def setPair (p : Processor) (rp : Pair) (value : Word) : Processor :=
  match rp with
  | .bc => { p with b := value.hi, c := value.lo }
  | .de => { p with d := value.hi, e := value.lo }
  | .hl => { p with h := value.hi, l := value.lo }
  | .sp => { p with sp := value }
  | .psw => { p with a := value.hi, flags := .ofByte value.lo }

def reg (p : Processor) : Register → Byte
  | .b => p.b
  | .c => p.c
  | .d => p.d
  | .e => p.e
  | .h => p.h
  | .l => p.l
  | .m => p.memory.read (p.pair .hl)
  | .a => p.a

def setReg (p : Processor) (r : Register) (value : Byte) : Processor :=
  match r with
  | .b => { p with b := value }
  | .c => { p with c := value }
  | .d => { p with d := value }
  | .e => { p with e := value }
  | .h => { p with h := value }
  | .l => { p with l := value }
  | .m => { p with memory := p.memory.write (p.pair .hl) value }
  | .a => { p with a := value }

@[simp] theorem reg_setReg_self (p : Processor) (r : Register) (v : Byte) :
    (p.setReg r v).reg r = v := by
  cases r <;> simp [reg, setReg, pair]

/-- A pair reads back what was stored, but for the fixed bits of the flag byte. -/
theorem pair_setPair_self (p : Processor) (rp : Pair) (w : Word) :
    (p.setPair rp w).pair rp =
      if rp = .psw then .ofBytes w.hi (w.lo &&& 0xD5 ||| 0x02) else w := by
  cases rp <;> simp [pair, setPair, Flags.toByte_ofByte]

/-- No two pairs overlap. -/
theorem pair_setPair_of_ne {rp rq : Pair} (h : rq ≠ rp) (p : Processor) (w : Word) :
    (p.setPair rp w).pair rq = p.pair rq := by
  cases rp <;> cases rq <;> first | rfl | exact absurd rfl h

/-- Store a word below the top of the stack, its high byte at the higher address. -/
def push (p : Processor) (value : Word) : Processor :=
  let sp := p.sp - 2
  { p with sp, memory := p.memory.writeWord sp value }

def top (p : Processor) : Word := p.memory.readWord p.sp

/-- Take the word on top away. It stays in memory. -/
def drop (p : Processor) : Processor := { p with sp := p.sp + 2 }

def pop (p : Processor) : Word × Processor := (p.top, p.drop)

@[simp] theorem top_push (p : Processor) (w : Word) : (p.push w).top = w := by
  simp [push, top]

@[simp] theorem sp_drop_push (p : Processor) (w : Word) : (p.push w).drop.sp = p.sp := by
  simp only [push, drop]
  exact BitVec.sub_add_cancel _ _

/-- Copy an image into memory. Nothing is written if it does not fit. -/
def load (p : Processor) (image : List Byte) (base : Word) : Except TooLarge Processor :=
  if Memory.Fits base image then .ok { p with memory := p.memory.writeBytes base image }
  else .error ⟨base, image.length⟩

end Processor
end Intel8080
