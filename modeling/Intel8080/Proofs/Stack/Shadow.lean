import Intel8080.Proofs.Processor.Stores
import Intel8080.Proofs.Stack.Words

/-! The shadow of the stack: a list of the words that calls and pushes put on the stack, kept beside
a run and never stored in memory. While nothing else touches the stack, the stack pointer tells the
depth of the shadow, and every return and every pop meets the word that its matching call or push
left. -/
namespace Intel8080

/-- What an instruction does to the stack. -/
inductive StackMove
  | push (w : Word)
  | pop
  | keep
  deriving DecidableEq

/-- The words on the stack after a move, the latest first, unless the move takes a word from an
empty stack. -/
def StackMove.after? : StackMove → List Word → Option (List Word)
  | .push w, ws => some (w :: ws)
  | .pop, _ :: ws => some ws
  | .pop, [] => none
  | .keep, ws => some ws

def Instruction.returns (flags : Flags) : Instruction → Bool
  | .ret => true
  | .retIf cond => cond.holds flags
  | _ => false

/-- The instruction would have called or returned, but its condition does not hold. -/
def Instruction.declines (flags : Flags) : Instruction → Bool
  | .callIf cond | .retIf cond => !cond.holds flags
  | _ => false

namespace Processor

def stackMove (p : Processor) (next : Word) : Instruction → StackMove
  | .call | .rst _ => .push next
  | .callIf cond => if cond.holds p.flags then .push next else .keep
  | .push rp => .push (p.pair rp)
  | .pop _ | .ret => .pop
  | .retIf cond => if cond.holds p.flags then .pop else .keep
  | _ => .keep

/-- The registers of the pair hold the bytes of the word. In `PSW` each condition code is a bit of
the low byte, and the bits 5, 3 and 1 tell nothing. -/
def Loaded (p : Processor) (w : Word) : Pair → Prop
  | .bc => p.b = w.hi ∧ p.c = w.lo
  | .de => p.d = w.hi ∧ p.e = w.lo
  | .hl => p.h = w.hi ∧ p.l = w.lo
  | .sp => p.sp = w
  | .psw => p.a = w.hi ∧
      [p.flags.sign, p.flags.zero, p.flags.auxCarry, p.flags.parity, p.flags.carry] =
        [7, 6, 4, 2, 0].map w.lo.getLsbD

theorem loaded_setPair (p : Processor) (rp : Pair) (w : Word) : (p.setPair rp w).Loaded w rp := by
  cases rp <;> simp [Loaded, setPair, Flags.ofByte]

theorem bits_lo_pair_psw (p : Processor) :
    [7, 6, 4, 2, 0].map (p.pair .psw).lo.getLsbD =
      [p.flags.sign, p.flags.zero, p.flags.auxCarry, p.flags.parity, p.flags.carry] ∧
    [5, 3, 1].map (p.pair .psw).lo.getLsbD = [false, false, true] := by
  have bits := p.flags.bits_toByte
  simp only [List.map_cons, List.map_nil, List.cons.injEq] at bits
  obtain ⟨sign, zero, five, auxCarry, three, parity, one, carry, -⟩ := bits
  rw [pair, Word.lo_ofBytes]
  simp only [List.map_cons, List.map_nil, sign, zero, five, auxCarry, three, parity, one, carry,
    and_self]

theorem loaded_pair (p : Processor) (rp : Pair) : p.Loaded (p.pair rp) rp := by
  cases rp with
  | psw => exact ⟨(Word.hi_ofBytes _ _).symm, p.bits_lo_pair_psw.1.symm⟩
  | _ => simp [Loaded, pair]

theorem Loaded.pair_eq {p : Processor} {rp : Pair} {w : Word} (h : p.Loaded w rp)
    (other : rp ≠ .psw) : p.pair rp = w := by
  cases rp with
  | psw => exact absurd rfl other
  | sp => exact h
  | _ => rw [pair, h.1, h.2, Word.ofBytes_hi_lo]

theorem Loaded.setPC {p : Processor} {rp : Pair} {w : Word} (h : p.Loaded w rp) (pc : Word) :
    ({ p with pc } : Processor).Loaded w rp := by
  cases rp <;> exact h

theorem sp_setPair_of_ne {rp : Pair} (h : rp ≠ .sp) (p : Processor) (w : Word) :
    (p.setPair rp w).sp = p.sp := pair_setPair_of_ne h.symm p w

theorem execute_of_push {p : Processor} {next w : Word} {i : Instruction}
    (h : p.stackMove next i = .push w) (operand : Word) :
    (p.execute operand next i).1 = p.push w := by
  cases i with
  | call | rst | push => cases h; rfl
  | callIf cond =>
    cases hc : cond.holds p.flags with
    | true => simp_all [stackMove, execute, call]
    | false => simp [stackMove, hc] at h
  | retIf cond => cases hc : cond.holds p.flags <;> simp [stackMove, hc] at h
  | _ => cases h

theorem execute_of_pop {p : Processor} {next : Word} {i : Instruction}
    (h : p.stackMove next i = .pop) (hsp : i ≠ .pop .sp) (operand : Word) :
    (p.execute operand next i).1.sp = p.sp + 2 ∧
      (p.execute operand next i).1.memory = p.memory := by
  cases i with
  | ret => exact ⟨rfl, rfl⟩
  | pop rp =>
    have hne : rp ≠ .sp := fun e => hsp (e ▸ rfl)
    exact ⟨p.drop.sp_setPair_of_ne hne p.top, p.drop.memory_setPair rp p.top⟩
  | retIf cond =>
    cases hc : cond.holds p.flags with
    | true => simp [execute, ret, drop, hc]
    | false => simp [stackMove, hc] at h
  | callIf cond => cases hc : cond.holds p.flags <;> simp [stackMove, hc] at h
  | _ => cases h

theorem execute_of_returns {p : Processor} {i : Instruction} (h : i.returns p.flags = true)
    (operand next : Word) : p.execute operand next i = p.ret := by
  cases i with
  | ret => rfl
  | retIf cond => exact if_pos h
  | _ => cases h

theorem execute_of_declines {p : Processor} {i : Instruction} (h : i.declines p.flags = true)
    (operand next : Word) : p.execute operand next i = (p, .next) := by
  cases i with
  | callIf cond | retIf cond =>
    have hc : cond.holds p.flags = false := by simpa [Instruction.declines] using h
    simp [execute, hc]
  | _ => cases h

end Processor
end Intel8080
