import Intel8080.Proofs.Arithmetic.Binary
import Intel8080.Proofs.Machine.Sequence

/-! Sums of pairs. `DAD` adds a pair to `HL` at once, and two operations on the accumulator add it
byte by byte, the second of them with the carry of the first. Both hold the sum of the two words in
`HL` and the carry, and a word and a carry can hold it in one way only. Main statement:
`dad_sums_bytewise`. -/
namespace Intel8080

theorem Word.eq_of_toNat_add_carry_eq {x y : Word} {c d : Bool}
    (h : x.toNat + 65536 * c.toNat = y.toNat + 65536 * d.toNat) : x = y ∧ c = d := by
  have hx := x.isLt
  have hy := y.isLt
  have same : c = d := by cases c <;> cases d <;> simp at h ⊢ <;> omega
  subst same
  exact ⟨BitVec.eq_of_toNat_eq (by omega), rfl⟩

def Pair.halves? : Pair → Option (Register × Register)
  | .bc => some (.b, .c)
  | .de => some (.d, .e)
  | .hl => some (.h, .l)
  | .sp | .psw => none

/-- Add two registers to `H` and `L` through the accumulator, the low bytes first. -/
def bytewiseSum (high low : Register) : List Instruction :=
  [.mov .a .l, .alu .add low, .mov .l .a, .mov .a .h, .alu .adc high, .mov .h .a]

theorem bytewiseSum_plain (high low : Register) :
    ∀ i ∈ bytewiseSum high low, i.isPlain = true := by
  simp [bytewiseSum, Instruction.isPlain, Instruction.operandCount]

namespace Processor

theorem toNat_addPair (p : Processor) (rp : Pair) :
    ((p.addPair rp).pair .hl).toNat + 65536 * (p.addPair rp).flags.carry.toNat =
      (p.pair .hl).toNat + (p.pair rp).toNat := by
  have hx := (p.pair .hl).isLt
  have hy := (p.pair rp).isLt
  have word : (p.addPair rp).pair .hl =
      BitVec.ofNat 16 ((p.pair .hl).toNat + (p.pair rp).toNat) := pair_setPair_self _ .hl _
  have carry : (p.addPair rp).flags.carry =
      decide (0xFFFF < (p.pair .hl).toNat + (p.pair rp).toNat) := rfl
  rw [word, carry, BitVec.toNat_ofNat]
  by_cases passes : 0xFFFF < (p.pair .hl).toNat + (p.pair rp).toNat
  · rw [decide_eq_true passes, Bool.toNat_true]
    omega
  · rw [decide_eq_false passes, Bool.toNat_false]
    omega

theorem pair_addPair_of_ne {rp : Pair} (hl : rp ≠ .hl) (psw : rp ≠ .psw) (p : Processor)
    (other : Pair) : (p.addPair other).pair rp = p.pair rp := by
  cases rp with
  | hl => exact absurd rfl hl
  | psw => exact absurd rfl psw
  | _ => rfl

theorem toNat_bytewiseSum {rp : Pair} {high low : Register}
    (halves : rp.halves? = some (high, low)) (p : Processor) :
    let q := (bytewiseSum high low).foldl carryOut p
    (q.pair .hl).toNat + 65536 * q.flags.carry.toNat = (p.pair .hl).toNat + (p.pair rp).toNat := by
  intro q
  let first := Alu.add p.l (p.reg low) false
  let second := Alu.add p.h (p.reg high) first.2.carry
  -- `L` is replaced before the high bytes are added, but neither `H` nor what is added to it is
  obtain ⟨pair, hl, carry⟩ : p.pair rp = .ofBytes (p.reg high) (p.reg low) ∧
      q.pair .hl = .ofBytes second.1 first.1 ∧ q.flags.carry = second.2.carry := by
    cases rp with
    | bc | de | hl => cases halves; exact ⟨rfl, rfl, rfl⟩
    | sp | psw => cases halves
  have lowSum : first.1.toNat + 256 * first.2.carry.toNat = p.l.toNat + (p.reg low).toNat :=
    (Alu.isSum_add p.l (p.reg low) false).digits
  have highSum : second.1.toNat + 256 * second.2.carry.toNat =
      p.h.toNat + (p.reg high).toNat + first.2.carry.toNat :=
    (Alu.isSum_add p.h (p.reg high) first.2.carry).digits
  have whole : (p.pair .hl).toNat = 256 * p.h.toNat + p.l.toNat := Word.toNat_ofBytes p.h p.l
  rw [hl, carry, pair, whole, Word.toNat_ofBytes, Word.toNat_ofBytes]
  omega

end Processor

namespace Machine
variable {σ : Type} [Ports σ]

/-- `DAD` leaves in `HL` the sum of `HL` and a pair, as far as a word holds it, and in the carry
whether it is more. Nothing else changes but the program counter. The six instructions that add the
halves of the pair to `H` and `L` leave the same word and the same carry, also if the pair is `HL`.
-/
theorem dad_sums_bytewise {m : Machine σ} {rp : Pair} (running : m.status = .running)
    (dad : m.opcode.instruction = .dad rp) :
    let before := m.processor
    let after := m.step.processor
    let sum := (before.pair .hl).toNat + (before.pair rp).toNat
    (after.pair .hl).toNat = sum % 65536 ∧
    (after.flags.carry = true ↔ 65536 ≤ sum) ∧
    after = { before with
      h := after.h
      l := after.l
      flags := { before.flags with carry := after.flags.carry }
      pc := before.pc + 1 } ∧
    (rp ≠ .hl → after.pair rp = before.pair rp) ∧
    ∀ high low, rp.halves? = some (high, low) → ∀ n : Machine σ,
      n.processor.pair .hl = before.pair .hl → n.processor.pair rp = before.pair rp →
      n.Obeys (bytewiseSum high low) →
      (step^[6] n).processor.pair .hl = after.pair .hl ∧
      (step^[6] n).processor.flags.carry = after.flags.carry := by
  intro before after sum
  have executes : m.Executes := executes_of_isBasic running (by rw [dad]; rfl)
  have effect : after = { before.addPair rp with pc := before.pc + 1 } :=
    processor_step_of_isPlain executes dad rfl
  have total : (after.pair .hl).toNat + 65536 * after.flags.carry.toNat = sum := by
    rw [effect, Processor.pair_withPC]
    exact before.toNat_addPair rp
  have hw := (after.pair .hl).isLt
  have hc := after.flags.carry.toNat_le
  refine ⟨?_, ?_, ?_, fun hl => ?_, fun high low halves n sameHL samePair obeys => ?_⟩
  · omega
  · cases carry : after.flags.carry <;> simp [carry] at total ⊢ <;> omega
  · rw [effect]
    rfl
  · have psw : rp ≠ .psw := by
      rintro rfl
      exact Opcode.lookup_ne_dad_psw _ dad
    rw [effect, Processor.pair_withPC, Processor.pair_addPair_of_ne hl psw]
  · have bytewise := Processor.toNat_bytewiseSum halves n.processor
    have last : (step^[6] n).processor = _ := obeys.processor (bytewiseSum_plain high low)
    rw [last, Processor.pair_withPC]
    refine Word.eq_of_toNat_add_carry_eq (bytewise.trans ?_)
    rw [total, sameHL, samePair]

def doubles (codes : List Byte) : Machine Unconnected where
  processor :=
    { h := 0xC1, l := 0x80, flags := { zero := true, parity := true }
      memory := Memory.zero.writeBytes 0 codes }
  ports := ⟨⟩

def doublesAtOnce : Machine Unconnected := doubles [0x29]

def doublesBytewise : Machine Unconnected := doubles [0x7D, 0x85, 0x6F, 0x7C, 0x8C, 0x67]

/-- `DAD H` and the six instructions on `H` and `L` both leave 8300H and a carry. -/
theorem doubles_sums_bytewise :
    doublesAtOnce.opcode.instruction = .dad .hl ∧
    doublesBytewise.Obeys (bytewiseSum .h .l) ∧
    (doublesAtOnce.step.processor.pair .hl).toNat = 0x8300 ∧
    doublesAtOnce.step.processor.flags.carry = true ∧
    doublesAtOnce.step.processor.flags.zero = true ∧
    (step^[6] doublesBytewise).processor.pair .hl = doublesAtOnce.step.processor.pair .hl ∧
    (step^[6] doublesBytewise).processor.flags.carry = true := by
  have carries (codes : List Byte) (fits : Memory.Fits 0 codes) :
      (doubles codes).processor.memory.Carries (doubles codes).processor.pc codes :=
    Memory.carries_writeBytes Memory.zero fits
  have dad : doublesAtOnce.opcode.instruction = .dad .hl := by
    have code : doublesAtOnce.processor.memory.read doublesAtOnce.processor.pc = 0x29 :=
      carries [0x29] (by decide) 0 _ rfl
    rw [opcode_of_read code]
    rfl
  have obeys : doublesBytewise.Obeys (bytewiseSum .h .l) :=
    obeys_of_carries rfl rfl (carries [0x7D, 0x85, 0x6F, 0x7C, 0x8C, 0x67] (by decide))
      (by decide) (by decide)
  obtain ⟨value, carry, others, -, bytewise⟩ := dad_sums_bytewise rfl dad
  have hl (codes : List Byte) : (doubles codes).processor.pair .hl = .ofBytes 0xC1 0x80 := rfl
  have atOnce : doublesAtOnce.processor.pair .hl = .ofBytes 0xC1 0x80 := hl _
  have same : doublesBytewise.processor.pair .hl = doublesAtOnce.processor.pair .hl := hl _
  obtain ⟨sameHL, sameCarry⟩ := bytewise .h .l rfl doublesBytewise same same obeys
  have word : (Word.ofBytes 0xC1 0x80).toNat = 0xC180 := by decide
  rw [atOnce, word] at value carry
  have passes : doublesAtOnce.step.processor.flags.carry = true := carry.mpr (by omega)
  have zero : doublesAtOnce.step.processor.flags.zero = true :=
    congrArg (fun p : Processor => p.flags.zero) others
  exact ⟨dad, obeys, value, passes, zero, sameHL, sameCarry.trans passes⟩

end Machine
end Intel8080
