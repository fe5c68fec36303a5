import Intel8080.Proofs.Arithmetic.Accumulator
import Intel8080.Proofs.Arithmetic.Rounds
import Intel8080.Proofs.Processor.Stores

/-! Decimal addition. The sum of two bytes of decimal digits, adjusted, is the byte of the digits of
their sum, and its carry stands for a hundred. Numbers of any length are added byte by byte. Main
statement: `decimal_sum`. -/
namespace Intel8080

def IsDecimal (b : Byte) : Prop := b.toNat / 16 ≤ 9 ∧ b.toNat % 16 ≤ 9

instance (b : Byte) : Decidable (IsDecimal b) := inferInstanceAs (Decidable (_ ∧ _))

def decimalValue (b : Byte) : Nat := 10 * (b.toNat / 16) + b.toNat % 16

namespace Alu

theorem lowNibbleOver_add {x y : Byte} (hx : IsDecimal x) (hy : IsDecimal y) (carry : Bool) :
    lowNibbleOver (add x y carry).1 (add x y carry).2 = true ↔
      9 < x.toNat % 16 + y.toNat % 16 + carry.toNat := by
  obtain ⟨-, hx⟩ := hx
  obtain ⟨-, hy⟩ := hy
  have hc := carry.toNat_le
  rw [lowNibbleOver, auxCarry_snd_add, Flags.nibbleCarry, toNat_fst_add]
  simp only [Bool.or_eq_true, decide_eq_true_eq]
  omega

theorem highNibbleOver_add {x y : Byte} (hx : IsDecimal x) (hy : IsDecimal y) (carry : Bool) :
    highNibbleOver (add x y carry).1 (add x y carry).2 = true ↔
      99 < decimalValue x + decimalValue y + carry.toNat := by
  obtain ⟨hx, hx'⟩ := hx
  obtain ⟨hy, hy'⟩ := hy
  have hc := carry.toNat_le
  rw [highNibbleOver, carry_snd_add, toNat_fst_add, decimalValue, decimalValue]
  simp only [Bool.or_eq_true, decide_eq_true_eq]
  omega

theorem exists_digit {sum : Nat} {passes : Bool} (bound : sum ≤ 19) (h : passes = true ↔ 9 < sum) :
    ∃ digit ≤ 9, sum = digit + 10 * passes.toNat := by
  cases passes with
  | false =>
    have small : ¬9 < sum := fun big => Bool.false_ne_true (h.mpr big)
    exact ⟨sum, by omega, rfl⟩
  | true =>
    have big : 9 < sum := h.mp rfl
    exact ⟨sum - 10, by omega, by rw [Bool.toNat_true]; omega⟩

/-- Two digits of each number and the carry are added to two digits and a carry. -/
theorem decimalAdjust_add {x y : Byte} (hx : IsDecimal x) (hy : IsDecimal y) (carry : Bool) :
    let sum := add x y carry
    let adjusted := decimalAdjust sum.1 sum.2
    IsDecimal adjusted.1 ∧ decimalValue adjusted.1 + 100 * adjusted.2.carry.toNat =
      decimalValue x + decimalValue y + carry.toNat := by
  intro sum adjusted
  have low : lowNibbleOver sum.1 sum.2 = true ↔ _ := lowNibbleOver_add hx hy carry
  have high : highNibbleOver sum.1 sum.2 = true ↔ _ := highNibbleOver_add hx hy carry
  have total : sum.1.toNat = _ := toNat_fst_add x y carry
  have result : adjusted.1.toNat = _ := toNat_fst_decimalAdjust sum.1 sum.2
  have carried : adjusted.2.carry = _ := carry_snd_decimalAdjust sum.1 sum.2
  simp only [IsDecimal, decimalValue] at hx hy high ⊢
  rw [total] at result
  rw [carried]
  generalize lowNibbleOver sum.1 sum.2 = l at *
  generalize highNibbleOver sum.1 sum.2 = h at *
  have hc := carry.toNat_le
  have hl := l.toNat_le
  obtain ⟨ones, hones, lowSum⟩ := exists_digit (by omega) low
  have tenOrMore : h = true ↔ 9 < x.toNat / 16 + y.toNat / 16 + l.toNat := by
    rw [high]
    omega
  obtain ⟨tens, htens, highSum⟩ := exists_digit (by omega) tenOrMore
  -- each correction turns the ten that its nibble carries into a sixteen
  have digits : adjusted.1.toNat = 16 * tens + ones := by
    omega
  omega

end Alu

namespace Machine
variable {σ : Type} [Ports σ]

/-- The machine, with `x` in the accumulator, adds `y` and the carry and adjusts the sum, which
leaves `z` in the accumulator and `next` in the carry. -/
structure AddsDecimal (m : Machine σ) (x y : Byte) (carry : Bool) (z : Byte) (next : Bool) :
    Prop where
  accumulator : m.processor.a = x
  carryIn : m.processor.flags.carry = carry
  adds : m.Combines .adc y
  adjusts : m.step.Adjusts
  result : m.step.step.processor.a = z
  carryOut : m.step.step.processor.flags.carry = next

def decimalRound (σ : Type) [Ports σ] : Round := fun x y carry z next =>
  ∃ m : Machine σ, m.AddsDecimal x y carry z next

theorem decimalValue_of_addsDecimal {m : Machine σ} {x y z : Byte} {carry next : Bool}
    (hx : IsDecimal x) (hy : IsDecimal y) (h : m.AddsDecimal x y carry z next) :
    IsDecimal z ∧
      decimalValue z + 100 * next.toNat = decimalValue x + decimalValue y + carry.toNat := by
  obtain ⟨rfl, rfl, adds, adjusts, rfl, rfl⟩ := h
  have sum : m.step.processor = { m.processor with
      a := (Alu.add m.processor.a y m.processor.flags.carry).1
      flags := (Alu.add m.processor.a y m.processor.flags.carry).2
      pc := m.nextAddress } := processor_step_of_combines adds
  rw [processor_step_of_adjusts adjusts, sum]
  exact Alu.decimalAdjust_add hx hy m.processor.flags.carry

/-- Decimal numbers of any length are added byte by byte, on any machines of which each is entered
with the carry that the one before it left. -/
theorem decimal_sum {xs ys zs : List Byte} {carry last : Bool}
    (rounds : Rounds (decimalRound σ) xs ys carry zs last)
    (hx : ∀ x ∈ xs, IsDecimal x) (hy : ∀ y ∈ ys, IsDecimal y) :
    zs.length = xs.length ∧ (∀ z ∈ zs, IsDecimal z) ∧
      Nat.ofDigits 100 (zs.map decimalValue) + last.toNat * 100 ^ xs.length =
        Nat.ofDigits 100 (xs.map decimalValue) + Nat.ofDigits 100 (ys.map decimalValue) +
          carry.toNat := by
  refine ⟨rounds.length_eq.2, rounds.sum_eq ?_ hx hy⟩
  rintro x y carry z next hx hy ⟨m, adds⟩
  exact decimalValue_of_addsDecimal hx hy adds

/-- `ACI 05`, `DAA`, `MOV B,A`, `MVI A,48`, `ADC M` and `DAA`, with 51 behind them at address 8. -/
def sumProgram : Memory :=
  Memory.zero.storeAll [(0, 0xCE), (1, 0x05), (2, 0x27), (3, 0x47), (4, 0x3E), (5, 0x48), (6, 0x8E),
    (7, 0x27), (8, 0x51)]

def sumsDecimals : Machine Unconnected where
  processor :=
    { a := 0x95, l := 8, flags := { sign := true, auxCarry := true }, memory := sumProgram }
  ports := ⟨⟩

def sumsHundreds : Machine Unconnected := { sumsDecimals with
  processor := { sumsDecimals.processor with
    a := 0x48
    pc := 6
    flags := { zero := true, auxCarry := true, parity := true, carry := true } }
  steps := 4 }

theorem sumsDecimals_adds : sumsDecimals.AddsDecimal 0x95 0x05 false 0x00 true ∧
    sumsDecimals.step.step.step.step = sumsHundreds := by
  have aci : sumProgram.read 0 = 0xCE := by simp [sumProgram, Memory.read_write]
  have five : sumProgram.readWord 1 = 0x2705 := by
    simp [sumProgram, Memory.readWord, Memory.read_write, Word.ofBytes]
  have daa : sumProgram.read 2 = 0x27 := by simp [sumProgram, Memory.read_write]
  have mov : sumProgram.read 3 = 0x47 := by simp [sumProgram, Memory.read_write]
  have mvi : sumProgram.read 4 = 0x3E := by simp [sumProgram, Memory.read_write]
  have addend : sumProgram.readWord 5 = 0x8E48 := by
    simp [sumProgram, Memory.readWord, Memory.read_write, Word.ofBytes]
  have h1 : sumsDecimals.step = { sumsDecimals with
      processor := { sumsDecimals.processor with
        a := 0x9A, pc := 2, flags := { sign := true, parity := true } }
      steps := 1 } :=
    step_eq_of_read 0 0xCE 0x2705 rfl rfl rfl aci five rfl
  have h2 : sumsDecimals.step.step = { sumsHundreds with
      processor := { sumsHundreds.processor with a := 0, pc := 3 }, steps := 2 } := by
    rw [h1]
    exact step_eq_of_read 2 0x27 _ rfl rfl rfl daa rfl rfl
  have h3 : sumsDecimals.step.step.step = { sumsHundreds with
      processor := { sumsHundreds.processor with a := 0, pc := 4 }, steps := 3 } := by
    rw [h2]
    exact step_eq_of_read 3 0x47 _ rfl rfl rfl mov rfl rfl
  have h4 : sumsDecimals.step.step.step.step = sumsHundreds := by
    rw [h3]
    exact step_eq_of_read 4 0x3E 0x8E48 rfl rfl rfl mvi addend rfl
  have adds : sumsDecimals.Combines .adc 0x05 :=
    ⟨executes_of_all rfl rfl, Or.inr ⟨by rw [opcode_of_read aci]; rfl, congrArg Word.lo five⟩⟩
  have adjusts : sumsDecimals.step.Adjusts := by
    rw [h1]
    exact adjusts_of_read (executes_of_all rfl rfl) daa
  exact ⟨⟨rfl, rfl, adds, adjusts, by rw [h2], by rw [h2]; rfl⟩, h4⟩

theorem sumsHundreds_adds : sumsHundreds.AddsDecimal 0x48 0x51 true 0x00 true := by
  have adc : sumProgram.read 6 = 0x8E := by simp [sumProgram, Memory.read_write]
  have daa : sumProgram.read 7 = 0x27 := by simp [sumProgram, Memory.read_write]
  have addend : sumsHundreds.processor.reg .m = 0x51 := by
    change sumProgram.read 8 = 0x51
    simp [sumProgram]
  have h1 : sumsHundreds.step = { sumsHundreds with
      processor := { sumsHundreds.processor.accumulate .adc (sumsHundreds.processor.reg .m) with
        pc := 7 }
      steps := 5 } :=
    step_eq_of_read 6 0x8E _ rfl rfl rfl adc rfl rfl
  rw [addend] at h1
  have h2 : sumsHundreds.step.step = { sumsHundreds with
      processor := { sumsHundreds.processor with a := 0, pc := 8 }, steps := 6 } := by
    rw [h1]
    exact step_eq_of_read 7 0x27 _ rfl rfl rfl daa rfl rfl
  have adds : sumsHundreds.Combines .adc 0x51 :=
    ⟨executes_of_all rfl rfl, Or.inl ⟨.m, by rw [opcode_of_read adc]; rfl, addend⟩⟩
  have adjusts : sumsHundreds.step.Adjusts := by
    rw [h1]
    exact adjusts_of_read (executes_of_all rfl rfl) daa
  exact ⟨rfl, rfl, adds, adjusts, by rw [h2], by rw [h2]; rfl⟩

theorem sumsDecimals_sum : Rounds (decimalRound Unconnected) [0x95, 0x48] [0x05, 0x51] false
      [0x00, 0x00] true ∧
    sumsDecimals.processor.flags.auxCarry = true ∧
    sumsDecimals.step.step.step.step = sumsHundreds ∧
    Nat.ofDigits 100 ([0x00, 0x00].map decimalValue) + true.toNat * 100 ^ 2 =
      Nat.ofDigits 100 ([0x95, 0x48].map decimalValue) +
        Nat.ofDigits 100 ([0x05, 0x51].map decimalValue) + false.toNat := by
  obtain ⟨ones, onward⟩ := sumsDecimals_adds
  have rounds : Rounds (decimalRound Unconnected) [0x95, 0x48] [0x05, 0x51] false
      [0x00, 0x00] true := .cons ⟨_, ones⟩ (.cons ⟨_, sumsHundreds_adds⟩ (.nil true))
  obtain ⟨-, -, sum⟩ := decimal_sum rounds (by decide) (by decide)
  exact ⟨rounds, rfl, onward, sum⟩

end Machine
end Intel8080
