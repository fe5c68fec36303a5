import Intel8080.Proofs.Arithmetic.Accumulator
import Intel8080.Proofs.Opcode.Encodings
import Mathlib.Algebra.Group.Nat.Even

/-! What the operations on the accumulator calculate. Additions and subtractions are stated in whole
numbers, the logical operations bit by bit, and the condition codes by what they tell of the
operands and of the result. Main statement: `accumulator_of_combines`. -/
namespace Intel8080

/-- The codes that tell of a result alone. The parity code tells that the eight bits hold an even
number of ones. -/
structure Flags.Describes (flags : Flags) (result : Byte) : Prop where
  zero : flags.zero = true ↔ result = 0
  sign : flags.sign = true ↔ 128 ≤ result.toNat
  parity : flags.parity = true ↔
    Even (([0, 1, 2, 3, 4, 5, 6, 7].map result.getLsbD).count true)

theorem Flags.describes_setResult (flags : Flags) (result : Byte) :
    (flags.setResult result).Describes result where
  zero := by simp [setResult]
  sign := by simp [setResult, BitVec.msb_eq_decide]
  parity := by
    have places : [0, 1, 2, 3, 4, 5, 6, 7] = List.range 8 := rfl
    have count : ((List.range 8).map result.getLsbD).count true = ones result := by
      rw [List.count, List.countP_map, ones]
      exact List.countP_congr (by simp)
    rw [places, count, Nat.even_iff]
    simp [setResult, evenParity]

structure IsSum (a v : Byte) (k : Nat) (result : Byte) (flags : Flags) : Prop where
  value : result.toNat = (a.toNat + v.toNat + k) % 256
  carry : flags.carry = true ↔ 256 ≤ a.toNat + v.toNat + k
  auxCarry : flags.auxCarry = true ↔ 16 ≤ a.toNat % 16 + v.toNat % 16 + k
  describes : flags.Describes result

/-- A byte and codes are the difference of two bytes and a borrow. The carry code holds the borrow,
but the auxiliary carry code is set if the low digit borrows nothing. -/
structure IsDifference (a v : Byte) (k : Nat) (result : Byte) (flags : Flags) : Prop where
  value : (result.toNat : Int) = ((a.toNat : Int) - v.toNat - k) % 256
  carry : flags.carry = true ↔ a.toNat < v.toNat + k
  auxCarry : flags.auxCarry = true ↔ v.toNat % 16 + k ≤ a.toNat % 16
  describes : flags.Describes result

structure IsBitwise (f : Bool → Bool → Bool) (a v : Byte) (auxCarry : Bool) (result : Byte)
    (flags : Flags) : Prop where
  bit : ∀ i < 8, result.getLsbD i = f (a.getLsbD i) (v.getLsbD i)
  carry : flags.carry = false
  auxCarry : flags.auxCarry = auxCarry
  describes : flags.Describes result

/-- The accumulator and the codes that an operation leaves, given what it finds there. -/
def AluOp.Yields (a v : Byte) (carry : Bool) (a' : Byte) (flags : Flags) : AluOp → Prop
  | .add => IsSum a v 0 a' flags
  | .adc => IsSum a v carry.toNat a' flags
  | .sub => IsDifference a v 0 a' flags
  | .sbb => IsDifference a v carry.toNat a' flags
  | .ana => IsBitwise and a v (a.getLsbD 3 || v.getLsbD 3) a' flags
  | .xra => IsBitwise xor a v false a' flags
  | .ora => IsBitwise or a v false a' flags
  | .cmp => a' = a ∧ (∃ difference, IsDifference a v 0 difference flags) ∧
      (flags.zero = true ↔ a = v) ∧ (flags.carry = true ↔ a.toNat < v.toNat)

theorem IsDifference.eq_zero_iff {a v difference : Byte} {flags : Flags}
    (h : IsDifference a v 0 difference flags) : difference = 0 ↔ a = v := by
  have value := h.value
  have ha := a.isLt
  have hv := v.isLt
  have zero : (0 : Byte).toNat = 0 := rfl
  rw [← BitVec.toNat_inj, ← BitVec.toNat_inj, zero]
  omega

theorem IsDifference.unique {a v difference : Byte} {k : Nat} {f g : Flags}
    (hf : IsDifference a v k difference f) (hg : IsDifference a v k difference g) : f = g := by
  apply Flags.ext
  · exact Bool.eq_iff_iff.mpr (hf.describes.sign.trans hg.describes.sign.symm)
  · exact Bool.eq_iff_iff.mpr (hf.describes.zero.trans hg.describes.zero.symm)
  · exact Bool.eq_iff_iff.mpr (hf.auxCarry.trans hg.auxCarry.symm)
  · exact Bool.eq_iff_iff.mpr (hf.describes.parity.trans hg.describes.parity.symm)
  · exact Bool.eq_iff_iff.mpr (hf.carry.trans hg.carry.symm)

namespace Alu

theorem isSum_add (a v : Byte) (carry : Bool) :
    IsSum a v carry.toNat (add a v carry).1 (add a v carry).2 where
  value := toNat_fst_add a v carry
  carry := by
    rw [carry_snd_add, decide_eq_true_iff]
    exact Nat.lt_iff_add_one_le
  auxCarry := by
    rw [auxCarry_snd_add, Flags.nibbleCarry, decide_eq_true_iff]
    exact Nat.lt_iff_add_one_le
  describes := by
    have result := Flags.describes_setResult {} (add a v carry).1
    exact ⟨result.zero, result.sign, result.parity⟩

/-- Adding the complement and the opposite of the borrow subtracts. A carry comes out if there is
nothing to borrow. -/
theorem isDifference_sub (a v : Byte) (borrow : Bool) :
    IsDifference a v borrow.toNat (sub a v borrow).1 (sub a v borrow).2 := by
  have sum := isSum_add a (~~~v) (!borrow)
  have complement : (~~~v).toNat = 255 - v.toNat := BitVec.toNat_not
  have opposite : (!borrow).toNat = 1 - borrow.toNat := by cases borrow <;> rfl
  have value := sum.value
  have carry := sum.carry
  have auxCarry := sum.auxCarry
  rw [complement, opposite] at value carry auxCarry
  have hv := v.isLt
  have hb := borrow.toNat_le
  refine ⟨?_, ?_, ?_, ⟨sum.describes.zero, sum.describes.sign, sum.describes.parity⟩⟩
  · have same : (sub a v borrow).1.toNat = (a.toNat + (255 - v.toNat) + (1 - borrow.toNat)) % 256 :=
      value
    omega
  · have turned : (sub a v borrow).2.carry = !(add a (~~~v) (!borrow)).2.carry := rfl
    rw [turned, Bool.not_eq_true', ← Bool.not_eq_true, carry]
    omega
  · have same : (sub a v borrow).2.auxCarry = (add a (~~~v) (!borrow)).2.auxCarry := rfl
    rw [same, auxCarry]
    omega

theorem isBitwise_logic {f : Bool → Bool → Bool} {a v result : Byte}
    (bit : ∀ i < 8, result.getLsbD i = f (a.getLsbD i) (v.getLsbD i)) (auxCarry : Bool) :
    IsBitwise f a v auxCarry (logic result auxCarry).1 (logic result auxCarry).2 :=
  ⟨bit, rfl, rfl, Flags.describes_setResult _ result⟩

theorem yields_apply (op : AluOp) (a v : Byte) (carry : Bool) :
    op.Yields a v carry (apply op a v carry).1 (apply op a v carry).2 := by
  cases op with
  | add => exact isSum_add a v false
  | adc => exact isSum_add a v carry
  | sub => exact isDifference_sub a v false
  | sbb => exact isDifference_sub a v carry
  | ana =>
    have ac : (a ||| v).getLsbD 3 = (a.getLsbD 3 || v.getLsbD 3) := BitVec.getLsbD_or
    rw [AluOp.Yields, apply, ac]
    exact isBitwise_logic (fun i _ => BitVec.getLsbD_and) _
  | xra => exact isBitwise_logic (fun i _ => BitVec.getLsbD_xor) false
  | ora => exact isBitwise_logic (fun i _ => BitVec.getLsbD_or) false
  | cmp =>
    have difference := isDifference_sub a v false
    have equal := difference.describes.zero.trans difference.eq_zero_iff
    exact ⟨rfl, ⟨_, difference⟩, equal, difference.carry⟩

end Alu

namespace Machine
variable {σ : Type} [Ports σ]

omit [Ports σ] in
theorem combines_iff {m : Machine σ} {op : AluOp} {v : Byte} : m.Combines op v ↔
    m.status = .running ∧
      ((∃ src, m.opcode.instruction = .alu op src ∧ m.processor.reg src = v) ∨
        m.opcode.instruction = .aluImm op ∧ m.operand.lo = v) := by
  refine ⟨fun ⟨executes, form⟩ => ⟨executes.1, form⟩,
    fun ⟨running, form⟩ => ⟨executes_of_isBasic running ?_, form⟩⟩
  rcases form with ⟨src, hi, -⟩ | ⟨hi, -⟩
  · rw [hi]; rfl
  · rw [hi]; rfl

theorem accumulated_of_combines {m : Machine σ} {op : AluOp} {v : Byte} (h : m.Combines op v) :
    m.step.processor.a = (Alu.apply op m.processor.a v m.processor.flags.carry).1 ∧
    m.step.processor.flags = (Alu.apply op m.processor.a v m.processor.flags.carry).2 := by
  rw [processor_step_of_combines h]
  exact ⟨rfl, rfl⟩

/-- An operation on the accumulator and a byte from a register, from memory or from the instruction
changes the accumulator, the condition codes and the program counter alone. What it leaves there is
the sum, the difference or the logical combination, with the codes that tell of it. The operation,
the byte, the accumulator and the carry decide it, wherever the byte comes from, and a comparison
leaves the codes of the subtraction. -/
theorem accumulator_of_combines {m : Machine σ} {op : AluOp} {v : Byte} (h : m.Combines op v) :
    let before := m.processor
    let after := m.step.processor
    after = { before with a := after.a, flags := after.flags, pc := m.nextAddress } ∧
    op.Yields before.a v before.flags.carry after.a after.flags ∧
    (∀ n : Machine σ, n.Combines op v → n.processor.a = before.a →
      n.processor.flags.carry = before.flags.carry →
      n.step.processor.a = after.a ∧ n.step.processor.flags = after.flags) ∧
    (op = .cmp → ∀ n : Machine σ, n.Combines .sub v → n.processor.a = before.a →
      n.step.processor.flags = after.flags) := by
  intro before after
  obtain ⟨ha, hf⟩ : after.a = _ ∧ after.flags = _ := accumulated_of_combines h
  refine ⟨?_, ?_, fun n hn sameA sameCarry => ?_, ?_⟩
  · have step : after = { before.accumulate op v with pc := m.nextAddress } :=
      processor_step_of_combines h
    rw [ha, hf, step]
    rfl
  · rw [ha, hf]
    exact Alu.yields_apply op before.a v before.flags.carry
  · obtain ⟨hna, hnf⟩ := accumulated_of_combines hn
    rw [hna, hnf, ha, hf, sameA, sameCarry]
    exact ⟨rfl, rfl⟩
  · rintro rfl n hn sameA
    obtain ⟨-, hnf⟩ := accumulated_of_combines hn
    rw [hnf, hf, sameA]
    rfl

/-- An operation of the given opcode byte on 10H, with a borrow. The other byte is 0FH in `B`, at
the address in `HL` and behind the opcode byte. -/
def borrows (code : Byte) : Machine Unconnected where
  processor :=
    { a := 0x10, b := 0x0F, l := 1, flags := { carry := true }
      memory := (Memory.zero.write 0 code).write 1 0x0F }
  ports := ⟨⟩
  programEnd := 2

theorem opcode_borrows (code : Byte) : (borrows code).opcode = .decode code :=
  opcode_of_read (by simp [borrows, Memory.read_write])

/-- The borrow takes the low digit below zero. `SBB B`, `SBB M` and `SBI` leave nothing of 10H,
which has an even number of ones. `CMP B` leaves the codes of `SUB B`, whose result 1 has an odd
number. -/
theorem borrows_subtracts :
    (borrows 0x98).step.processor.a = 0 ∧
    (borrows 0x98).step.processor.flags = { zero := true, parity := true } ∧
    (borrows 0x9E).step.processor.flags = (borrows 0x98).step.processor.flags ∧
    (borrows 0xDE).step.processor.flags = (borrows 0x98).step.processor.flags ∧
    (borrows 0x90).step.processor.a = 1 ∧
    (borrows 0x90).step.processor.flags = { parity := false } ∧
    (borrows 0xB8).step.processor.a = 0x10 ∧
    (borrows 0xB8).step.processor.flags = (borrows 0x90).step.processor.flags := by
  have behind (code : Byte) : (borrows code).processor.memory.read 1 = 0x0F := by simp [borrows]
  have sbbB : (borrows 0x98).Combines .sbb 0x0F :=
    combines_iff.mpr ⟨rfl, .inl ⟨.b, by rw [opcode_borrows]; rfl, rfl⟩⟩
  have sbbM : (borrows 0x9E).Combines .sbb 0x0F :=
    combines_iff.mpr ⟨rfl, .inl ⟨.m, by rw [opcode_borrows]; rfl, behind 0x9E⟩⟩
  have sbi : (borrows 0xDE).Combines .sbb 0x0F :=
    combines_iff.mpr ⟨rfl, .inr ⟨by rw [opcode_borrows]; rfl, by
      rw [operand, Memory.readWord, Word.lo_ofBytes]
      exact behind 0xDE⟩⟩
  have subB : (borrows 0x90).Combines .sub 0x0F :=
    combines_iff.mpr ⟨rfl, .inl ⟨.b, by rw [opcode_borrows]; rfl, rfl⟩⟩
  have cmpB : (borrows 0xB8).Combines .cmp 0x0F :=
    combines_iff.mpr ⟨rfl, .inl ⟨.b, by rw [opcode_borrows]; rfl, rfl⟩⟩
  obtain ⟨-, yields, agree, -⟩ := accumulator_of_combines sbbB
  obtain ⟨-, yields', -⟩ := accumulator_of_combines subB
  obtain ⟨-, compares, -, compare⟩ := accumulator_of_combines cmpB
  have nothing : IsDifference 0x10 0x0F 1 (borrows 0x98).step.processor.a
    (borrows 0x98).step.processor.flags := yields
  have one : IsDifference 0x10 0x0F 0 (borrows 0x90).step.processor.a
    (borrows 0x90).step.processor.flags := yields'
  have zero : (borrows 0x98).step.processor.a = 0 :=
    BitVec.eq_of_toNat_eq (Int.ofNat_inj.mp nothing.value)
  have unit : (borrows 0x90).step.processor.a = 1 :=
    BitVec.eq_of_toNat_eq (Int.ofNat_inj.mp one.value)
  rw [zero] at nothing
  rw [unit] at one
  have even : IsDifference 0x10 0x0F 1 0 { zero := true, parity := true } := by
    refine ⟨?_, ?_, ?_, ?_, ?_, ?_⟩ <;> decide
  have odd : IsDifference 0x10 0x0F 0 1 { parity := false } := by
    refine ⟨?_, ?_, ?_, ?_, ?_, ?_⟩ <;> decide
  exact ⟨zero, nothing.unique even, (agree _ sbbM rfl rfl).2, (agree _ sbi rfl rfl).2, unit,
    one.unique odd, compares.1, (compare rfl _ subB rfl).symm⟩

end Machine
end Intel8080
