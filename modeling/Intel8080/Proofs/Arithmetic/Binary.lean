import Intel8080.Proofs.Arithmetic.Operations
import Intel8080.Proofs.Arithmetic.Rounds
import Intel8080.Proofs.Processor.Stores

/-! Binary arithmetic on numbers of any length. A sum with carry and a difference with borrow leave
for the next byte what they could not hold themselves, so that the bytes together hold the sum and
the difference of the numbers. Main statement: `sum_and_difference`. -/
namespace Intel8080

/-- The number that bytes write, the least significant byte first. -/
def binaryValue (bytes : List Byte) : Nat := Nat.ofDigits 256 (bytes.map BitVec.toNat)

theorem binaryValue_lt (bytes : List Byte) : binaryValue bytes < 256 ^ bytes.length := by
  have digits : ∀ d ∈ bytes.map BitVec.toNat, d < 256 := by
    simp only [List.mem_map, forall_exists_index, and_imp, forall_apply_eq_imp_iff₂]
    exact fun b _ => b.isLt
  have bound := Nat.ofDigits_lt_base_pow_length (by decide) digits
  rwa [List.length_map] at bound

theorem IsSum.digits {x y z : Byte} {carry : Bool} {flags : Flags}
    (h : IsSum x y carry.toNat z flags) :
    z.toNat + 256 * flags.carry.toNat = x.toNat + y.toNat + carry.toNat := by
  have value := h.value
  have passes := h.carry
  have hx := x.isLt
  have hy := y.isLt
  have hc := carry.toNat_le
  cases next : flags.carry <;> simp [next] at passes ⊢ <;> omega

theorem IsDifference.digits {x y z : Byte} {carry : Bool} {flags : Flags}
    (h : IsDifference x y carry.toNat z flags) :
    x.toNat + 256 * flags.carry.toNat = z.toNat + y.toNat + carry.toNat := by
  have value := h.value
  have borrows := h.carry
  have hx := x.isLt
  have hy := y.isLt
  have hc := carry.toNat_le
  cases next : flags.carry <;> simp [next] at borrows ⊢ <;> omega

theorem difference_of_add {bound x y z k : Nat} {borrow : Bool}
    (sum : x + borrow.toNat * bound = z + y + k) (hz : z < bound) :
    (z : Int) = ((x : Int) - y - k) % bound ∧ (borrow = true ↔ x < y + k) := by
  cases borrow with
  | false =>
    simp only [Bool.toNat_false, Nat.zero_mul, Nat.add_zero] at sum
    have left : (x : Int) - y - k = z := by omega
    rw [left, Int.emod_eq_of_lt (Int.natCast_nonneg z) (Int.ofNat_lt.mpr hz)]
    simp
    omega
  | true =>
    simp only [Bool.toNat_true, Nat.one_mul] at sum
    have left : (x : Int) - y - k = z - bound := by omega
    rw [left, Int.sub_emod_right, Int.emod_eq_of_lt (Int.natCast_nonneg z) (Int.ofNat_lt.mpr hz)]
    simp
    omega

namespace Machine
variable {σ : Type} [Ports σ]

/-- The machine, with `x` in the accumulator, performs an operation on it, `y` and the carry, which
leaves `z` in the accumulator and `next` in the carry. -/
structure Calculates (m : Machine σ) (op : AluOp) (x y : Byte) (carry : Bool) (z : Byte)
    (next : Bool) : Prop where
  accumulator : m.processor.a = x
  carryIn : m.processor.flags.carry = carry
  combines : m.Combines op y
  result : m.step.processor.a = z
  carryOut : m.step.processor.flags.carry = next

/-- A round of an operation on the accumulator, on a machine with a device of type `σ`. In a loop
the machines of the rounds are those at which one run performs the operation; what it does between
them does not matter as long as it leaves the carry alone. -/
def binaryRound (σ : Type) [Ports σ] (op : AluOp) : Round := fun x y carry z next =>
  ∃ m : Machine σ, m.Calculates op x y carry z next

theorem binaryRound.eq_apply {op : AluOp} {x y z : Byte} {carry next : Bool}
    (h : binaryRound σ op x y carry z next) :
    z = (Alu.apply op x y carry).1 ∧ next = (Alu.apply op x y carry).2.carry := by
  obtain ⟨m, rfl, rfl, combines, rfl, rfl⟩ := h
  obtain ⟨ha, hf⟩ := accumulated_of_combines combines
  exact ⟨ha, congrArg Flags.carry hf⟩

def atImmediate (device : σ) (code x y : Byte) (carry : Bool) : Machine σ where
  processor := { a := x, flags := { carry }, memory := (Memory.zero.write 0 code).write 1 y }
  ports := device

theorem exists_binaryRound (device : σ) (op : AluOp) (x y : Byte) (carry : Bool) :
    ∃ z next, binaryRound σ op x y carry z next := by
  obtain ⟨code, hc⟩ := Opcode.exists_lookup_aluImm op
  have instruction : (atImmediate device code x y carry).opcode.instruction = .aluImm op := by
    simp [atImmediate, opcode, Memory.read_write, hc]
  have behind : (atImmediate device code x y carry).operand.lo = y := by
    simp [atImmediate, operand, Memory.readWord, Memory.read_write]
  have combines : (atImmediate device code x y carry).Combines op y :=
    combines_iff.mpr ⟨rfl, .inr ⟨instruction, behind⟩⟩
  exact ⟨_, _, _, rfl, rfl, combines, rfl, rfl⟩

theorem sum_of_rounds {xs ys zs : List Byte} {carry last : Bool}
    (rounds : Rounds (binaryRound σ .adc) xs ys carry zs last) :
    binaryValue zs + last.toNat * 256 ^ xs.length =
      binaryValue xs + binaryValue ys + carry.toNat := by
  apply rounds.sum_eq_of_forall
  intro x y carry z next round
  obtain ⟨rfl, rfl⟩ := round.eq_apply
  exact (Alu.isSum_add x y carry).digits

theorem difference_of_rounds {xs ys zs : List Byte} {carry last : Bool}
    (rounds : Rounds (binaryRound σ .sbb) xs ys carry zs last) :
    binaryValue xs + last.toNat * 256 ^ xs.length =
      binaryValue zs + binaryValue ys + carry.toNat := by
  rw [← rounds.length_eq.2]
  apply rounds.transpose.sum_eq_of_forall
  intro z y carry x next round
  obtain ⟨rfl, rfl⟩ := round.eq_apply
  exact (Alu.isDifference_sub x y carry).digits

/-- Numbers of any length are added and subtracted byte by byte, on any machines of which each is
entered with the carry that the one before it left. The result can always be had, and nothing that a
machine holds beside the byte in its accumulator, the other byte and the carry has an influence on
it. -/
theorem sum_and_difference (device : σ) (op : AluOp) {xs ys : List Byte}
    (same : ys.length = xs.length) (carry : Bool) :
    (∃ zs last, Rounds (binaryRound σ op) xs ys carry zs last) ∧
    ∀ zs last, Rounds (binaryRound σ op) xs ys carry zs last →
      let n := xs.length
      let x := binaryValue xs
      let y := binaryValue ys
      zs.length = n ∧
      (op = .adc → binaryValue zs + last.toNat * 256 ^ n = x + y + carry.toNat) ∧
      (op = .sbb → (binaryValue zs : Int) = ((x : Int) - y - carry.toNat) % 256 ^ n ∧
        (last = true ↔ x < y + carry.toNat)) ∧
      ∀ {τ : Type} [Ports τ] zs' last', Rounds (binaryRound τ op) xs ys carry zs' last' →
        zs' = zs ∧ last' = last := by
  refine ⟨Rounds.exists_of_total (exists_binaryRound device op) same carry, ?_⟩
  intro zs last rounds n x y
  have length : zs.length = n := rounds.length_eq.2
  refine ⟨length, ?_, ?_, ?_⟩
  · rintro rfl
    exact sum_of_rounds rounds
  · rintro rfl
    have below : binaryValue zs < 256 ^ n := length ▸ binaryValue_lt zs
    obtain ⟨value, borrow⟩ := difference_of_add (difference_of_rounds rounds) below
    exact ⟨by exact_mod_cast value, borrow⟩
  · intro τ _ zs' last' rounds'
    refine rounds.unique ?_ rounds'
    intro x y carry z next z' next' round round'
    obtain ⟨rfl, rfl⟩ := round.eq_apply
    exact round'.eq_apply

/-- `SBI 01`, `MOV B,A`, `MVI A,10` and `SBB M`, with 10H behind them at address 8. -/
def differenceProgram : Memory :=
  Memory.zero.storeAll [(0, 0xDE), (1, 0x01), (2, 0x47), (3, 0x3E), (4, 0x10), (5, 0x9E), (8, 0x10)]

def subtractsLow : Machine Unconnected where
  processor := { l := 8, flags := { zero := true, auxCarry := true }, memory := differenceProgram }
  ports := ⟨⟩

def subtractsHigh : Machine Unconnected := { subtractsLow with
  processor := { subtractsLow.processor with
    a := 0x10
    b := 0xFF
    pc := 5
    flags := { sign := true, parity := true, carry := true } }
  steps := 3 }

theorem subtractsLow_calculates : subtractsLow.Calculates .sbb 0x00 0x01 false 0xFF true ∧
    subtractsLow.step.step.step = subtractsHigh := by
  have sbi : differenceProgram.read 0 = 0xDE := by simp [differenceProgram, Memory.read_write]
  have one : differenceProgram.readWord 1 = 0x4701 := by
    simp [differenceProgram, Memory.readWord, Memory.read_write, Word.ofBytes]
  have mov : differenceProgram.read 2 = 0x47 := by simp [differenceProgram, Memory.read_write]
  have mvi : differenceProgram.read 3 = 0x3E := by simp [differenceProgram, Memory.read_write]
  have high : differenceProgram.readWord 4 = 0x9E10 := by
    simp [differenceProgram, Memory.readWord, Memory.read_write, Word.ofBytes]
  have h1 : subtractsLow.step = { subtractsHigh with
      processor := { subtractsHigh.processor with a := 0xFF, b := 0, pc := 2 }, steps := 1 } :=
    step_eq_of_read 0 0xDE 0x4701 rfl rfl rfl sbi one rfl
  have h2 : subtractsLow.step.step = { subtractsHigh with
      processor := { subtractsHigh.processor with a := 0xFF, pc := 3 }, steps := 2 } := by
    rw [h1]
    exact step_eq_of_read 2 0x47 _ rfl rfl rfl mov rfl rfl
  have h3 : subtractsLow.step.step.step = subtractsHigh := by
    rw [h2]
    exact step_eq_of_read 3 0x3E 0x9E10 rfl rfl rfl mvi high rfl
  have combines : subtractsLow.Combines .sbb 0x01 :=
    combines_iff.mpr ⟨rfl, .inr ⟨by rw [opcode_of_read sbi]; rfl, congrArg Word.lo one⟩⟩
  exact ⟨⟨rfl, rfl, combines, by rw [h1], by rw [h1]; rfl⟩, h3⟩

theorem subtractsHigh_calculates : subtractsHigh.Calculates .sbb 0x10 0x10 true 0xFF true := by
  have sbb : differenceProgram.read 5 = 0x9E := by simp [differenceProgram, Memory.read_write]
  have subtrahend : subtractsHigh.processor.reg .m = 0x10 := by
    change differenceProgram.read 8 = 0x10
    simp [differenceProgram]
  have combines : subtractsHigh.Combines .sbb 0x10 :=
    combines_iff.mpr ⟨rfl, .inl ⟨.m, by rw [opcode_of_read sbb]; rfl, subtrahend⟩⟩
  obtain ⟨ha, hf⟩ := accumulated_of_combines combines
  exact ⟨rfl, rfl, combines, by rw [ha]; rfl, by rw [hf]; rfl⟩

theorem subtractsLow_difference : subtractsLow.step.step.step = subtractsHigh ∧
    Rounds (binaryRound Unconnected .sbb) [0x00, 0x10] [0x01, 0x10] false [0xFF, 0xFF] true ∧
    (binaryValue [0xFF, 0xFF] : Int) =
      ((binaryValue [0x00, 0x10] : Int) - binaryValue [0x01, 0x10] - false.toNat) % 256 ^ 2 ∧
    binaryValue [0x00, 0x10] < binaryValue [0x01, 0x10] + false.toNat ∧
    (binaryValue [0x00, 0x10], binaryValue [0x01, 0x10], binaryValue [0xFF, 0xFF]) =
      (0x1000, 0x1001, 0xFFFF) := by
  obtain ⟨low, onward⟩ := subtractsLow_calculates
  have rounds : Rounds (binaryRound Unconnected .sbb) [0x00, 0x10] [0x01, 0x10] false
      [0xFF, 0xFF] true := .cons ⟨_, low⟩ (.cons ⟨_, subtractsHigh_calculates⟩ (.nil true))
  have same : [(0x01 : Byte), 0x10].length = [(0x00 : Byte), 0x10].length := rfl
  obtain ⟨-, results⟩ := sum_and_difference (⟨⟩ : Unconnected) .sbb same false
  obtain ⟨-, -, difference, -⟩ := results _ _ rounds
  obtain ⟨value, borrow⟩ := difference rfl
  exact ⟨onward, rounds, value, borrow.mp rfl, by decide⟩

end Machine
end Intel8080
