import Intel8080.Proofs.Machine.Load
import Intel8080.Proofs.Machine.Run

/-! A program that copies a block of memory. Its loop takes one byte in each round and goes round
until the counter is zero again, so that a counter of zero at first stands for 256 bytes; both
pointers may pass the end of memory. Main statement: `run_blockCopy`. -/
namespace Intel8080

/-- Copy bytes from one address to another. The loop begins at address 8. -/
def blockCopy (source dest : Word) (count : Byte) : List Byte :=
  [0x21, source.lo, source.hi, -- `LXI H`
    0x11, dest.lo, dest.hi, -- `LXI D`
    0x0E, count, -- `MVI C`
    0x7E, -- `MOV A,M`
    0x12, -- `STAX D`
    0x23, -- `INX H`
    0x13, -- `INX D`
    0x0D, -- `DCR C`
    0xC2, 0x08, 0x00, -- `JNZ`
    0x76] -- `HLT`

theorem fits_blockCopy (source dest : Word) (count : Byte) :
    Memory.Fits 0 (blockCopy source dest count) := (by decide : 17 ≤ 65536)

/-- How many times a loop goes round that counts a byte down to zero. -/
def rounds (count : Byte) : Nat := if count = 0 then 256 else count.toNat

theorem ofNat_rounds (count : Byte) : BitVec.ofNat 8 (rounds count) = count := by
  unfold rounds
  split <;> simp_all

theorem exists_rounds_eq (count : Byte) : ∃ k < 256, rounds count = k + 1 := by
  have hc := count.isLt
  unfold rounds
  split
  · exact ⟨255, by omega, rfl⟩
  · rename_i h
    have : count.toNat ≠ 0 := fun e => h (BitVec.eq_of_toNat_eq e)
    exact ⟨count.toNat - 1, by omega, by omega⟩

theorem ofNat_succ_eq_one_iff {k : Nat} (hk : k < 256) : BitVec.ofNat 8 (k + 1) = 1 ↔ k = 0 := by
  have one : (1 : Byte).toNat = 1 := rfl
  rw [← BitVec.toNat_inj, BitVec.toNat_ofNat, one]
  omega

theorem add_ofNat_inj {a : Word} {i j : Nat} (hi : i < 65536) (hj : j < 65536) :
    a + BitVec.ofNat 16 i = a + BitVec.ofNat 16 j ↔ i = j := by
  rw [BitVec.add_right_inj, ← BitVec.toNat_inj, BitVec.toNat_ofNat, BitVec.toNat_ofNat,
    Nat.mod_eq_of_lt hi, Nat.mod_eq_of_lt hj]

namespace Processor

def prepared (p : Processor) (source dest : Word) (count : Byte) : Processor :=
  { (p.setPair .hl source).setPair .de dest with c := count, pc := 8 }

@[simp] theorem hl_prepared (p : Processor) (source dest : Word) (count : Byte) :
    (p.prepared source dest count).pair .hl = source := by
  simp [prepared, setPair, pair]

@[simp] theorem de_prepared (p : Processor) (source dest : Word) (count : Byte) :
    (p.prepared source dest count).pair .de = dest := by
  simp [prepared, setPair, pair]

@[simp] theorem c_prepared (p : Processor) (source dest : Word) (count : Byte) :
    (p.prepared source dest count).c = count := rfl

@[simp] theorem memory_prepared (p : Processor) (source dest : Word) (count : Byte) :
    (p.prepared source dest count).memory = p.memory := rfl

/-- What a round of the loop does: one byte is copied, both pointers go on, and the counter goes
down. -/
def copyByte (p : Processor) : Processor :=
  let byte := p.memory.read (p.pair .hl)
  let (c, flags) := Alu.decrement p.c p.flags
  { ({ p with a := byte, memory := p.memory.write (p.pair .de) byte }.setPair .hl
      (p.pair .hl + 1)).setPair .de (p.pair .de + 1) with c, flags }

@[simp] theorem hl_copyByte (p : Processor) : p.copyByte.pair .hl = p.pair .hl + 1 := by
  simp [copyByte, setPair, pair]

@[simp] theorem de_copyByte (p : Processor) : p.copyByte.pair .de = p.pair .de + 1 := by
  simp [copyByte, setPair, pair]

@[simp] theorem c_copyByte (p : Processor) : p.copyByte.c = p.c - 1 := rfl

@[simp] theorem pc_copyByte (p : Processor) : p.copyByte.pc = p.pc := rfl

@[simp] theorem a_copyByte (p : Processor) : p.copyByte.a = p.memory.read (p.pair .hl) := rfl

@[simp] theorem memory_copyByte (p : Processor) :
    p.copyByte.memory = p.memory.write (p.pair .de) (p.memory.read (p.pair .hl)) := rfl

theorem zero_copyByte (p : Processor) : p.copyByte.flags.zero = true ↔ p.c = 1 := by
  have zero : ∀ c : Byte, (c - 1 == 0) = true ↔ c = 1 := by decide
  exact zero p.c

section Rounds
variable (p : Processor) (n : Nat)

theorem pair_iterate_copyByte {rp : Pair} (goesOn : ∀ p : Processor, p.copyByte.pair rp =
    p.pair rp + 1) : (copyByte^[n] p).pair rp = p.pair rp + BitVec.ofNat 16 n := by
  induction n with
  | zero => simp
  | succ n ih =>
    rw [Function.iterate_succ_apply', goesOn, ih, BitVec.ofNat_add, BitVec.add_assoc]
    rfl

@[simp] theorem hl_iterate_copyByte :
    (copyByte^[n] p).pair .hl = p.pair .hl + BitVec.ofNat 16 n :=
  pair_iterate_copyByte p n hl_copyByte

@[simp] theorem de_iterate_copyByte :
    (copyByte^[n] p).pair .de = p.pair .de + BitVec.ofNat 16 n :=
  pair_iterate_copyByte p n de_copyByte

@[simp] theorem c_iterate_copyByte : (copyByte^[n] p).c = p.c - BitVec.ofNat 8 n := by
  induction n with
  | zero => simp
  | succ n ih =>
    rw [Function.iterate_succ_apply', c_copyByte, ih, BitVec.ofNat_add, ← BitVec.sub_sub]
    rfl

theorem memory_iterate_copyByte_succ : (copyByte^[n + 1] p).memory =
    (copyByte^[n] p).memory.write (p.pair .de + BitVec.ofNat 16 n)
      ((copyByte^[n] p).memory.read (p.pair .hl + BitVec.ofNat 16 n)) := by
  rw [Function.iterate_succ_apply', memory_copyByte, de_iterate_copyByte, hl_iterate_copyByte]

variable {p n}

theorem read_iterate_copyByte_of_ne {a : Word} (h : ∀ i < n, a ≠ p.pair .de + BitVec.ofNat 16 i) :
    (copyByte^[n] p).memory.read a = p.memory.read a := by
  induction n with
  | zero => rfl
  | succ n ih =>
    rw [memory_iterate_copyByte_succ, Memory.read_write_of_ne (h n (Nat.lt_succ_self n)),
      ih fun i hi => h i (Nat.lt_succ_of_lt hi)]

theorem read_iterate_copyByte (short : n ≤ 65536)
    (apart : ∀ i < n, ∀ j < n, p.pair .de + BitVec.ofNat 16 i ≠ p.pair .hl + BitVec.ofNat 16 j)
    {i : Nat} (hi : i < n) : (copyByte^[n] p).memory.read (p.pair .de + BitVec.ofNat 16 i) =
      p.memory.read (p.pair .hl + BitVec.ofNat 16 i) := by
  induction n with
  | zero => exact absurd hi (Nat.not_lt_zero i)
  | succ n ih =>
    rw [memory_iterate_copyByte_succ, Memory.read_write]
    -- what is read in the last round is still the first content of the source
    by_cases last : i = n
    · subst last
      rw [if_pos rfl]
      exact read_iterate_copyByte_of_ne fun j hj =>
        (apart j (Nat.lt_succ_of_lt hj) i (Nat.lt_succ_self i)).symm
    · have before : i < n := by omega
      rw [if_neg ((add_ofNat_inj (by omega) (by omega)).not.mpr last)]
      exact ih (by omega) (fun i hi j hj => apart i (by omega) j (by omega)) before

theorem a_iterate_copyByte_succ
    (apart : ∀ i < n, p.pair .hl + BitVec.ofNat 16 n ≠ p.pair .de + BitVec.ofNat 16 i) :
    (copyByte^[n + 1] p).a = p.memory.read (p.pair .hl + BitVec.ofNat 16 n) := by
  rw [Function.iterate_succ_apply', a_copyByte, hl_iterate_copyByte]
  exact read_iterate_copyByte_of_ne apart

theorem carries_iterate_copyByte {program : List Byte} (carries : p.memory.Carries 0 program)
    (fits : Memory.Fits 0 program)
    (clear : ∀ i < n, program.length ≤ (p.pair .de + BitVec.ofNat 16 i).toNat) :
    (copyByte^[n] p).memory.Carries 0 program := by
  induction n with
  | zero => exact carries
  | succ n ih =>
    have before := ih fun i hi => clear i (Nat.lt_succ_of_lt hi)
    have behind : (0 : Word).toNat + program.length ≤ (p.pair .de + BitVec.ofNat 16 n).toNat := by
      simpa using clear n (Nat.lt_succ_self n)
    rw [memory_iterate_copyByte_succ]
    exact before.write fits (.inr behind) _

end Rounds

structure Copied (p q : Processor) (source dest : Word) (n : Nat) : Prop where
  bytes : ∀ i < n, q.memory.read (dest + BitVec.ofNat 16 i) =
    p.memory.read (source + BitVec.ofNat 16 i)
  others : ∀ a, (∀ i < n, a ≠ dest + BitVec.ofNat 16 i) → q.memory.read a = p.memory.read a
  hl : q.pair .hl = source + BitVec.ofNat 16 n
  de : q.pair .de = dest + BitVec.ofNat 16 n
  c : q.c = 0
  a : q.a = p.memory.read (source + BitVec.ofNat 16 (n - 1))

theorem copied_iterate_copyByte (p : Processor) {source dest : Word} {count : Byte}
    (apart : ∀ i < rounds count, ∀ j < rounds count,
      dest + BitVec.ofNat 16 i ≠ source + BitVec.ofNat 16 j) :
    Copied p (copyByte^[rounds count] (p.prepared source dest count)) source dest
      (rounds count) := by
  have hl := p.hl_prepared source dest count
  have de := p.de_prepared source dest count
  have c := p.c_prepared source dest count
  have memory := p.memory_prepared source dest count
  -- both addresses become what the pointers of one processor hold
  generalize p.prepared source dest count = q at hl de c memory
  subst hl de
  obtain ⟨k, hk, hr⟩ := exists_rounds_eq count
  constructor
  · exact fun i hi => memory ▸ read_iterate_copyByte (by omega) apart hi
  · exact fun a ha => memory ▸ read_iterate_copyByte_of_ne ha
  · exact hl_iterate_copyByte q _
  · exact de_iterate_copyByte q _
  · rw [c_iterate_copyByte, ofNat_rounds, c, BitVec.sub_self]
    rfl
  · rw [hr] at apart ⊢
    exact memory ▸ a_iterate_copyByte_succ fun i hi =>
      (apart i (Nat.lt_succ_of_lt hi) k (Nat.lt_succ_self k)).symm

end Processor

namespace Machine
variable {σ : Type} [Ports σ]

def working (m : Machine σ) (p : Processor) (steps : Nat) : Machine σ :=
  { m with processor := p, status := .running, wrapped := false, steps }

/-- The program begins at address 0 and is no shorter than a copy. -/
structure HasRoom (m : Machine σ) : Prop where
  start : m.programStart = 0
  room : 17 ≤ m.programEnd

section Copy
variable {m : Machine σ} {p : Processor} {source dest : Word} {count : Byte}

theorem reaches_of_read (hm : m.HasRoom) {steps : Nat} {last : Machine σ} (pc : Word)
    (code : Byte) (operand : Word) (hpc : p.pc = pc) (inside : pc.toNat < 17)
    (base : (Opcode.decode code).group = .base) (atPC : p.memory.read pc = code)
    (behind : p.memory.readWord (pc + 1) = operand)
    (result : (m.working p steps).executeAt pc operand (Opcode.decode code).instruction = last) :
    (m.working p steps).Reaches 1 last := by
  have enabled : m.features.enables (Opcode.decode code).group = true := by rw [base]; rfl
  have goesOn : (m.working p steps).outcome? = none := by
    refine outcome?_eq_none_iff.mpr ⟨rfl, atEnd_eq_false_iff.mpr ⟨rfl, ?_, ?_⟩⟩
    · exact hm.start ▸ Nat.zero_le _
    · exact hpc ▸ Nat.lt_of_lt_of_le inside hm.room
  exact .one goesOn (step_eq_of_read pc code operand rfl enabled hpc atPC behind result)

theorem reaches_copyByte (hm : m.HasRoom) (hpc : p.pc = 8)
    (carries : p.memory.Carries 0 (blockCopy source dest count)) (clear : 17 ≤ (p.pair .de).toNat)
    (steps : Nat) :
    (m.working p steps).Reaches 5 (m.working { p.copyByte with pc := 13 } (steps + 5)) := by
  let byte := p.memory.read (p.pair .hl)
  let moved : Processor := { p with a := byte, pc := 9 }
  let stored : Processor := { moved with memory := p.memory.write (p.pair .de) byte, pc := 10 }
  let ahead : Processor := { stored.setPair .hl (p.pair .hl + 1) with pc := 11 }
  let both : Processor := { ahead.setPair .de (p.pair .de + 1) with pc := 12 }
  have stays := carries.write (fits_blockCopy ..) (.inr clear) byte
  have mov : (m.working p steps).Reaches 1 (m.working moved (steps + 1)) :=
    reaches_of_read hm 8 0x7E _ hpc (by decide) rfl (carries 8 _ rfl) rfl rfl
  have stax : (m.working moved (steps + 1)).Reaches 1 (m.working stored (steps + 2)) :=
    reaches_of_read hm 9 0x12 _ rfl (by decide) rfl (carries 9 _ rfl) rfl rfl
  have inxH : (m.working stored (steps + 2)).Reaches 1 (m.working ahead (steps + 3)) :=
    reaches_of_read hm 10 0x23 _ rfl (by decide) rfl (stays 10 _ rfl) rfl rfl
  have inxD : (m.working ahead (steps + 3)).Reaches 1 (m.working both (steps + 4)) :=
    reaches_of_read hm 11 0x13 _ rfl (by decide) rfl (stays 11 _ rfl) rfl rfl
  have dcr : (m.working both (steps + 4)).Reaches 1
      (m.working { p.copyByte with pc := 13 } (steps + 5)) :=
    reaches_of_read hm 12 0x0D _ rfl (by decide) rfl (stays 12 _ rfl) rfl rfl
  exact mov.trans (stax.trans (inxH.trans (inxD.trans dcr)))

theorem reaches_jnz (hm : m.HasRoom) (hpc : p.pc = 13)
    (carries : p.memory.Carries 0 (blockCopy source dest count)) (steps : Nat) :
    (m.working p steps).Reaches 1
      (m.working { p with pc := if p.flags.zero then 16 else 8 } (steps + 1)) := by
  have back : p.memory.readWord (13 + 1) = 8 :=
    congrArg₂ Word.ofBytes (carries 15 0x00 rfl) (carries 14 0x08 rfl)
  have nonzero : (Opcode.decode 0xC2).instruction = .jmpIf .nonzero := rfl
  refine reaches_of_read hm 13 0xC2 8 hpc (by decide) rfl (carries 13 _ rfl) back ?_
  rw [nonzero]
  cases hz : p.flags.zero <;>
    simp [executeAt, perform, Processor.execute, Condition.holds, hz, working] <;> decide

/-- A whole round goes back to the beginning of the loop or, if it is the last one, behind the
loop. -/
theorem reaches_round (hm : m.HasRoom) (hpc : p.pc = 8)
    (carries : p.memory.Carries 0 (blockCopy source dest count)) (clear : 17 ≤ (p.pair .de).toNat)
    (steps : Nat) : (m.working p steps).Reaches 6
      (m.working { p.copyByte with pc := if p.c = 1 then 16 else 8 } (steps + 6)) := by
  have stays : p.copyByte.memory.Carries 0 (blockCopy source dest count) :=
    carries.write (fits_blockCopy ..) (.inr clear) _
  have jnz := reaches_jnz hm (p := { p.copyByte with pc := 13 }) rfl stays (steps + 5)
  simp only [Processor.zero_copyByte] at jnz
  exact (reaches_copyByte hm hpc carries clear steps).trans jnz

/-- The loop takes six steps for each byte. -/
theorem reaches_rounds (hm : m.HasRoom) {k : Nat} (hk : k < 256) (hpc : p.pc = 8)
    (counts : p.c = BitVec.ofNat 8 (k + 1))
    (carries : p.memory.Carries 0 (blockCopy source dest count))
    (clear : ∀ i < k + 1, 17 ≤ (p.pair .de + BitVec.ofNat 16 i).toNat) (steps : Nat) :
    (m.working p steps).Reaches (6 * (k + 1))
      (m.working { Processor.copyByte^[k + 1] p with pc := 16 } (steps + 6 * (k + 1))) := by
  induction k generalizing p steps with
  | zero =>
    have last : p.c = 1 := counts.trans ((ofNat_succ_eq_one_iff hk).mpr rfl)
    have round := reaches_round hm hpc carries (by simpa using clear 0) steps
    rwa [if_pos last] at round
  | succ k ih =>
    have more : p.c ≠ 1 := counts ▸ (ofNat_succ_eq_one_iff hk).not.mpr (Nat.succ_ne_zero k)
    have first : 17 ≤ (p.pair .de).toNat := by simpa using clear 0
    have back : p.copyByte.pc = 8 := p.pc_copyByte.trans hpc
    have same : { p.copyByte with pc := 8 } = p.copyByte := by rw [← back]
    have round := reaches_round hm hpc carries first steps
    rw [if_neg more, same] at round
    have less : p.copyByte.c = BitVec.ofNat 8 (k + 1) := by
      rw [Processor.c_copyByte, counts, BitVec.ofNat_add (k + 1)]
      exact BitVec.add_sub_cancel _ _
    have stays := carries.write (fits_blockCopy ..) (.inr first) (p.memory.read (p.pair .hl))
    have behind : ∀ i < k + 1, 17 ≤ (p.copyByte.pair .de + BitVec.ofNat 16 i).toNat := by
      intro i hi
      rw [Processor.de_copyByte, add_one_add_ofNat]
      exact clear (i + 1) (Nat.succ_lt_succ hi)
    have rest := round.trans (ih (p := p.copyByte) (Nat.lt_of_succ_lt hk) back less stays
      behind (steps + 6))
    have total : 6 + 6 * (k + 1) = 6 * (k + 1 + 1) := by omega
    rwa [Nat.add_assoc, total, ← Function.iterate_succ_apply] at rest

theorem reaches_loop (hm : m.HasRoom) (hpc : p.pc = 0)
    (carries : p.memory.Carries 0 (blockCopy source dest count)) (steps : Nat) :
    (m.working p steps).Reaches 3
      (m.working (p.prepared source dest count) (steps + 3)) := by
  let pointer : Processor := { p.setPair .hl source with pc := 3 }
  let pointers : Processor := { pointer.setPair .de dest with pc := 6 }
  have hl : p.memory.readWord (0 + 1) = source :=
    (congrArg₂ Word.ofBytes (carries 2 _ rfl) (carries 1 _ rfl)).trans (Word.ofBytes_hi_lo _)
  have de : p.memory.readWord (3 + 1) = dest :=
    (congrArg₂ Word.ofBytes (carries 5 _ rfl) (carries 4 _ rfl)).trans (Word.ofBytes_hi_lo _)
  have c : (p.memory.readWord (6 + 1)).lo = count :=
    (Word.lo_ofBytes _ _).trans (carries 7 _ rfl)
  have lxiH : (m.working p steps).Reaches 1 (m.working pointer (steps + 1)) :=
    reaches_of_read hm 0 0x21 source hpc (by decide) rfl (carries 0 _ rfl) hl rfl
  have lxiD : (m.working pointer (steps + 1)).Reaches 1 (m.working pointers (steps + 2)) :=
    reaches_of_read hm 3 0x11 dest rfl (by decide) rfl (carries 3 _ rfl) de rfl
  have mvi : (m.working pointers (steps + 2)).Reaches 1
      (m.working (p.prepared source dest count) (steps + 3)) :=
    reaches_of_read hm 6 0x0E _ rfl (by decide) rfl (carries 6 _ rfl) rfl (c ▸ rfl)
  exact lxiH.trans (lxiD.trans mvi)

theorem reaches_halted (hm : m.HasRoom) (hpc : p.pc = 16)
    (carries : p.memory.Carries 0 (blockCopy source dest count)) (steps : Nat) :
    (m.working p steps).Reaches 1
      { m.working { p with pc := 17 } (steps + 1) with status := .halted } :=
  reaches_of_read hm 16 0x76 _ hpc (by decide) rfl (carries 16 _ rfl) rfl rfl

theorem reaches_blockCopy (hm : m.HasRoom) (hpc : p.pc = 0)
    (carries : p.memory.Carries 0 (blockCopy source dest count))
    (clear : ∀ i < rounds count, 17 ≤ (dest + BitVec.ofNat 16 i).toNat) (steps : Nat) :
    (m.working p steps).Reaches (3 + 6 * rounds count + 1)
      { m.working { Processor.copyByte^[rounds count] (p.prepared source dest count) with pc := 17 }
          (steps + 3 + 6 * rounds count + 1) with status := .halted } := by
  have counts := ofNat_rounds count
  obtain ⟨k, hk, hr⟩ := exists_rounds_eq count
  rw [hr] at clear counts ⊢
  rw [← p.de_prepared source dest count] at clear
  have loop := reaches_rounds hm (p := p.prepared source dest count) hk rfl counts.symm carries
    clear (steps + 3)
  have stays := Processor.carries_iterate_copyByte (p := p.prepared source dest count) carries
    (fits_blockCopy ..) clear
  have hlt := reaches_halted hm (p := { Processor.copyByte^[k + 1] (p.prepared source dest count)
    with pc := 16 }) rfl stays (steps + 3 + 6 * (k + 1))
  exact ((reaches_loop hm hpc carries steps).trans loop).trans hlt

end Copy

/-- The program copies one block of memory to another, if the second block meets neither the first
one nor the program. It takes six instructions for each byte and four more, leaves the pointers
behind the blocks, and changes no other byte. -/
theorem run_blockCopy (ports : σ) {image : List Byte} {source dest : Word} {count : Byte}
    (begins : blockCopy source dest count <+: image) (fits : Memory.Fits 0 image)
    (apart : ∀ i < rounds count, ∀ j < rounds count,
      dest + BitVec.ofNat 16 i ≠ source + BitVec.ofNat 16 j)
    (clear : ∀ i < rounds count, 17 ≤ (dest + BitVec.ofNat 16 i).toNat) :
    ∃ m, ofImage ports image 0 = .ok m ∧
      m.run.1 = .ok .halted ∧
      m.run.2.steps = 3 + 6 * rounds count + 1 ∧
      m.run.2.processor.pc = 17 ∧
      (∀ i < rounds count, m.run.2.processor.memory.read (dest + BitVec.ofNat 16 i) =
        m.processor.memory.read (source + BitVec.ofNat 16 i)) ∧
      (∀ a, (∀ i < rounds count, a ≠ dest + BitVec.ofNat 16 i) →
        m.run.2.processor.memory.read a = m.processor.memory.read a) ∧
      m.run.2.processor.pair .hl = source + BitVec.ofNat 16 (rounds count) ∧
      m.run.2.processor.pair .de = dest + BitVec.ofNat 16 (rounds count) ∧
      m.run.2.processor.c = 0 ∧
      m.run.2.processor.a =
        m.processor.memory.read (source + BitVec.ofNat 16 (rounds count - 1)) := by
  have room : ((ofPorts ports).loaded image 0).HasRoom :=
    ⟨rfl, Nat.le_add_left_of_le begins.length_le⟩
  have carries := (Memory.carries_writeBytes Memory.zero fits).of_begins begins
  have within : 3 + 6 * rounds count + 1 ≤ maxLimit := by
    obtain ⟨k, hk, hr⟩ := exists_rounds_eq count
    rw [hr, maxLimit]
    omega
  refine ⟨(ofPorts ports).loaded image 0, load_eq_ok_iff.mpr ⟨fits, rfl⟩, ?_⟩
  have run : ((ofPorts ports).loaded image 0).run = (.ok .halted, _) :=
    (reaches_blockCopy room (p := ((ofPorts ports).loaded image 0).processor) rfl carries clear
      0).runLimit rfl within
  have copied := ((ofPorts ports).loaded image 0).processor.copied_iterate_copyByte apart
  have total : 0 + 3 + 6 * rounds count + 1 = 3 + 6 * rounds count + 1 := by omega
  rw [run]
  exact ⟨rfl, total, rfl, copied.bytes, copied.others, copied.hl, copied.de, copied.c, copied.a⟩

/-- Four bytes from the two ends of memory, the last of which are the first ones of the program. -/
theorem run_blockCopy_ends :
    ∃ m, ofImage (⟨⟩ : Unconnected) (blockCopy 0xFFFE 0x4000 4) 0 = .ok m ∧
      m.run.1 = .ok .halted ∧ m.run.2.steps = 28 ∧
      m.run.2.processor.memory.read 0x4002 = 0x21 ∧
      m.run.2.processor.memory.read 0x4003 = 0xFE ∧
      m.run.2.processor.memory.read 0x4004 = m.processor.memory.read 0x4004 ∧
      m.run.2.processor.pair .hl = 0x0002 ∧ m.run.2.processor.a = 0xFE := by
  have begins : blockCopy 0xFFFE 0x4000 4 <+: blockCopy 0xFFFE 0x4000 4 := ⟨[], rfl⟩
  obtain ⟨m, hm, halted, steps, -, bytes, others, hl, -, -, a⟩ :=
    run_blockCopy (⟨⟩ : Unconnected) begins (fits_blockCopy ..) (by decide) (by decide)
  have carries : m.processor.memory.Carries 0 (blockCopy 0xFFFE 0x4000 4) := by
    obtain ⟨-, rfl⟩ := load_eq_ok_iff.mp hm
    exact Memory.carries_writeBytes Memory.zero (fits_blockCopy ..)
  exact ⟨m, hm, halted, steps, (bytes 2 (by decide)).trans (carries 0 _ rfl),
    (bytes 3 (by decide)).trans (carries 1 _ rfl), others _ (by decide), hl,
    a.trans (carries 1 _ rfl)⟩

end Machine
end Intel8080
