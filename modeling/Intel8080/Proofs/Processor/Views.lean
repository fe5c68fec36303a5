import Intel8080.Proofs.Processor.Stores

/-! Registers and pairs as views of one processor. A register is a byte of a pair, so that to put
a byte into it is to replace this byte of the pair, and the byte in memory is the one that `HL`
points to. What is put into a view is read from it, and a view that has no part in it stays as it
was. Together with the program counter, the interrupt switch and memory, the pairs show all that a
processor holds. Main statement: `views_coherent`. -/
namespace Intel8080

inductive Half
  | high | low
  deriving DecidableEq

namespace Word

def half (w : Word) : Half → Byte
  | .high => w.hi
  | .low => w.lo

def withHalf (w : Word) (x : Half) (v : Byte) : Word :=
  match x with
  | .high => .ofBytes v w.lo
  | .low => .ofBytes w.hi v

theorem half_withHalf_of_ne {x y : Half} (h : y ≠ x) (w : Word) (v : Byte) :
    (w.withHalf x v).half y = w.half y := by
  cases x <;> cases y <;> first | exact absurd rfl h | simp [half, withHalf]

/-- In a flag byte bit 1 is set, and bits 3 and 5 are clear. -/
theorem ofBytes_fixed (w : Word) :
    .ofBytes w.hi (w.lo &&& 0xD5 ||| 0x02) = w &&& ~~~0x28 ||| 0x02 := by
  have high : (w &&& ~~~0x28 ||| 0x02).hi = w.hi &&& .allOnes 8 ||| 0#8 := by
    rw [hi, BitVec.extractLsb'_or, BitVec.extractLsb'_and]
    rfl
  have low : (w &&& ~~~0x28 ||| 0x02).lo = w.lo &&& 0xD7 ||| 0x02 := by
    rw [lo, BitVec.extractLsb'_or, BitVec.extractLsb'_and]
    rfl
  -- it makes no difference whether bit 1 is cleared before it is set
  have same : ∀ b : Byte, b &&& 0xD7 ||| 0x02 = b &&& 0xD5 ||| 0x02 := by decide +kernel
  calc Word.ofBytes w.hi (w.lo &&& 0xD5 ||| 0x02)
      = .ofBytes (w &&& ~~~0x28 ||| 0x02).hi (w &&& ~~~0x28 ||| 0x02).lo := by
        rw [high, low, same, BitVec.and_allOnes, BitVec.or_zero]
    _ = w &&& ~~~0x28 ||| 0x02 := ofBytes_hi_lo _

end Word

namespace Register

/-- The pair in which a register is kept. The byte in memory is reached through `HL`. -/
def pair : Register → Pair
  | .b | .c => .bc
  | .d | .e => .de
  | .h | .l | .m => .hl
  | .a => .psw

def half? : Register → Option Half
  | .b | .d | .h | .a => some .high
  | .c | .e | .l => some .low
  | .m => none

theorem half?_eq_none_iff {r : Register} : r.half? = none ↔ r = .m := by
  cases r <;> simp [half?]

theorem exists_half?_of_ne {r : Register} (h : r ≠ .m) : ∃ x, r.half? = some x :=
  Option.ne_none_iff_exists'.mp fun none => h (half?_eq_none_iff.mp none)

theorem eq_of_pair_eq_of_half?_eq {r s : Register} (pairs : r.pair = s.pair)
    (halves : r.half? = s.half?) : r = s := by
  cases r <;> cases s <;> simp_all [pair, half?]

theorem pair_eq_hl_iff {r : Register} : r.pair = .hl ↔ r = .h ∨ r = .l ∨ r = .m := by
  cases r <;> simp [pair]

end Register

namespace Processor

section Pairs
variable (p : Processor) (w : Word)

theorem pair_setPair_eq (rp : Pair) : (p.setPair rp w).pair rp =
    if rp = .psw then w &&& ~~~0x28 ||| 0x02 else w := by
  rw [pair_setPair_self, Word.ofBytes_fixed]

theorem reg_eq_half {r : Register} {x : Half} (h : r.half? = some x) :
    p.reg r = (p.pair r.pair).half x := by
  cases r <;> cases h <;> simp [reg, pair, Register.pair, Word.half]

theorem reg_setPair {r : Register} {x : Half} (h : r.half? = some x) :
    (p.setPair r.pair w).reg r = w.half x := by
  cases r <;> cases h <;> rfl

theorem reg_m_setPair : (p.setPair .hl w).reg .m = p.memory.read w := by
  rw [reg, memory_setPair, pair_setPair_self]
  rfl

theorem reg_setPair_of_ne {r : Register} {rp : Pair} (h : r.pair ≠ rp) :
    (p.setPair rp w).reg r = p.reg r := by
  by_cases hr : r = .m
  · subst hr
    have hl : Pair.hl ≠ rp := h
    rw [reg, memory_setPair, pair_setPair_of_ne hl]
    rfl
  · obtain ⟨x, hx⟩ := Register.exists_half?_of_ne hr
    rw [reg_eq_half _ hx, pair_setPair_of_ne h, reg_eq_half p hx]

end Pairs

section Registers
variable (p : Processor) (v : Byte)

theorem setReg_eq_setPair {r : Register} {x : Half} (h : r.half? = some x) :
    p.setReg r v = p.setPair r.pair ((p.pair r.pair).withHalf x v) := by
  cases r <;> cases h <;> simp [setReg, setPair, pair, Register.pair, Word.withHalf]

theorem pair_setReg {r : Register} {x : Half} (h : r.half? = some x) :
    (p.setReg r v).pair r.pair = (p.pair r.pair).withHalf x v := by
  cases r <;> cases h <;> simp [setReg, pair, Register.pair, Word.withHalf]

theorem memory_setReg {r : Register} {x : Half} (h : r.half? = some x) :
    (p.setReg r v).memory = p.memory := by
  rw [setReg_eq_setPair p v h, memory_setPair]

theorem pair_setReg_of_ne {r : Register} {rp : Pair} (h : rp ≠ r.pair ∨ r = .m) :
    (p.setReg r v).pair rp = p.pair rp := by
  by_cases hr : r = .m
  · subst hr
    cases rp <;> rfl
  · obtain ⟨x, hx⟩ := Register.exists_half?_of_ne hr
    rw [setReg_eq_setPair p v hx, pair_setPair_of_ne (h.resolve_right hr)]

theorem reg_setReg_of_ne {r s : Register} (h : s ≠ r) (hs : s ≠ .m) :
    (p.setReg r v).reg s = p.reg s := by
  obtain ⟨y, hy⟩ := Register.exists_half?_of_ne hs
  rw [reg_eq_half _ hy, reg_eq_half p hy]
  by_cases apart : s.pair ≠ r.pair ∨ r = .m
  · rw [pair_setReg_of_ne p v apart]
  · obtain ⟨together, hr⟩ := not_or.mp apart
    obtain ⟨x, hx⟩ := Register.exists_half?_of_ne hr
    have pairs : s.pair = r.pair := not_ne_iff.mp together
    have halves : y ≠ x := by
      rintro rfl
      exact h (Register.eq_of_pair_eq_of_half?_eq pairs (hy.trans hx.symm))
    rw [pairs, pair_setReg p v hx, Word.half_withHalf_of_ne halves]

/-- The byte in memory is another one where `HL` points to another address. -/
theorem reg_m_setReg {r : Register} (h : r ≠ .m) : (p.setReg r v).reg .m =
    if r = .h ∨ r = .l then p.memory.read ((p.setReg r v).pair .hl) else p.reg .m := by
  obtain ⟨x, hx⟩ := Register.exists_half?_of_ne h
  rw [reg, memory_setReg p v hx]
  split
  · rfl
  · next other =>
    have away : Pair.hl ≠ r.pair := by
      intro hl
      rcases Register.pair_eq_hl_iff.mp hl.symm with high | low | memory
      · exact other (.inl high)
      · exact other (.inr low)
      · exact h memory
    rw [pair_setReg_of_ne p v (.inl away)]
    rfl

theorem setReg_keeps (r : Register) :
    (p.setReg r v).pc = p.pc ∧ (p.setReg r v).interrupts = p.interrupts := by
  cases r <;> exact ⟨rfl, rfl⟩

end Registers

theorem setPair_keeps (p : Processor) (rp : Pair) (w : Word) :
    (p.setPair rp w).pc = p.pc ∧ (p.setPair rp w).interrupts = p.interrupts := by
  cases rp <;> exact ⟨rfl, rfl⟩

theorem ofByte_pair_psw (p : Processor) : Flags.ofByte (p.pair .psw).lo = p.flags := by
  rw [pair, Word.lo_ofBytes, Flags.ofByte_toByte]

/-- Beside what the pairs show there are the program counter, the interrupt switch and memory. -/
theorem ext_pair {p q : Processor} (pairs : ∀ rp, p.pair rp = q.pair rp) (pc : p.pc = q.pc)
    (interrupts : p.interrupts = q.interrupts) (memory : p.memory = q.memory) : p = q := by
  have bytes (r : Register) (x : Half) (h : r.half? = some x) : p.reg r = q.reg r := by
    rw [reg_eq_half p h, reg_eq_half q h, pairs]
  have flags : p.flags = q.flags := by
    rw [← ofByte_pair_psw p, ← ofByte_pair_psw q, pairs]
  ext1
  · exact bytes .a .high rfl
  · exact bytes .b .high rfl
  · exact bytes .c .low rfl
  · exact bytes .d .high rfl
  · exact bytes .e .low rfl
  · exact bytes .h .high rfl
  · exact bytes .l .low rfl
  · exact pairs .sp
  · exact pc
  · exact flags
  · exact interrupts
  · exact memory

/-- The views of a processor agree with each other. A register reads back the byte that is put
into it. Every other register keeps its byte, except that the byte in memory is read at the new
`HL` once one of its halves is set. A byte of a pair is replaced in the pair, where the
accumulator is the high byte of `PSW`, and the other pairs stay; a byte that is put into memory
goes to the address in `HL` and nowhere else. A pair reads back the word that is put into it, up
to the fixed bits of the flag byte, and its registers are the bytes of this word. The other pairs
and their registers stay. The program counter and the interrupt switch stay in any case, and
memory stays unless a byte is put there. What the pairs, these two and memory show is all that
there is. -/
theorem views_coherent (p : Processor) :
    (∀ r v,
      let q := p.setReg r v
      q.reg r = v ∧
      (∀ s, s ≠ r → q.reg s =
        if s = .m ∧ (r = .h ∨ r = .l) then p.memory.read (q.pair .hl) else p.reg s) ∧
      (∀ x, r.half? = some x →
        q.pair r.pair = (p.pair r.pair).withHalf x v ∧ q.memory = p.memory) ∧
      (∀ rp, rp ≠ r.pair ∨ r = .m → q.pair rp = p.pair rp) ∧
      (r = .m → ∀ a, q.memory.read a = if a = p.pair .hl then v else p.memory.read a) ∧
      q.pc = p.pc ∧ q.interrupts = p.interrupts) ∧
    (∀ rp w,
      let q := p.setPair rp w
      q.pair rp = (if rp = .psw then w &&& ~~~0x28 ||| 0x02 else w) ∧
      (∀ r x, r.pair = rp → r.half? = some x → q.reg r = w.half x) ∧
      (∀ rq, rq ≠ rp → q.pair rq = p.pair rq) ∧
      (∀ r, r.pair ≠ rp → q.reg r = p.reg r) ∧
      (rp = .hl → q.reg .m = p.memory.read w) ∧
      q.pc = p.pc ∧ q.interrupts = p.interrupts ∧ q.memory = p.memory) ∧
    ∀ q : Processor, (∀ rp, q.pair rp = p.pair rp) → q.pc = p.pc → q.interrupts = p.interrupts →
      q.memory = p.memory → q = p := by
  refine ⟨fun r v => ?_, fun rp w => ?_, fun q pairs pc interrupts memory => ?_⟩
  · obtain ⟨pc, interrupts⟩ := p.setReg_keeps v r
    refine ⟨p.reg_setReg_self r v, fun s hs => ?_,
      fun x hx => ⟨p.pair_setReg v hx, p.memory_setReg v hx⟩, fun rp h => p.pair_setReg_of_ne v h,
      ?_, pc, interrupts⟩
    · by_cases memory : s = .m
      · subst memory
        simpa using p.reg_m_setReg v hs.symm
      · rw [if_neg fun h => memory h.1, p.reg_setReg_of_ne v hs memory]
    · rintro rfl a
      exact p.memory.read_write (p.pair .hl) a v
  · obtain ⟨pc, interrupts⟩ := p.setPair_keeps rp w
    refine ⟨p.pair_setPair_eq w rp, ?_, fun rq h => pair_setPair_of_ne h p w,
      fun r h => p.reg_setPair_of_ne w h, ?_, pc, interrupts, p.memory_setPair rp w⟩
    · rintro r x rfl hx
      exact p.reg_setPair w hx
    · rintro rfl
      exact p.reg_m_setPair w
  · exact ext_pair pairs pc interrupts memory

/-- `HL` points to the last address, where 99H stands. At 00FF stands 11H. -/
def pointsToTop : Processor where
  a := 0x9A
  b := 0x12
  c := 0x34
  h := 0xFF
  l := 0xFF
  flags := { sign := true, carry := true }
  memory := Memory.zero.storeAll [(0xFFFF, 0x99), (0x00FF, 0x11)]

/-- With `H` cleared `HL` points to 00FF, and `BC` and `L` are as before. A byte for memory goes
to the last address. The flag byte 83H stays below a new accumulator, and of FFH it keeps D7H. To
set `H` back restores the processor. -/
theorem pointsToTop_coherent :
    (let q := pointsToTop.setReg .h 0
     q.pair .hl = 0x00FF ∧ q.reg .m = 0x11 ∧ q.reg .l = 0xFF ∧ q.pair .bc = 0x1234 ∧
     q.setReg .h 0xFF = pointsToTop) ∧
    (let q := pointsToTop.setReg .m 0x42
     q.memory.read 0xFFFF = 0x42 ∧ q.pair .hl = 0xFFFF) ∧
    (pointsToTop.setReg .a 0x42).pair .psw = 0x4283 ∧
    (let q := pointsToTop.setPair .psw 0x42FF
     q.pair .psw = 0x42D7 ∧ q.reg .a = 0x42 ∧ q.reg .b = 0x12 ∧ q.pair .hl = 0xFFFF) ∧
    (pointsToTop.setPair .hl 0x00FF).reg .m = 0x11 := by
  have top : pointsToTop.pair .hl = 0xFFFF := show Word.ofBytes 0xFF 0xFF = 0xFFFF by decide
  have below : pointsToTop.memory.read 0x00FF = 0x11 := by simp [pointsToTop]
  obtain ⟨registers, pairs, all⟩ := views_coherent pointsToTop
  refine ⟨?_, ?_, ?_, ?_, ?_⟩
  · obtain ⟨-, others, halves, apart, -⟩ := registers .h 0
    have hl : (pointsToTop.setReg .h 0).pair .hl = 0x00FF := (halves .high rfl).1
    have memory := others .m (by decide)
    rw [if_pos (by decide), hl, below] at memory
    refine ⟨hl, memory, others .l (by decide), apart .bc (by decide), ?_⟩
    exact all _ (fun rp => by cases rp <;> rfl) rfl rfl rfl
  · obtain ⟨-, -, -, apart, written, -⟩ := registers .m 0x42
    refine ⟨?_, (apart .hl (.inr rfl)).trans top⟩
    rw [written rfl, if_pos top.symm]
  · exact ((registers .a 0x42).2.2.1 .high rfl).1
  · obtain ⟨kept, halves, apart, others, -⟩ := pairs .psw 0x42FF
    exact ⟨kept, halves .a .high rfl rfl, others .b (by decide), (apart .hl (by decide)).trans top⟩
  · exact ((pairs .hl 0x00FF).2.2.2.2.1 rfl).trans below

end Processor
end Intel8080
