import Intel8080.Proofs.Machine.Sequence
import Intel8080.Proofs.Stack.Shadow

/-! Transfers of words. A word goes to memory and back low byte first, to the stack and back, and
from one pair to another, and what is read is the word that was written. This holds at every
address, also where a word lies across the top of memory. The accumulator and the condition codes
travel as one word, in which three bits are fixed. Main statement: `transfers_lossless`. -/
namespace Intel8080

namespace Memory

theorem writeWord_writeWord_readWord (m : Memory) (a w : Word) :
    (m.writeWord a w).writeWord a (m.readWord a) = m := by
  ext b : 1
  simp only [read_writeWord, readWord, Word.hi_ofBytes, Word.lo_ofBytes]
  by_cases high : b = a + 1
  · rw [if_pos high, high]
  by_cases low : b = a
  · rw [if_neg high, if_pos low, low]
  · rw [if_neg high, if_neg low, if_neg high, if_neg low]

end Memory

namespace Processor
variable (p : Processor)

theorem pop_push (w : Word) :
    (p.push w).pop = (w, { p with memory := p.memory.writeWord (p.sp - 2) w }) := by
  rw [pop, top_push, drop_push]
  rfl

theorem setPair_pair (rp : Pair) : p.setPair rp (p.pair rp) = p := by
  cases rp <;> simp [setPair, pair]

theorem Loaded.withMemory {p : Processor} {rp : Pair} {w : Word} (h : p.Loaded w rp)
    (memory : Memory) : ({ p with memory } : Processor).Loaded w rp := by
  cases rp <;> exact h

theorem pair_exchangeTop : p.exchangeTop.pair .hl = p.top := by
  rw [exchangeTop, pair_setPair_self]
  rfl

theorem sp_exchangeTop : p.exchangeTop.sp = p.sp := rfl

theorem memory_exchangeTop : p.exchangeTop.memory = p.memory.writeWord p.sp (p.pair .hl) := rfl

theorem top_exchangeTop : p.exchangeTop.top = p.pair .hl := by
  rw [top, sp_exchangeTop, memory_exchangeTop, Memory.readWord_writeWord]

theorem exchangeTop_exchangeTop : p.exchangeTop.exchangeTop = p := by
  have memory : p.exchangeTop.memory.writeWord p.exchangeTop.sp (p.exchangeTop.pair .hl) =
      p.memory := by
    rw [memory_exchangeTop, sp_exchangeTop, pair_exchangeTop]
    exact p.memory.writeWord_writeWord_readWord p.sp _
  calc p.exchangeTop.exchangeTop
      = ({ p.exchangeTop with memory := p.memory } : Processor).setPair .hl p.exchangeTop.top := by
        rw [exchangeTop, memory]
    _ = ({ p.exchangeTop with memory := p.memory } : Processor).setPair .hl (p.pair .hl) := by
        rw [top_exchangeTop]
    _ = p.setPair .hl (p.pair .hl) := rfl
    _ = p := p.setPair_pair .hl

theorem carryOut_push_pop (rp rq : Pair) :
    [.push rp, .pop rq].foldl carryOut p = { p.setPair rq (p.pair rp) with
      memory := p.memory.writeWord (p.sp - 2) (p.pair rp) } := by
  let pushed := p.push (p.pair rp)
  calc [Instruction.push rp, .pop rq].foldl carryOut p
      = pushed.drop.setPair rq pushed.top := rfl
    _ = ({ p with memory := pushed.memory } : Processor).setPair rq (p.pair rp) := by
        rw [drop_push, top_push]
    _ = _ := by cases rq <;> rfl

end Processor

namespace Machine
variable {σ : Type} [Ports σ] {m : Machine σ}

/-- What `SHLD` stores at an address is what `LHLD` loads from there, after any number of
instructions that write no memory. -/
theorem processor_step_of_stored {between : List Instruction}
    (obeys : m.Obeys (.shld :: (between ++ [.lhld])))
    (silent : ∀ i ∈ between, i.writesMemory = false)
    (same : (step^[between.length + 1] m).operand = m.operand) :
    (step^[between.length + 1] m).step.processor = { (step^[between.length + 1] m).processor with
      h := m.processor.h
      l := m.processor.l
      pc := (step^[between.length + 1] m).nextAddress } := by
  rw [Function.iterate_succ_apply] at same ⊢
  obtain ⟨⟨executes, shld⟩, later⟩ := obeys
  obtain ⟨others, ⟨executes', lhld⟩, -⟩ := obeys_append.mp later
  have stored : m.step.processor = { m.processor with
      memory := m.processor.memory.writeWord m.operand (m.processor.pair .hl)
      pc := m.nextAddress } :=
    processor_step_of_next executes shld nofun nofun rfl
  have kept := others.memory_of_silent silent
  -- the word still stands where it was stored when it is loaded
  have word : (step^[between.length] m.step).processor.memory.readWord
      (step^[between.length] m.step).operand = m.processor.pair .hl := by
    rw [same, kept, stored, Memory.readWord_writeWord]
  rw [processor_step_of_next executes' lhld nofun nofun rfl, word]
  simp [Processor.setPair, Processor.pair]

theorem Obeys.processor_push_pop {rp rq : Pair} (h : m.Obeys [.push rp, .pop rq]) :
    (step^[2] m).processor = { m.processor.setPair rq (m.processor.pair rp) with
      memory := m.processor.memory.writeWord (m.processor.sp - 2) (m.processor.pair rp)
      pc := m.processor.pc + 2 } := by
  rw [h.processor_two rfl rfl, Processor.carryOut_push_pop]

/-- Transfers of words lose nothing. A word that is written to an address is read from there, and
the other bytes stay. A word that is pushed is popped. What `SHLD` stores is what `LHLD` loads,
whatever instructions that write no memory come between. `XTHL` exchanges `HL` with the word on
top of the stack and `XCHG` exchanges it with `DE`, and either of them undoes itself. What one
pair pushes another one pops, where `PSW` is the accumulator over the flag byte, and what a pair
has pushed itself it pops with nothing lost. -/
theorem transfers_lossless (m : Machine σ) :
    let p := m.processor
    (∀ a w, (p.memory.writeWord a w).readWord a = w ∧
      ∀ b, b ≠ a → b ≠ a + 1 → (p.memory.writeWord a w).read b = p.memory.read b) ∧
    (∀ w, (p.push w).pop = (w, { p with memory := p.memory.writeWord (p.sp - 2) w })) ∧
    (∀ between, m.Obeys (.shld :: (between ++ [.lhld])) →
      (∀ i ∈ between, i.writesMemory = false) →
      let changed := step^[between.length + 1] m
      let q := changed.step.processor
      changed.operand = m.operand → q.pair .hl = p.pair .hl ∧
      q = { changed.processor with h := p.h, l := p.l, pc := changed.nextAddress }) ∧
    (m.Obeys [.xthl] →
      let q := m.step.processor
      q.pair .hl = p.top ∧ q.top = p.pair .hl ∧ q.sp = p.sp) ∧
    (m.Obeys [.xchg] →
      let q := m.step.processor
      q.pair .hl = p.pair .de ∧ q.pair .de = p.pair .hl) ∧
    (∀ i ∈ [.xthl, .xchg], m.Obeys [i, i] → (step^[2] m).processor = { p with pc := p.pc + 2 }) ∧
    (∀ rp rq, m.Obeys [.push rp, .pop rq] →
      let q := (step^[2] m).processor
      q.Loaded (p.pair rp) rq ∧ q.sp = p.sp ∧
      q = { p.setPair rq (p.pair rp) with
        memory := p.memory.writeWord (p.sp - 2) (p.pair rp)
        pc := p.pc + 2 } ∧
      (rq = rp → q = { p with memory := q.memory, pc := p.pc + 2 })) ∧
    (p.pair .psw).hi = p.a ∧
    [7, 6, 5, 4, 3, 2, 1, 0].map (p.pair .psw).lo.getLsbD =
      [p.flags.sign, p.flags.zero, false, p.flags.auxCarry, false, p.flags.parity, true,
        p.flags.carry] := by
  intro p
  refine ⟨fun a w => ⟨p.memory.readWord_writeWord a w, fun b low high => ?_⟩, p.pop_push,
    fun between obeys silent same => ?_, fun obeys => ?_, fun obeys => ?_, fun i hi obeys => ?_,
    fun rp rq obeys => ?_, Word.hi_ofBytes _ _, ?_⟩
  · rw [Memory.read_writeWord, if_neg high, if_neg low]
  · have effect := processor_step_of_stored obeys silent same
    exact ⟨by rw [effect]; rfl, effect⟩
  · have effect : m.step.processor = { p.exchangeTop with pc := p.pc + 1 } :=
      processor_step_of_obeys obeys rfl
    rw [effect]
    exact ⟨p.pair_exchangeTop, p.top_exchangeTop, rfl⟩
  · rw [processor_step_of_obeys obeys rfl]
    exact ⟨rfl, rfl⟩
  · obtain ⟨plain, back⟩ : i.isPlain = true ∧ [i, i].foldl Processor.carryOut p = p := by
      obtain rfl | rfl : i = .xthl ∨ i = .xchg := by simpa using hi
      · exact ⟨rfl, p.exchangeTop_exchangeTop⟩
      · exact ⟨rfl, rfl⟩
    rw [obeys.processor_two plain plain, back]
  · intro q
    -- no opcode pops into the stack pointer itself
    have notSP : rq ≠ .sp := by
      rintro rfl
      exact Opcode.lookup_ne_pop_sp _ obeys.2.1.2
    have effect : q = _ := obeys.processor_push_pop
    refine ⟨?_, ?_, effect, ?_⟩
    · rw [effect]
      exact ((p.loaded_setPair rq _).withMemory _).setPC (p.pc + 2)
    · rw [effect]
      exact Processor.sp_setPair_of_ne notSP p _
    · rintro rfl
      rw [effect, p.setPair_pair]
  · rw [Processor.pair, Word.lo_ofBytes, Flags.bits_toByte]

def transfers (sp : Word) (codes : List Byte) : Machine Unconnected where
  processor :=
    { a := 0x9A, d := 0x56, e := 0x78, h := 0x12, l := 0x34, sp, pc := 0x10
      flags := { sign := true, carry := true }
      memory := Memory.zero.writeBytes 0x10 codes }
  ports := ⟨⟩

/-- `SHLD FFFF`, `INX H`, `LHLD FFFF`. -/
def storesAcrossTop : Machine Unconnected :=
  transfers 0 [0x22, 0xFF, 0xFF, 0x23, 0x2A, 0xFF, 0xFF]

theorem storesAcrossTop_obeys : storesAcrossTop.Obeys [.shld, .inx .hl, .lhld] ∧
    storesAcrossTop.operand = 0xFFFF ∧ (step^[2] storesAcrossTop).operand = 0xFFFF := by
  have carries : storesAcrossTop.processor.memory.Carries 0x10
      [0x22, 0xFF, 0xFF, 0x23, 0x2A, 0xFF, 0xFF] :=
    Memory.carries_writeBytes Memory.zero (by decide)
  have executes : storesAcrossTop.Executes := executes_of_all rfl rfl
  have shld : storesAcrossTop.opcode = .decode 0x22 := opcode_of_read (carries 0 _ rfl)
  have operand : storesAcrossTop.operand = 0xFFFF := by
    have low : storesAcrossTop.processor.memory.read 0x11 = 0xFF := carries 1 _ rfl
    have high : storesAcrossTop.processor.memory.read (0x11 + 1) = 0xFF := carries 2 _ rfl
    change storesAcrossTop.processor.memory.readWord 0x11 = 0xFFFF
    rw [Memory.readWord, low, high]
    rfl
  have written : storesAcrossTop.stores = [(0xFFFF, 0x34), (0, 0x12)] := by
    rw [stores, if_pos executes, shld, operand]
    rfl
  have away (a : Word) (h : a ∈ [0x14, 0x15, 0x16]) :
      storesAcrossTop.step.processor.memory.read a = storesAcrossTop.processor.memory.read a := by
    apply read_step_of_not_mem
    rw [written]
    obtain rfl | rfl | rfl : a = 0x14 ∨ a = 0x15 ∨ a = 0x16 := by simpa using h
    all_goals decide
  have pc : storesAcrossTop.step.processor.pc = 0x13 := by
    rw [pc_step executes, flow, nextAddress, shld]
    rfl
  have inx : storesAcrossTop.step.opcode = .decode 0x23 := by
    apply opcode_step_of_kept
    · rw [pc]
      exact carries 3 _ rfl
    · rw [written, pc]
      decide
  have executes' : storesAcrossTop.step.Executes := by
    refine executes_of_all ?_ (features_step _)
    rw [status_step executes, flow, shld]
    rfl
  have second := processor_step_of_isPlain executes' (congrArg _ inx) rfl
  have silent := memory_step_of_not_writesMemory (m := storesAcrossTop.step) (by rw [inx]; rfl)
  have pc' : storesAcrossTop.step.step.processor.pc = 0x14 := by
    rw [second, pc]
    rfl
  have lhld : storesAcrossTop.step.step.opcode = .decode 0x2A := by
    apply opcode_of_read
    rw [pc', silent, away 0x14 (by decide)]
    exact carries 4 _ rfl
  have operand' : storesAcrossTop.step.step.operand = 0xFFFF := by
    have low : storesAcrossTop.step.step.processor.memory.read (0x14 + 1) = 0xFF := by
      rw [silent, away (0x14 + 1) (by decide)]
      exact carries 5 _ rfl
    have high : storesAcrossTop.step.step.processor.memory.read (0x14 + 1 + 1) = 0xFF := by
      rw [silent, away (0x14 + 1 + 1) (by decide)]
      exact carries 6 _ rfl
    rw [Machine.operand, pc', Memory.readWord, low, high]
    rfl
  have executes'' : storesAcrossTop.step.step.Executes :=
    executes_of_all (status_step_of_isPlain executes' (congrArg _ inx) rfl)
      ((features_step _).trans (features_step _))
  refine ⟨⟨⟨executes, congrArg _ shld⟩, ⟨executes', congrArg _ inx⟩, ⟨executes'', congrArg _ lhld⟩,
    trivial⟩, operand, ?_⟩
  rw [Function.iterate_succ_apply, Function.iterate_one, operand']

/-- `HL` is loaded back from across the top of memory. Where the stack lies across it, `XTHL` puts
`HL` there and takes it back, and `PUSH PSW` leaves the accumulator and the flag byte 83H for `POP
B`, or for `POP PSW`. `XCHG` undoes itself. -/
theorem transfers_lossless_across_top :
    (storesAcrossTop.Obeys [.shld, .inx .hl, .lhld] ∧
      (step^[2] storesAcrossTop).step.processor.pair .hl = 0x1234) ∧
    (let m := transfers 0xFFFF [0xE3, 0xE3]
     m.Obeys [.xthl, .xthl] ∧ m.step.processor.top = 0x1234 ∧
     (step^[2] m).processor = { m.processor with pc := 0x12 }) ∧
    (let m := transfers 0 [0xEB, 0xEB]
     m.Obeys [.xchg, .xchg] ∧ m.step.processor.pair .hl = 0x5678 ∧
     (step^[2] m).processor = { m.processor with pc := 0x12 }) ∧
    (let m := transfers 1 [0xF5, 0xC1]
     m.Obeys [.push .psw, .pop .bc] ∧ (step^[2] m).processor.pair .bc = 0x9A83) ∧
    (let m := transfers 1 [0xF5, 0xF1]
     m.Obeys [.push .psw, .pop .psw] ∧
     (step^[2] m).processor =
       { m.processor with memory := (step^[2] m).processor.memory, pc := 0x12 }) := by
  have carries (sp : Word) (c d : Byte) :
      (transfers sp [c, d]).processor.memory.Carries 0x10 [c, d] :=
    Memory.carries_writeBytes Memory.zero (Memory.fits_iff.mpr (by simp))
  have hl (sp : Word) (codes : List Byte) : (transfers sp codes).processor.pair .hl = 0x1234 :=
    show Word.ofBytes 0x12 0x34 = 0x1234 by decide
  have de (sp : Word) (codes : List Byte) : (transfers sp codes).processor.pair .de = 0x5678 :=
    show Word.ofBytes 0x56 0x78 = 0x5678 by decide
  have psw (sp : Word) (codes : List Byte) : (transfers sp codes).processor.pair .psw = 0x9A83 :=
    show Word.ofBytes 0x9A ({ sign := true, carry := true } : Flags).toByte = 0x9A83 by decide
  refine ⟨⟨storesAcrossTop_obeys.1, ?_⟩, ?_, ?_, ?_, ?_⟩
  · obtain ⟨obeys, operand, operand'⟩ := storesAcrossTop_obeys
    obtain ⟨-, -, loads, -⟩ := transfers_lossless storesAcrossTop
    exact (loads [.inx .hl] obeys (by decide) (operand'.trans operand.symm)).1.trans (hl _ _)
  · intro m
    have obeys : m.Obeys [.xthl, .xthl] :=
      obeys_two rfl rfl (carries 0xFFFF 0xE3 0xE3) rfl (by decide)
    obtain ⟨-, -, -, exchanged, -, undone, -⟩ := transfers_lossless m
    exact ⟨obeys, (exchanged ⟨obeys.1, trivial⟩).2.1.trans (hl _ _), undone _ (by simp) obeys⟩
  · intro m
    have obeys : m.Obeys [.xchg, .xchg] :=
      obeys_two rfl rfl (carries 0 0xEB 0xEB) rfl (by decide)
    obtain ⟨-, -, -, -, exchanged, undone, -⟩ := transfers_lossless m
    exact ⟨obeys, (exchanged ⟨obeys.1, trivial⟩).1.trans (de _ _), undone _ (by simp) obeys⟩
  · intro m
    have obeys : m.Obeys [.push .psw, .pop .bc] :=
      obeys_two rfl rfl (carries 1 0xF5 0xC1) rfl (by decide)
    obtain ⟨-, -, -, -, -, -, copied, -⟩ := transfers_lossless m
    exact ⟨obeys, ((copied .psw .bc obeys).1.pair_eq (by decide)).trans (psw _ _)⟩
  · intro m
    have obeys : m.Obeys [.push .psw, .pop .psw] :=
      obeys_two rfl rfl (carries 1 0xF5 0xF1) rfl (by decide)
    obtain ⟨-, -, -, -, -, -, copied, -⟩ := transfers_lossless m
    exact ⟨obeys, (copied _ _ obeys).2.2.2 rfl⟩

end Machine
end Intel8080
