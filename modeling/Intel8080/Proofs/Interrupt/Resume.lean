import Intel8080.Proofs.Machine.History
import Intel8080.Proofs.Machine.Load
import Mathlib.Tactic.IntervalCases

/-! Whether an accepted interrupt lets the machine go on. The machine is at the restart address and
running in any case, but the mark that control passed the top of memory stays: a run goes on exactly
if no step since the program was loaded has passed the top. -/
namespace Intel8080.Machine
variable {σ : Type} [Ports σ]

/-- Every run with room for a step begins at the program counter: it executes the instruction there,
or faults on it. -/
def GoesOn (m : Machine σ) : Prop :=
  m.atEnd = false ∧ ∀ limit, m.runLimit (limit + 1) = m.step.runLimit limit ∧
    (m.step.steps = m.steps + 1 ∨ m.step.status = .faulted m.fault)

/-- No run takes a step. -/
def StaysAtEnd (m : Machine σ) : Prop :=
  m.atEnd = true ∧ ∀ limit, m.runLimit limit = (.ok .endOfProgram, m)

theorem goesOn_iff {m : Machine σ} (running : m.status = .running) :
    m.GoesOn ↔ m.atEnd = false := by
  constructor
  · exact fun h => h.1
  · intro inside
    have ho : m.outcome? = none := outcome?_eq_none_iff.mpr ⟨running, inside⟩
    refine ⟨inside, fun limit => ⟨runLimit_succ_of_none ho limit, ?_⟩⟩
    rcases m.step_cases with ⟨he, -⟩ | ⟨-, hs⟩ | ⟨idle, -⟩
    · exact Or.inl (steps_step he)
    · exact Or.inr (by rw [hs])
    · exact absurd running idle

theorem staysAtEnd_of_atEnd {m : Machine σ} (running : m.status = .running)
    (atEnd : m.atEnd = true) : m.StaysAtEnd := by
  have ho : m.outcome? = some (.ok .endOfProgram) := by simp [outcome?, running, atEnd]
  exact ⟨atEnd, runLimit_of_outcome ho⟩

theorem toNat_restartAddress_setWidth (v : Byte) :
    (restartAddress (v.setWidth 3)).toNat = 8 * (v.toNat % 8) := by
  rw [toNat_restartAddress, BitVec.toNat_setWidth]

omit [Ports σ] in
theorem atEnd_interrupt_of_accepted {m : Machine σ} {v : Byte} (h : (m.interrupt v).1 = true)
    (first : m.programStart ≤ 8 * (v.toNat % 8)) (last : 8 * (v.toNat % 8) < m.programEnd) :
    (m.interrupt v).2.atEnd = m.wrapped := by
  rw [interrupt_of_accepted h, atEnd, toNat_restartAddress_setWidth]
  simp [first, last]

/-- After an accepted interrupt whose restart address lies in the program, the machine goes on from
that address exactly if no step has passed the top of memory since the program was loaded. -/
theorem interrupt_goesOn_iff {m₀ m : Machine σ} {image : List Byte} {base : Word}
    (loaded : m₀.load image base = .ok m) (history : List Action) (v : Byte)
    (accepted : ((m.after history).interrupt v).1 = true)
    (first : (m.after history).programStart ≤ 8 * (v.toNat % 8))
    (last : 8 * (v.toNat % 8) < (m.after history).programEnd) :
    let resumed := ((m.after history).interrupt v).2
    resumed.processor.pc.toNat = 8 * (v.toNat % 8) ∧
      (resumed.GoesOn ↔ ¬m.PassedTop history) ∧ (resumed.StaysAtEnd ↔ m.PassedTop history) := by
  intro resumed
  have fresh : m.wrapped = false := by
    obtain ⟨-, rfl⟩ := load_eq_ok_iff.mp loaded
    rfl
  have hw : (m.after history).wrapped = true ↔ m.PassedTop history := by
    simp [wrapped_after, fresh]
  have running : resumed.status = .running := by
    simp only [resumed, interrupt_of_accepted accepted]
  have atEnd : resumed.atEnd = (m.after history).wrapped :=
    atEnd_interrupt_of_accepted accepted first last
  refine ⟨?_, ?_, ?_⟩
  · simp only [resumed, interrupt_of_accepted accepted, toNat_restartAddress_setWidth]
  · rw [goesOn_iff running, atEnd, ← hw, Bool.not_eq_true]
  · rw [← hw, ← atEnd]
    exact ⟨fun h => h.1, staysAtEnd_of_atEnd running⟩

/-- `EI` and `JMP FFFF`, then a number of zeros, and `HLT` behind them. -/
def haltAfter (n : Nat) : List Byte :=
  0xFB :: 0xC3 :: 0xFF :: 0xFF :: (List.replicate n 0 ++ [0x76])

theorem length_haltAfter (n : Nat) : (haltAfter n).length = n + 5 := by
  simp [haltAfter]

theorem getElem?_haltAfter (n : Nat) : (haltAfter n)[n + 4]? = some 0x76 := by
  have behind : (List.replicate n (0 : Byte)).length ≤ n := Nat.le_of_eq List.length_replicate
  simp only [haltAfter, List.getElem?_cons_succ]
  rw [List.getElem?_append_right behind, List.length_replicate, Nat.sub_self]
  rfl

/-- The program fills memory, so that its `HLT` stands at the last address. -/
def haltAtTop : List Byte := haltAfter 65531

theorem steps_of_haltAtTop {memory : Memory} (ei : memory.read 0 = 0xFB)
    (jmp : memory.read 1 = 0xC3) (target : memory.readWord 2 = 0xFFFF)
    (hlt : memory.read 0xFFFF = 0x76) :
    step^[1] (upToTop memory 0) = { upToTop memory 0 with
      processor := { memory, pc := 1, interrupts := true }, steps := 1 } ∧
    step^[2] (upToTop memory 0) = { upToTop memory 0 with
      processor := { memory, pc := 0xFFFF, interrupts := true }, steps := 2 } ∧
    step^[3] (upToTop memory 0) = { upToTop memory 0 with
      processor := { memory, interrupts := true }
      status := .halted, wrapped := true, steps := 3 } := by
  have h1 : step^[1] (upToTop memory 0) = { upToTop memory 0 with
      processor := { memory, pc := 1, interrupts := true }, steps := 1 } := by
    rw [Function.iterate_one]
    exact step_eq_of_read 0 0xFB _ rfl rfl rfl ei rfl rfl
  have h2 : step^[2] (upToTop memory 0) = { upToTop memory 0 with
      processor := { memory, pc := 0xFFFF, interrupts := true }, steps := 2 } := by
    rw [Function.iterate_succ_apply', h1]
    exact step_eq_of_read 1 0xC3 0xFFFF rfl rfl rfl jmp target rfl
  refine ⟨h1, h2, ?_⟩
  rw [Function.iterate_succ_apply', h2]
  exact step_eq_of_read 0xFFFF 0x76 _ rfl rfl rfl hlt rfl rfl

theorem load_haltAtTop : ∃ memory, (ofPorts ⟨⟩).load haltAtTop 0 = .ok (upToTop memory 0) ∧
    memory.read 0 = 0xFB ∧ memory.read 1 = 0xC3 ∧ memory.readWord 2 = 0xFFFF ∧
    memory.read 0xFFFF = 0x76 := by
  have length : (0 : Word).toNat + haltAtTop.length = 65536 := by
    rw [haltAtTop, length_haltAfter]
    rfl
  obtain ⟨memory, hl, carries⟩ := load_eq_upToTop haltAtTop 0 length
  exact ⟨memory, hl, carries 0 _ rfl, carries 1 _ rfl,
    congrArg₂ Word.ofBytes (carries 3 0xFF rfl) (carries 2 0xFF rfl),
    carries 65535 _ (getElem?_haltAfter 65531)⟩

/-- An accepted interrupt need not let the machine go on: after a halt at the last address of memory
no run takes a step, though the restart address lies in the program. -/
theorem interrupt_after_top_staysAtEnd :
    ∃ m : Machine Unconnected, (ofPorts ⟨⟩).load haltAtTop 0 = .ok m ∧
      ((m.after [.runLimit maxLimit]).interrupt 0).1 = true ∧
      (m.after [.runLimit maxLimit]).programStart ≤ 8 * ((0 : Byte).toNat % 8) ∧
      8 * ((0 : Byte).toNat % 8) < (m.after [.runLimit maxLimit]).programEnd ∧
      ((m.after [.runLimit maxLimit]).interrupt 0).2.atEnd = true ∧
      ((m.after [.runLimit maxLimit]).interrupt 0).2.runLimit 1 =
        (.ok .endOfProgram, ((m.after [.runLimit maxLimit]).interrupt 0).2) := by
  obtain ⟨memory, hl, ei, jmp, target, hlt⟩ := load_haltAtTop
  obtain ⟨h1, h2, h3⟩ := steps_of_haltAtTop ei jmp target hlt
  have runs : (upToTop memory 0).Runs 3 := by
    intro k hk
    interval_cases k
    · rfl
    · rw [h1]; rfl
    · rw [h2]; rfl
  have stops : (step^[3] (upToTop memory 0)).outcome? = some (.ok .halted) := by rw [h3]; rfl
  have within : 3 ≤ maxLimit := by rw [maxLimit]; omega
  have halted : (upToTop memory 0).after [.runLimit maxLimit] = step^[3] (upToTop memory 0) := by
    rw [after_cons, after_nil, act, runLimit_of_runs_of_outcome runs stops within]
  refine ⟨upToTop memory 0, hl, ?_⟩
  rw [halted, h3]
  exact ⟨rfl, Nat.zero_le _, Nat.zero_lt_succ _, rfl, rfl⟩

theorem interrupt_before_top_goesOn :
    ∃ m : Machine Unconnected, (ofPorts ⟨⟩).load haltAtTop 0 = .ok m ∧
      ((m.after [.step]).interrupt 0).1 = true ∧
      (m.after [.step]).programStart ≤ 8 * ((0 : Byte).toNat % 8) ∧
      8 * ((0 : Byte).toNat % 8) < (m.after [.step]).programEnd ∧
      ((m.after [.step]).interrupt 0).2.processor.pc = 0 ∧
      ((m.after [.step]).interrupt 0).2.GoesOn := by
  obtain ⟨memory, hl, ei, jmp, target, hlt⟩ := load_haltAtTop
  obtain ⟨h1, -⟩ := steps_of_haltAtTop ei jmp target hlt
  have enabled : (upToTop memory 0).after [.step] = { upToTop memory 0 with
      processor := { memory, pc := 1, interrupts := true }, steps := 1 } := by
    rw [after_cons, after_nil, act, ← h1, Function.iterate_one]
  have accepted : (((upToTop memory 0).after [.step]).interrupt 0).1 = true := by
    rw [enabled]; rfl
  have first : ((upToTop memory 0).after [.step]).programStart ≤ 8 * ((0 : Byte).toNat % 8) := by
    rw [enabled]; exact Nat.zero_le _
  have last : 8 * ((0 : Byte).toNat % 8) < ((upToTop memory 0).after [.step]).programEnd := by
    rw [enabled]; exact Nat.zero_lt_succ _
  obtain ⟨restart, goesOn, -⟩ := interrupt_goesOn_iff hl [.step] 0 accepted first last
  refine ⟨upToTop memory 0, hl, accepted, first, last, BitVec.eq_of_toNat_eq restart, ?_⟩
  apply goesOn.mpr
  rintro (⟨-, -, past⟩ | none)
  · have ho : (upToTop memory 0).opcode = .decode 0xFB := opcode_of_read ei
    have hpc : (upToTop memory 0).processor.pc = 0 := rfl
    rw [ho, hpc] at past
    exact absurd past (by decide)
  · exact none

end Intel8080.Machine
