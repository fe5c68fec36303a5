import Intel8080.Proofs.Disassembly.Execution

/-! A run executes the records of the listing of its program, as long as the program stays as it was
loaded and no jump into it lands beside a record. Main statement: `run_agrees_with_listing`. -/
namespace Intel8080.Machine
variable {σ : Type} [Ports σ]

theorem step_eq_executeAt {m : Machine σ} {w : Word} (executes : m.Executes)
    (h : [w.lo, w.hi].take (m.opcode.length - 1) = m.operandBytes) :
    m.step = m.executeAt m.processor.pc w m.opcode.instruction := by
  have hl := m.length_opcode
  have hc : m.opcode.length - 1 = m.opcode.instruction.operandCount := by
    rw [hl, Instruction.length, Nat.add_sub_cancel_left]
  rw [operandBytes, hc] at h
  rw [step_of_executes executes, execute, executeAt, hl, perform_congr h]

/-- The next step executes the record with the given index. A record that is not truncated decides
by its operands what the step does. -/
structure ExecutesRecord (m : Machine σ) (records : List Record) (i : Nat) (r : Record) : Prop where
  record : records[i]? = some r
  executes : m.Executes
  address : m.processor.pc = r.address
  opcode : m.opcode = r.opcode
  operands : r.truncated = false → m.operandBytes = r.operands
  effect : r.truncated = false → ∀ w : Word, [w.lo, w.hi].take (r.opcode.length - 1) = r.operands →
    m.step = m.executeAt r.address w r.opcode.instruction
  goesOn : m.flow.fallsThrough = true →
    (∃ s, records[i + 1]? = some s ∧ m.step.processor.pc = s.address ∧ m.step.atEnd = false) ∨
      (records[i + 1]? = none ∧ m.step.atEnd = true)

/-- In none of a number of steps has a byte of the program changed. -/
def KeepsProgram (m : Machine σ) (n : Nat) : Prop :=
  ∀ k < n, ∀ a, m.InProgram a →
    (step^[k] m).processor.memory.read a = m.processor.memory.read a

/-- Each jump among a number of steps that lands in the program lands on a record. -/
def JumpsToRecords (m : Machine σ) (records : List Record) (n : Nat) : Prop :=
  ∀ k < n, ∀ target, (step^[k] m).flow = .jump target → m.InProgram target →
    ∃ r ∈ records, r.address = target

variable {m : Machine σ} {image : List Byte} {base : Word} {i : Nat}

omit [Ports σ] in
theorem StandsAt.not_inside_iff (h : m.StandsAt image base i) :
    m.atEnd = true ↔ (disassemble image base)[i]? = none := by
  rw [List.getElem?_eq_none_iff, ← Nat.not_lt, ← h.inside, Bool.not_eq_false]

theorem StandsAt.executesRecord {r : Record} (h : m.StandsAt image base i)
    (program : m.HoldsProgram image base) (executes : m.Executes)
    (record : (disassemble image base)[i]? = some r) :
    m.ExecutesRecord (disassemble image base) i r := by
  have address := h.address record
  have hc := program.opcode_eq record address
  refine ⟨record, executes, address, hc, program.operandBytes_eq record address, ?_, ?_⟩
  · intro complete w hw
    rw [← address, ← hc]
    rw [← hc, ← program.operandBytes_eq record address complete] at hw
    exact step_eq_executeAt executes hw
  · intro falls
    have inside : m.atEnd = false := h.inside.mpr (List.getElem?_eq_some_iff.mp record).1
    have stands := h.step_of_fallsThrough program executes inside falls
    cases hs : (disassemble image base)[i + 1]? with
    | none => exact Or.inr ⟨rfl, stands.not_inside_iff.mpr hs⟩
    | some s =>
      have hlt := (List.getElem?_eq_some_iff.mp hs).1
      exact Or.inl ⟨s, rfl, stands.address hs, stands.inside.mpr hlt⟩

theorem standsAt_of_jump {target : Word} (executes : m.Executes) (inside : m.atEnd = false)
    (jump : m.flow = .jump target) (lands : m.InProgram target) {r : Record}
    (record : (disassemble image base)[i]? = some r) (address : r.address = target) :
    m.step.StandsAt image base i := by
  have hpc : m.step.processor.pc = target := by rw [pc_step executes, jump, Flow.target]
  obtain ⟨-, -, ha, -⟩ := record_of_getElem? record
  refine ⟨by rw [hpc, ← address, ha], iff_of_true ?_ (List.getElem?_eq_some_iff.mp record).1⟩
  have wrapped : m.step.wrapped = false := by
    have fresh : m.wrapped = false := (atEnd_eq_false_iff.mp inside).1
    rw [← Bool.not_eq_true, wrapped_step, PassesTop, jump, fresh]
    simp [Flow.fallsThrough]
  rw [atEnd_eq_false_iff, programStart_step, programEnd_step, hpc]
  exact ⟨wrapped, lands⟩

theorem StandsAt.step (h : m.StandsAt image base i) (program : m.HoldsProgram image base)
    (executes : m.Executes) (inside : m.atEnd = false)
    (aligned : ∀ target, m.flow = .jump target → m.InProgram target →
      ∃ r ∈ disassemble image base, r.address = target) :
    m.step.atEnd = true ∨ ∃ j, m.step.StandsAt image base j := by
  cases hf : m.flow with
  | next => exact Or.inr ⟨i + 1, h.step_of_fallsThrough program executes inside (by rw [hf]; rfl)⟩
  | halt => exact Or.inr ⟨i + 1, h.step_of_fallsThrough program executes inside (by rw [hf]; rfl)⟩
  | jump target =>
    by_cases lands : m.InProgram target
    · obtain ⟨r, hr, address⟩ := aligned target hf lands
      obtain ⟨j, record⟩ := List.mem_iff_getElem?.mp hr
      exact Or.inr ⟨j, standsAt_of_jump executes inside hf lands record address⟩
    · left
      have hpc : m.step.processor.pc = target := by rw [pc_step executes, hf, Flow.target]
      rw [← Bool.not_eq_false, atEnd_eq_false_iff, programStart_step, programEnd_step, hpc]
      exact fun h => lands h.2

theorem HoldsProgram.iterate {n k : Nat} (program : m.HoldsProgram image base)
    (kept : m.KeepsProgram n) (hk : k < n) : (step^[k] m).HoldsProgram image base :=
  program.congr (programStart_iterate m k) (programEnd_iterate m k) (kept k hk)

theorem atEnd_or_standsAt_iterate {n : Nat} (program : m.HoldsProgram image base)
    (start : m.StandsAt image base 0) (features : m.features = .all) (runs : m.Runs n)
    (kept : m.KeepsProgram n) (aligned : m.JumpsToRecords (disassemble image base) n) :
    ∀ k ≤ n, (step^[k] m).atEnd = true ∨ ∃ i, (step^[k] m).StandsAt image base i := by
  intro k hk
  induction k with
  | zero => exact Or.inr ⟨0, start⟩
  | succ k ih =>
    obtain ⟨running, inside⟩ := outcome?_eq_none_iff.mp (runs k hk)
    rcases ih (Nat.le_of_succ_le hk) with left | ⟨i, stands⟩
    · exact absurd left (Bool.eq_false_iff.mp inside)
    rw [Function.iterate_succ_apply']
    have executes := executes_of_all running ((features_iterate m k).trans features)
    refine stands.step (program.iterate kept hk) executes inside ?_
    intro target jump lands
    refine aligned k hk target jump ?_
    rwa [InProgram, programStart_iterate, programEnd_iterate] at lands

/-- Every image that fits can be loaded, and as long as none of its bytes changes and no jump into
it lands beside a record, a run executes records of its listing. -/
theorem run_agrees_with_listing (ports : σ) (fits : Memory.Fits base image) :
    ∃ m, ofImage ports image base = .ok m ∧ ∀ n, m.Runs n → m.KeepsProgram n →
      m.JumpsToRecords (disassemble image base) n →
        ∀ k < n, ∃ i r, (step^[k] m).ExecutesRecord (disassemble image base) i r := by
  refine ⟨(ofPorts ports).loaded image base, load_eq_ok_iff.mpr ⟨fits, rfl⟩, ?_⟩
  intro n runs kept aligned k hk
  have program := holdsProgram_loaded (ofPorts ports) fits
  have start := standsAt_loaded (ofPorts ports) image base
  have features : ((ofPorts ports).loaded image base).features = .all := rfl
  obtain ⟨running, inside⟩ := outcome?_eq_none_iff.mp (runs k hk)
  rcases atEnd_or_standsAt_iterate program start features runs kept aligned k (Nat.le_of_lt hk) with
    left | ⟨i, stands⟩
  · exact absurd left (Bool.eq_false_iff.mp inside)
  have executes := executes_of_all running ((features_iterate _ k).trans features)
  have record := List.getElem?_eq_getElem (stands.inside.mp inside)
  exact ⟨i, _, stands.executesRecord (program.iterate kept hk) executes record⟩

/-- `JMP FFFD`, `MVI A,7` and an `LXI H` without its operand, up to the end of memory. -/
def jumpAtTop : List Byte := [0xC3, 0xFD, 0xFF, 0x3E, 0x07, 0x21]

theorem readWord_jumpAtTop {memory : Memory} (carries : memory.Carries 0xFFFA jumpAtTop) :
    memory.readWord 0xFFFB = 0xFFFD :=
  congrArg₂ Word.ofBytes (carries 2 0xFF rfl) (carries 1 0xFD rfl)

theorem steps_of_jumpAtTop {memory : Memory} (carries : memory.Carries 0xFFFA jumpAtTop) :
    step^[1] (upToTop memory 0xFFFA) = { upToTop memory 0xFFFA with
      processor := { memory, pc := 0xFFFD }, steps := 1 } ∧
    step^[2] (upToTop memory 0xFFFA) = { upToTop memory 0xFFFA with
      processor := { memory, a := 7, pc := 0xFFFF }, steps := 2 } := by
  have h1 : step^[1] (upToTop memory 0xFFFA) = { upToTop memory 0xFFFA with
      processor := { memory, pc := 0xFFFD }, steps := 1 } := by
    have target := readWord_jumpAtTop carries
    rw [Function.iterate_one]
    exact step_eq_of_read 0xFFFA 0xC3 0xFFFD rfl rfl rfl (carries 0 _ rfl) target rfl
  refine ⟨h1, ?_⟩
  have behind : memory.readWord 0xFFFE = .ofBytes 0x21 0x07 :=
    congrArg₂ Word.ofBytes (carries 5 0x21 rfl) (carries 4 0x07 rfl)
  rw [Function.iterate_succ_apply', h1]
  exact step_eq_of_read 0xFFFD 0x3E (.ofBytes 0x21 0x07) rfl rfl rfl (carries 3 _ rfl) behind rfl

theorem mem_disassemble_jumpAtTop : ∃ r ∈ disassemble jumpAtTop 0xFFFA, r.address = 0xFFFD := by
  have jump : (Opcode.decode 0xC3).length = 2 + 1 := rfl
  have move : (Opcode.decode 0x3E).length = 1 + 1 := rfl
  rw [jumpAtTop, disassemble_cons_of_length jump, List.drop_succ_cons, List.drop_one,
    List.tail_cons, disassemble_cons_of_length move]
  exact ⟨_, List.mem_cons_of_mem _ List.mem_cons_self, rfl⟩

theorem jumpAtTop_agrees_with_listing : Memory.Fits 0xFFFA jumpAtTop ∧
    ∃ m : Machine Unconnected, ofImage ⟨⟩ jumpAtTop 0xFFFA = .ok m ∧ m.Runs 3 ∧
      m.KeepsProgram 3 ∧ m.JumpsToRecords (disassemble jumpAtTop 0xFFFA) 3 ∧
      ∀ k < 3, ∃ i r, (step^[k] m).ExecutesRecord (disassemble jumpAtTop 0xFFFA) i r := by
  have fits : Memory.Fits 0xFFFA jumpAtTop := by decide
  obtain ⟨memory, hl, carries⟩ := load_eq_upToTop jumpAtTop 0xFFFA rfl
  obtain ⟨h1, h2⟩ := steps_of_jumpAtTop carries
  obtain ⟨m, hm, agrees⟩ := run_agrees_with_listing (⟨⟩ : Unconnected) fits
  obtain rfl : upToTop memory 0xFFFA = m := Except.ok.inj (hl.symm.trans hm)
  have runs : (upToTop memory 0xFFFA).Runs 3 := by
    intro k hk
    interval_cases k
    · rfl
    · rw [h1]; rfl
    · rw [h2]; rfl
  have kept : (upToTop memory 0xFFFA).KeepsProgram 3 := by
    intro k hk a _
    interval_cases k
    · rfl
    · rw [h1]; rfl
    · rw [h2]; rfl
  have aligned : (upToTop memory 0xFFFA).JumpsToRecords (disassemble jumpAtTop 0xFFFA) 3 := by
    intro k hk target jump _
    interval_cases k
    · rw [Function.iterate_zero_apply, flow_of_read (carries 0 0xC3 rfl)] at jump
      have behind : (upToTop memory 0xFFFA).operand = 0xFFFD := readWord_jumpAtTop carries
      obtain rfl : (upToTop memory 0xFFFA).operand = target := Flow.jump.inj jump
      rw [behind]
      exact mem_disassemble_jumpAtTop
    · rw [h1, flow_of_read (carries 3 0x3E rfl)] at jump
      cases jump
    · rw [h2, flow_of_read (carries 5 0x21 rfl)] at jump
      cases jump
  exact ⟨fits, _, hl, runs, kept, aligned, agrees 3 runs kept aligned⟩

end Intel8080.Machine
