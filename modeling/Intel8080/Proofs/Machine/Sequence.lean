import Intel8080.Proofs.Machine.Load
import Intel8080.Proofs.Machine.Operand
import Intel8080.Proofs.Processor.Stores

/-! Instructions one after the other. An instruction is plain if all that it uses stands in the
processor, so that it does the same wherever it is fetched. Where the next steps execute plain
instructions, these make of the processor what they make of it one by one. -/
namespace Intel8080

/-- The instruction has no operand bytes and leaves control to the next one. -/
def Instruction.isPlain : Instruction → Bool
  | .hlt | .ret | .retIf _ | .rst _ | .pchl => false
  | i => i.operandCount == 0

namespace Processor

section ProgramCounter
variable (p : Processor) (pc : Word)

theorem reg_withPC (r : Register) : ({ p with pc } : Processor).reg r = p.reg r := by
  cases r <;> rfl

theorem pair_withPC (rp : Pair) : ({ p with pc } : Processor).pair rp = p.pair rp := by
  cases rp <;> rfl

theorem setReg_withPC (r : Register) (v : Byte) :
    ({ p with pc } : Processor).setReg r v = { p.setReg r v with pc } := by
  cases r <;> rfl

end ProgramCounter

def carryOut (p : Processor) (i : Instruction) : Processor := (p.execute 0 0 i).1

theorem execute_of_isPlain {i : Instruction} (h : i.isPlain = true) (p : Processor)
    (operand next : Word) : p.execute operand next i = (p.carryOut i, .next) := by
  cases i <;> first | rfl | cases h

theorem carryOut_withPC {i : Instruction} (h : i.isPlain = true) (p : Processor) (pc : Word) :
    ({ p with pc } : Processor).carryOut i = { p.carryOut i with pc } := by
  cases i with
  | mov dest src => simp only [carryOut, execute, reg_withPC, setReg_withPC]
  | inr r | dcr r | alu _ r => cases r <;> rfl
  | stax rp | ldax rp | inx rp | dcx rp | dad rp | push rp | pop rp => cases rp <;> rfl
  | _ => first | rfl | cases h

theorem foldl_carryOut_withPC {is : List Instruction} (h : ∀ i ∈ is, i.isPlain = true)
    (p : Processor) (pc : Word) :
    is.foldl carryOut { p with pc } = { is.foldl carryOut p with pc } := by
  induction is generalizing p with
  | nil => rfl
  | cons i is ih =>
    obtain ⟨first, others⟩ := List.forall_mem_cons.mp h
    rw [List.foldl_cons, carryOut_withPC first, ih others, List.foldl_cons]

end Processor

namespace Machine
variable {σ : Type} [Ports σ]

/-- The next steps execute the instructions, one after the other. -/
def Obeys : List Instruction → Machine σ → Prop
  | [], _ => True
  | i :: is, m => (m.Executes ∧ m.opcode.instruction = i) ∧ m.step.Obeys is

theorem obeys_append {m : Machine σ} {is js : List Instruction} :
    m.Obeys (is ++ js) ↔ m.Obeys is ∧ (step^[is.length] m).Obeys js := by
  induction is generalizing m with
  | nil => exact (true_and _).symm ▸ Iff.rfl
  | cons i is ih =>
    rw [List.cons_append, Obeys, Obeys, ih, List.length_cons, Function.iterate_succ_apply,
      ← and_assoc]

theorem processor_step_of_isPlain {m : Machine σ} {i : Instruction} (executes : m.Executes)
    (hi : m.opcode.instruction = i) (h : i.isPlain = true) :
    m.step.processor = { m.processor.carryOut i with pc := m.processor.pc + 1 } := by
  have none : i.operandCount = 0 := by cases i <;> first | rfl | cases h
  have next : m.nextAddress = m.processor.pc + 1 := by
    rw [nextAddress, length_opcode, hi, Instruction.length, none]
    rfl
  have input : i ≠ .input := by rintro rfl; cases h
  have output : i ≠ .output := by rintro rfl; cases h
  rw [← next]
  exact processor_step_of_next executes hi input output (Processor.execute_of_isPlain h _ _ _)

theorem status_step_of_isPlain {m : Machine σ} {i : Instruction} (executes : m.Executes)
    (hi : m.opcode.instruction = i) (h : i.isPlain = true) : m.step.status = .running := by
  have goesOn : m.flow ≠ .halt := by
    rw [ne_eq, flow_eq_halt_iff, hi]
    rintro rfl
    cases h
  rw [status_step executes, if_neg goesOn]

theorem Obeys.processor {m : Machine σ} {is : List Instruction} (h : m.Obeys is)
    (plain : ∀ i ∈ is, i.isPlain = true) : (step^[is.length] m).processor =
      { is.foldl Processor.carryOut m.processor with
        pc := m.processor.pc + BitVec.ofNat 16 is.length } := by
  induction is generalizing m with
  | nil => simp
  | cons i is ih =>
    obtain ⟨⟨executes, hi⟩, later⟩ := h
    obtain ⟨first, others⟩ := List.forall_mem_cons.mp plain
    have now := processor_step_of_isPlain executes hi first
    rw [List.length_cons, Function.iterate_succ_apply, ih later others, now,
      Processor.foldl_carryOut_withPC others, List.foldl_cons, add_one_add_ofNat]

theorem Obeys.processor_two {m : Machine σ} {i j : Instruction} (h : m.Obeys [i, j])
    (plain : i.isPlain = true) (plain' : j.isPlain = true) : (step^[2] m).processor =
      { [i, j].foldl Processor.carryOut m.processor with pc := m.processor.pc + 2 } :=
  h.processor (by simp [plain, plain'])

theorem processor_step_of_obeys {m : Machine σ} {i : Instruction} (h : m.Obeys [i])
    (plain : i.isPlain = true) : m.step.processor =
      { m.processor.carryOut i with pc := m.processor.pc + 1 } :=
  processor_step_of_isPlain h.1.1 h.1.2 plain

theorem Obeys.memory_of_silent {m : Machine σ} {is : List Instruction} (h : m.Obeys is)
    (silent : ∀ i ∈ is, i.writesMemory = false) :
    (step^[is.length] m).processor.memory = m.processor.memory := by
  induction is generalizing m with
  | nil => rfl
  | cons i is ih =>
    obtain ⟨⟨-, hi⟩, later⟩ := h
    obtain ⟨first, others⟩ := List.forall_mem_cons.mp silent
    rw [List.length_cons, Function.iterate_succ_apply, ih later others,
      memory_step_of_not_writesMemory (hi ▸ first)]

/-- Opcode bytes that stand in a row are executed one after the other, if their instructions are
plain and store nothing. They may pass the end of memory. -/
theorem obeys_of_carries {m : Machine σ} {codes : List Byte} (running : m.status = .running)
    (features : m.features = .all) (carries : m.processor.memory.Carries m.processor.pc codes)
    (plain : ∀ c ∈ codes, (Opcode.decode c).instruction.isPlain = true)
    (silent : ∀ c ∈ codes, (Opcode.decode c).instruction.writesMemory = false) :
    m.Obeys (codes.map fun c => (Opcode.decode c).instruction) := by
  induction codes generalizing m with
  | nil => trivial
  | cons c codes ih =>
    obtain ⟨plainFirst, plainOthers⟩ := List.forall_mem_cons.mp plain
    obtain ⟨silentFirst, silentOthers⟩ := List.forall_mem_cons.mp silent
    have executes : m.Executes := executes_of_all running features
    have code : m.processor.memory.read m.processor.pc = c := by simpa using carries 0 c rfl
    have hi : m.opcode.instruction = (Opcode.decode c).instruction := by rw [opcode_of_read code]
    have now := processor_step_of_isPlain executes hi plainFirst
    have kept := memory_step_of_not_writesMemory ((congrArg _ hi).trans silentFirst)
    refine ⟨⟨executes, hi⟩, ih ?_ ?_ ?_ plainOthers silentOthers⟩
    · exact status_step_of_isPlain executes hi plainFirst
    · rw [features_step, features]
    · have onward : m.step.processor.pc = m.processor.pc + 1 := by rw [now]
      intro j b hb
      rw [kept, onward, add_one_add_ofNat]
      exact carries (j + 1) b hb

/-- What comes next is what stands there, unless the step stores over it. -/
theorem opcode_step_of_kept {m : Machine σ} {code : Byte}
    (stands : m.processor.memory.read m.step.processor.pc = code)
    (kept : m.step.processor.pc ∉ m.stores.map Prod.fst) : m.step.opcode = .decode code :=
  opcode_of_read (by rw [read_step_of_not_mem kept, stands])

theorem obeys_two {m : Machine σ} {c d : Byte} (running : m.status = .running)
    (features : m.features = .all)
    (carries : m.processor.memory.Carries m.processor.pc [c, d])
    (plain : (Opcode.decode c).instruction.isPlain = true)
    (kept : m.processor.pc + 1 ∉ (m.processor.stores m.operand m.nextAddress
      (Opcode.decode c).instruction).map Prod.fst) :
    m.Obeys [(Opcode.decode c).instruction, (Opcode.decode d).instruction] := by
  have executes : m.Executes := executes_of_all running features
  have code : m.processor.memory.read m.processor.pc = c := by simpa using carries 0 c rfl
  have hi : m.opcode.instruction = (Opcode.decode c).instruction := by rw [opcode_of_read code]
  have onward : m.step.processor.pc = m.processor.pc + 1 := by
    rw [processor_step_of_isPlain executes hi plain]
  have behind : m.step.opcode = .decode d := by
    apply opcode_step_of_kept
    · rw [onward]
      exact carries 1 d rfl
    · rwa [onward, stores, if_pos executes, hi]
  refine ⟨⟨executes, hi⟩, ⟨executes_of_all ?_ (m.features_step.trans features), ?_⟩, trivial⟩
  · exact status_step_of_isPlain executes hi plain
  · rw [behind]

end Machine
end Intel8080
