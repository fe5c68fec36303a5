import Intel8080.Proofs.Interrupt.Resume
import Intel8080.Proofs.Machine.Fault
import Intel8080.Proofs.Machine.Operand
import Intel8080.Proofs.Processor.Stores

/-! Interrupts that do nothing. A handler that only enables interrupts again and returns leaves no
trace but the return address below the stack: the interrupted program goes on as if there had been
no interrupt, wherever its stack lies. Main statement: `interrupt_transparent`. -/
namespace Intel8080.Machine
variable {σ : Type}

/-- At the address stand `EI` and `RET`, and a word that is pushed does not overwrite them. -/
structure HasEmptyHandler (m : Machine σ) (handler : Word) : Prop where
  ei : m.processor.memory.read handler = 0xFB
  ret : m.processor.memory.read (handler + 1) = 0xC9
  apart : ∀ a ∈ [handler, handler + 1], a ≠ m.processor.sp - 1 ∧ a ≠ m.processor.sp - 2

theorem restartAddress_setWidth (v : Byte) :
    restartAddress (v.setWidth 3) = BitVec.ofNat 16 (8 * (v.toNat % 8)) := by
  apply BitVec.eq_of_toNat_eq
  rw [toNat_restartAddress_setWidth, BitVec.toNat_ofNat]
  omega

theorem HasEmptyHandler.read_push {m : Machine σ} {handler : Word} (h : m.HasEmptyHandler handler)
    (w : Word) : (m.processor.push w).memory.read handler = 0xFB ∧
      (m.processor.push w).memory.read (handler + 1) = 0xC9 := by
  have away {a : Word} (ha : a ∈ [handler, handler + 1]) :
      (m.processor.push w).memory.read a = m.processor.memory.read a := by
    obtain ⟨high, low⟩ := h.apart a ha
    rw [Processor.memory_push, Processor.pushStores_eq]
    apply Memory.read_storeAll_of_forall_ne
    exact List.forall_mem_cons.mpr ⟨low, List.forall_mem_singleton.mpr high⟩
  exact ⟨(away (by simp)).trans h.ei, (away (by simp)).trans h.ret⟩

def handling (m : Machine σ) (handler : Word) : Machine σ :=
  { m with
    processor := { m.processor.push m.processor.pc with interrupts := false, pc := handler }
    status := .running }

/-- The machine as it was before an empty handler, but running, two steps further, and with the
address at which it goes on in the two bytes below the stack. -/
def handled (m : Machine σ) : Machine σ :=
  { m with
    processor := { m.processor with
      memory := (m.processor.memory.write (m.processor.sp - 2) m.processor.pc.lo).write
        (m.processor.sp - 1) m.processor.pc.hi }
    status := .running
    steps := m.steps + 2 }

variable [Ports σ]

def returning (m : Machine σ) (handler : Word) : Machine σ :=
  { m with
    processor := { m.processor.push m.processor.pc with interrupts := true, pc := handler + 1 }
    status := .running
    steps := m.steps + 1 }

theorem step_handling {m : Machine σ} {handler : Word} (h : m.HasEmptyHandler handler)
    (enabled : m.features.enables .interrupt = true) (low : handler.toNat < 0xFFFF) :
    (m.handling handler).step = m.returning handler := by
  have ei : (m.handling handler).processor.memory.read handler = 0xFB :=
    (h.read_push m.processor.pc).1
  -- the restarts lie far from the top of memory, and so `EI` does not pass it
  have inside : reachesTop handler 1 = false := by
    rw [reachesTop, decide_eq_false_iff_not]
    omega
  have effect (operand : Word) : (m.handling handler).executeAt handler operand .ei =
      { m.returning handler with wrapped := m.wrapped || reachesTop handler 1 } := rfl
  refine step_eq_of_read handler 0xFB _ rfl enabled rfl ei rfl ?_
  refine (effect _).trans ?_
  rw [inside, Bool.or_false]
  rfl

theorem step_returning {m : Machine σ} {handler : Word} (h : m.HasEmptyHandler handler)
    (interrupts : m.processor.interrupts = true) :
    (m.returning handler).step = m.handled := by
  have ret : (m.returning handler).processor.memory.read (handler + 1) = 0xC9 :=
    (h.read_push m.processor.pc).2
  have effect (operand : Word) : (m.returning handler).executeAt (handler + 1) operand .ret =
      { m with
        processor := { (m.processor.push m.processor.pc).drop with
          interrupts := true, pc := (m.processor.push m.processor.pc).top }
        status := .running
        wrapped := m.wrapped || false
        steps := m.steps + 2 } := rfl
  refine step_eq_of_read (handler + 1) 0xC9 _ rfl rfl rfl ret rfl ?_
  refine (effect _).trans ?_
  rw [Processor.drop_push, Processor.top_push, Processor.memory_push, Processor.pushStores_eq,
    Bool.or_false, handled, ← interrupts]
  rfl

theorem pc_step_of_hlt {m : Machine σ} (executes : m.Executes)
    (hlt : m.opcode.instruction = .hlt) : m.step.processor.pc = m.processor.pc + 1 := by
  rw [pc_step executes, flow_eq_halt_iff.mpr hlt, nextAddress, length_opcode, hlt]
  rfl

/-- A request is accepted if interrupts are enabled and the machine has not faulted, and changes
nothing otherwise. If the handler is empty and lies apart from the two bytes below the stack, the
machine is afterwards as it was, running and two steps further, with the address at which it was
interrupted in these two bytes. So a machine that was halted goes on behind its `HLT`. -/
theorem interrupt_transparent (m : Machine σ) (v : Byte) :
    ((m.interrupt v).1 = true ↔ m.processor.interrupts = true ∧ ¬m.Faulted) ∧
    ((m.interrupt v).1 = false → (m.interrupt v).2 = m) ∧
    (m.status = .running ∨ m.status = .halted → m.processor.interrupts = true →
      m.features.enables .interrupt = true →
      m.HasEmptyHandler (BitVec.ofNat 16 (8 * (v.toNat % 8))) →
      (m.interrupt v).1 = true ∧ (m.interrupt v).2.step.step = m.handled ∧
      ∀ n : Machine σ, n.Executes → n.opcode.instruction = .hlt → n.step = m →
        (m.interrupt v).2.step.step.processor.pc = n.processor.pc + 1) := by
  refine ⟨interrupt_accepted_iff, interrupt_of_refused, fun status interrupts enabled handler => ?_⟩
  have sound : ¬m.Faulted := by
    rintro ⟨f, hf⟩
    rw [hf] at status
    rcases status with running | halted
    · cases running
    · cases halted
  have accepted : (m.interrupt v).1 = true := interrupt_accepted_iff.mpr ⟨interrupts, sound⟩
  have start : (m.interrupt v).2 = m.handling (BitVec.ofNat 16 (8 * (v.toNat % 8))) := by
    rw [interrupt_of_accepted accepted, restartAddress_setWidth, handling]
  have low : (BitVec.ofNat 16 (8 * (v.toNat % 8))).toNat < 0xFFFF := by
    rw [BitVec.toNat_ofNat]
    omega
  have through : (m.interrupt v).2.step.step = m.handled := by
    rw [start, step_handling handler enabled low, step_returning handler interrupts]
  refine ⟨accepted, through, fun n executes hlt halts => ?_⟩
  rw [through, ← pc_step_of_hlt executes hlt, halts]
  rfl

/-- `HLT` at 0x1234, with an empty handler at address 8 and a stack that grows past address 0. -/
def haltsOnce : Machine Unconnected where
  processor := {
    a := 7, sp := 1, pc := 0x1234, interrupts := true
    memory := ((Memory.zero.write 0x1234 0x76).write 8 0xFB).write 9 0xC9 }
  ports := ⟨⟩
  features := { interrupt := true }

theorem step_haltsOnce : haltsOnce.step = { haltsOnce with
    processor := { haltsOnce.processor with pc := 0x1235 }, status := .halted, steps := 1 } := by
  have hlt : haltsOnce.processor.memory.read 0x1234 = 0x76 := by
    simp [haltsOnce, Memory.read_write]
  exact step_eq_of_read 0x1234 0x76 _ rfl rfl rfl hlt rfl rfl

theorem hasEmptyHandler_step_haltsOnce : haltsOnce.step.HasEmptyHandler 8 := by
  have apart : ∀ a ∈ [(8 : Word), 8 + 1], a ≠ 1 - 1 ∧ a ≠ 1 - 2 := by simp
  rw [step_haltsOnce]
  refine ⟨?_, ?_, apart⟩
  · simp [haltsOnce, Memory.read_write]
  · simp [haltsOnce]

/-- The high byte of the return address goes to the first address and the low byte to the last
one. -/
theorem haltsOnce_transparent :
    haltsOnce.step.status = .halted ∧ (haltsOnce.step.interrupt 0xF9).1 = true ∧
    (haltsOnce.step.interrupt 0xF9).2.step.step = { haltsOnce with
      processor := { haltsOnce.processor with
        pc := 0x1235, memory := (haltsOnce.processor.memory.write 0xFFFF 0x35).write 0 0x12 }
      steps := 3 } ∧
    (haltsOnce.step.interrupt 0xF9).2.step.step.processor.pc = haltsOnce.processor.pc + 1 := by
  have hlt : haltsOnce.processor.memory.read haltsOnce.processor.pc = 0x76 := by
    simp [haltsOnce, Memory.read_write]
  have executes : haltsOnce.Executes := ⟨rfl, by rw [opcode_of_read hlt]; rfl⟩
  have instruction : haltsOnce.opcode.instruction = .hlt := by
    rw [opcode_of_read hlt]
    rfl
  have halted : haltsOnce.step.status = .halted := by rw [step_haltsOnce]
  have interrupts : haltsOnce.step.processor.interrupts = true := by
    rw [step_haltsOnce]
    rfl
  have enabled : haltsOnce.step.features.enables .interrupt = true := by
    rw [features_step]
    rfl
  have address : BitVec.ofNat 16 (8 * ((0xF9 : Byte).toNat % 8)) = 8 := by decide
  obtain ⟨-, -, transparent⟩ := haltsOnce.step.interrupt_transparent 0xF9
  rw [address] at transparent
  obtain ⟨accepted, through, behind⟩ :=
    transparent (Or.inr halted) interrupts enabled hasEmptyHandler_step_haltsOnce
  refine ⟨halted, accepted, ?_, behind haltsOnce executes instruction rfl⟩
  rw [through, step_haltsOnce]
  rfl

end Intel8080.Machine
