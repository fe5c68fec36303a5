import Intel8080.Proofs.Effect.Writes
import Intel8080.Proofs.Machine.Fault
import Intel8080.Proofs.Machine.Operand
import Mathlib.Data.Set.Basic

/-! What a step reads. Besides its own bytes an instruction reads the bytes at a few addresses, and
no other byte of memory has an influence on the step: machines that differ elsewhere go the same
way. Main statement: `step_reads`. -/
namespace Intel8080

theorem Memory.readWord_congr {m n : Memory} {a : Word}
    (same : ∀ b ∈ [a, a + 1], n.read b = m.read b) : n.readWord a = m.readWord a := by
  have low := same a (by simp)
  have high := same (a + 1) (by simp)
  rw [readWord, readWord, low, high]

namespace Processor

def registerLoads (p : Processor) : Register → List Word
  | .m => [p.pair .hl]
  | _ => []

/-- The addresses of the bytes that an instruction reads as data. -/
def loads (p : Processor) (operand : Word) : Instruction → List Word
  | .mov _ r | .inr r | .dcr r | .alu _ r => p.registerLoads r
  | .ldax rp => [p.pair rp]
  | .lda => [operand]
  | .lhld => [operand, operand + 1]
  | .pop _ | .ret | .xthl => [p.sp, p.sp + 1]
  | .retIf cond => if cond.holds p.flags then [p.sp, p.sp + 1] else []
  | _ => []

def withMemory (p : Processor) (memory : Memory) : Processor := { p with memory }

@[simp] theorem flags_withMemory (p : Processor) (memory : Memory) :
    (p.withMemory memory).flags = p.flags := rfl

@[simp] theorem pair_withMemory (p : Processor) (memory : Memory) (rp : Pair) :
    (p.withMemory memory).pair rp = p.pair rp := by
  cases rp <;> rfl

theorem setPair_withMemory (p : Processor) (memory : Memory) (rp : Pair) (w : Word) :
    (p.withMemory memory).setPair rp w = (p.setPair rp w).withMemory memory := by
  cases rp <;> rfl

variable {p : Processor} {memory : Memory}

theorem reg_withMemory {r : Register}
    (same : ∀ a ∈ p.registerLoads r, memory.read a = p.memory.read a) :
    (p.withMemory memory).reg r = p.reg r := by
  cases r with
  | m => exact same (p.pair .hl) (List.mem_singleton_self _)
  | _ => rfl

theorem top_withMemory (same : ∀ a ∈ [p.sp, p.sp + 1], memory.read a = p.memory.read a) :
    (p.withMemory memory).top = p.top := Memory.readWord_congr same

theorem storeAll_hl (p : Processor) (memory : Memory) (a : Word) :
    memory.storeAll [(a, p.l), (a + 1, p.h)] = memory.writeWord a (p.pair .hl) := by
  simp [Memory.writeWord, pair]

/-- An instruction does the same on every memory with the same bytes where it reads, and stores the
same bytes there. -/
theorem execute_withMemory {operand : Word} {i : Instruction}
    (same : ∀ a ∈ p.loads operand i, memory.read a = p.memory.read a) (next : Word) :
    (p.withMemory memory).execute operand next i =
      ((p.execute operand next i).1.withMemory (memory.storeAll (p.stores operand next i)),
        (p.execute operand next i).2) := by
  cases i with
  | mov dest src =>
    rw [execute, reg_withMemory same]
    cases dest <;> rfl
  | inr r | dcr r =>
    rw [execute, reg_withMemory same]
    cases r <;> rfl
  | alu op src =>
    rw [execute, reg_withMemory same]
    rfl
  | mvi dest => cases dest <;> rfl
  | lxi rp | inx rp | dcx rp | stax rp | dad rp | push rp => cases rp <;> rfl
  | ldax rp =>
    have loaded : memory.read (p.pair rp) = p.memory.read (p.pair rp) :=
      same _ (List.mem_singleton_self _)
    rw [execute, pair_withMemory, execute, ← loaded]
    rfl
  | lda =>
    have loaded : memory.read operand = p.memory.read operand :=
      same _ (List.mem_singleton_self _)
    rw [execute, execute, ← loaded]
    rfl
  | lhld =>
    have loaded : memory.readWord operand = p.memory.readWord operand :=
      Memory.readWord_congr same
    rw [execute, setPair_withMemory, execute, ← loaded]
    rfl
  | shld =>
    rw [stores, storeAll_hl]
    rfl
  | xthl =>
    rw [stores, storeAll_hl, execute, exchangeTop, top_withMemory same]
    rfl
  | pop rp =>
    rw [execute, top_withMemory same]
    cases rp <;> rfl
  | ret =>
    rw [execute, ret, top_withMemory same]
    rfl
  | callIf cond =>
    rw [execute, execute, stores, flags_withMemory]
    split <;> rfl
  | retIf cond =>
    rw [execute, execute, flags_withMemory]
    rw [loads] at same
    split
    · rename_i taken
      rw [if_pos taken] at same
      rw [ret, top_withMemory same]
      rfl
    · rfl
  | _ => rfl

end Processor

namespace Machine
variable {σ : Type}

def ownBytes (m : Machine σ) : List Word :=
  (List.range m.opcode.length).map fun j => m.processor.pc + BitVec.ofNat 16 j

def loads (m : Machine σ) : List Word := m.processor.loads m.operand m.opcode.instruction

def withMemory (m : Machine σ) (memory : Memory) : Machine σ :=
  { m with processor := m.processor.withMemory memory }

@[simp] theorem processor_withMemory (m : Machine σ) (memory : Memory) :
    (m.withMemory memory).processor = m.processor.withMemory memory := rfl

@[simp] theorem ports_withMemory (m : Machine σ) (memory : Memory) :
    (m.withMemory memory).ports = m.ports := rfl

/-- The machines agree in everything but the bytes of memory at some addresses. -/
structure AgreesOff (m n : Machine σ) (differ : Set Word) : Prop where
  rest : n = m.withMemory n.processor.memory
  memory : ∀ a, a ∉ differ → n.processor.memory.read a = m.processor.memory.read a

theorem add_ofNat_mem_ownBytes {m : Machine σ} {j : Nat} (hj : j < m.opcode.length) :
    m.processor.pc + BitVec.ofNat 16 j ∈ m.ownBytes :=
  List.mem_map_of_mem (List.mem_range.mpr hj)

section SameBytes
variable {m : Machine σ} {memory : Memory}
  (own : ∀ a ∈ m.ownBytes, memory.read a = m.processor.memory.read a)
include own

theorem opcode_withMemory : (m.withMemory memory).opcode = m.opcode := by
  have first : 0 < m.opcode.length := (Opcode.length_lookup_bounds _).1
  have code := own _ (add_ofNat_mem_ownBytes first)
  rw [BitVec.add_zero] at code
  exact congrArg Opcode.lookup code

theorem nextAddress_withMemory : (m.withMemory memory).nextAddress = m.nextAddress := by
  rw [nextAddress, opcode_withMemory own]
  rfl

theorem take_operand_withMemory :
    [(m.withMemory memory).operand.lo, (m.withMemory memory).operand.hi].take
        m.opcode.instruction.operandCount =
      [m.operand.lo, m.operand.hi].take m.opcode.instruction.operandCount := by
  have few := m.opcode.instruction.operandCount_le
  rw [take_operand _ few, take_operand _ few]
  apply List.map_congr_left
  intro j hj
  have within : 1 + j < m.opcode.length := by
    rw [length_opcode, Instruction.length]
    exact Nat.add_lt_add_left (List.mem_range.mp hj) 1
  exact own _ (add_ofNat_mem_ownBytes within)

end SameBytes

variable [Ports σ]

theorem perform_withMemory {p : Processor} {memory : Memory} {operand : Word} {i : Instruction}
    (same : ∀ a ∈ p.loads operand i, memory.read a = p.memory.read a) (ports : σ) (next : Word) :
    perform (p.withMemory memory) ports operand next i =
      ((perform p ports operand next i).1.withMemory (memory.storeAll (p.stores operand next i)),
        (perform p ports operand next i).2) := by
  by_cases hi : i = .input
  · subst hi
    rfl
  by_cases ho : i = .output
  · subst ho
    rfl
  rw [perform_of_ne hi ho, perform_of_ne hi ho, Processor.execute_withMemory same]

section SameBytes
variable {m : Machine σ} {memory : Memory}
  (own : ∀ a ∈ m.ownBytes, memory.read a = m.processor.memory.read a)
  (data : ∀ a ∈ m.loads, memory.read a = m.processor.memory.read a)
include own data

theorem perform_opcode_withMemory :
    (m.withMemory memory).performed = m.performed.withMemory (memory.storeAll
        (m.processor.stores m.operand m.nextAddress m.opcode.instruction)) ∧
      (m.withMemory memory).answered = m.answered ∧ (m.withMemory memory).flow = m.flow := by
  have same := (perform_congr (take_operand_withMemory own) (m.processor.withMemory memory) m.ports
    m.nextAddress).trans (perform_withMemory data m.ports m.nextAddress)
  simp only [performed, answered, flow, processor_withMemory, ports_withMemory,
    nextAddress_withMemory own, opcode_withMemory own, same, and_self]

theorem step_withMemory :
    (m.withMemory memory).step = m.step.withMemory (memory.storeAll m.stores) := by
  have hc := opcode_withMemory own
  rcases m.step_cases with ⟨executes, hs⟩ | ⟨faults, hs⟩ | ⟨idle, hs⟩
  · have executes' : (m.withMemory memory).Executes := ⟨executes.1, by rw [hc]; exact executes.2⟩
    obtain ⟨performed, answered, flow⟩ := perform_opcode_withMemory own data
    rw [step_of_executes executes', hs, execute_eq, execute_eq, performed, answered, flow,
      nextAddress_withMemory own, hc, stores, if_pos executes]
    simp only [withMemory, Processor.withMemory]
  · have faults' : (m.withMemory memory).Faults := ⟨faults.1, by rw [hc]; exact faults.2⟩
    have nothing : m.stores = [] := if_neg fun executes => by simp [executes.2] at faults
    have fault : (m.withMemory memory).fault = m.fault := by rw [fault, hc]; rfl
    rw [step_of_faults faults', hs, fault, nothing]
    rfl
  · have nothing : m.stores = [] := if_neg fun executes => idle executes.1
    have idle' : (m.withMemory memory).status ≠ .running := idle
    rw [step, if_neg idle', hs, nothing]
    rfl

end SameBytes

section AgreesOff
variable {m n : Machine σ} {differ : Set Word} (same : m.AgreesOff n differ)
include same

theorem AgreesOff.step_eq (own : ∀ a ∈ m.ownBytes, a ∉ differ) (data : ∀ a ∈ m.loads, a ∉ differ) :
    n.step = m.step.withMemory (n.processor.memory.storeAll m.stores) := by
  rw [← step_withMemory (fun a ha => same.memory a (own a ha)) fun a ha =>
    same.memory a (data a ha), ← same.rest]

theorem AgreesOff.read_step (own : ∀ a ∈ m.ownBytes, a ∉ differ)
    (data : ∀ a ∈ m.loads, a ∉ differ) :
    (∀ s ∈ m.stores, m.step.processor.memory.read s.1 = s.2 ∧
      n.step.processor.memory.read s.1 = s.2) ∧
    (∀ a, (∀ s ∈ m.stores, a ≠ s.1) →
      m.step.processor.memory.read a = m.processor.memory.read a ∧
      n.step.processor.memory.read a = n.processor.memory.read a) := by
  have written : n.step.processor.memory = n.processor.memory.storeAll m.stores := by
    rw [same.step_eq own data]
    rfl
  rw [written, memory_step_eq]
  constructor
  · intro s hs
    exact ⟨Memory.read_storeAll_of_mem m.nodup_stores hs,
      Memory.read_storeAll_of_mem m.nodup_stores hs⟩
  · intro a away
    exact ⟨Memory.read_storeAll_of_forall_ne away, Memory.read_storeAll_of_forall_ne away⟩

theorem AgreesOff.step (own : ∀ a ∈ m.ownBytes, a ∉ differ) (data : ∀ a ∈ m.loads, a ∉ differ) :
    m.step.AgreesOff n.step differ := by
  obtain ⟨stored, kept⟩ := same.read_step own data
  refine ⟨?_, fun a ha => ?_⟩
  · rw [same.step_eq own data]
    rfl
  · by_cases h : ∃ s ∈ m.stores, s.1 = a
    · obtain ⟨s, hs, rfl⟩ := h
      rw [(stored s hs).1, (stored s hs).2]
    · have away : ∀ s ∈ m.stores, a ≠ s.1 := fun s hs e => h ⟨s, hs, e.symm⟩
      rw [(kept a away).1, (kept a away).2, same.memory a ha]

theorem AgreesOff.iterate {k : Nat} (own : ∀ j < k, ∀ a ∈ (Machine.step^[j] m).ownBytes, a ∉ differ)
    (data : ∀ j < k, ∀ a ∈ (Machine.step^[j] m).loads, a ∉ differ) :
    (Machine.step^[k] m).AgreesOff (Machine.step^[k] n) differ := by
  induction k with
  | zero => exact same
  | succ k ih =>
    have before := ih (fun j hj => own j (Nat.lt_succ_of_lt hj))
      fun j hj => data j (Nat.lt_succ_of_lt hj)
    rw [Function.iterate_succ_apply', Function.iterate_succ_apply']
    exact before.step (own k (Nat.lt_succ_self k)) (data k (Nat.lt_succ_self k))

end AgreesOff

/-- Machines that differ in memory only, outside of the bytes of the instruction and of those that
it reads as data, are the same after the step but for these bytes of memory. There both hold the
byte that the step stores, or each keeps its own. -/
theorem step_reads {m n : Machine σ} {differ : Set Word} (same : m.AgreesOff n differ)
    (own : ∀ a ∈ m.ownBytes, a ∉ differ) (data : ∀ a ∈ m.loads, a ∉ differ) :
    m.step.AgreesOff n.step differ ∧
      (∀ s ∈ m.stores, m.step.processor.memory.read s.1 = s.2 ∧
        n.step.processor.memory.read s.1 = s.2) ∧
      (∀ a, (∀ s ∈ m.stores, a ≠ s.1) →
        m.step.processor.memory.read a = m.processor.memory.read a ∧
        n.step.processor.memory.read a = n.processor.memory.read a) :=
  ⟨same.step own data, same.read_step own data⟩

/-- `MVI M,5` at address 0, with 8 in `HL`. -/
def storesFive : Machine Unconnected where
  processor := { l := 8, memory := (Memory.zero.write 0 0x36).write 1 5 }
  ports := ⟨⟩

def storesFive' : Machine Unconnected :=
  storesFive.withMemory ((storesFive.processor.memory.write 2 0x76).write 8 0x99)

theorem storesFive_reads : storesFive.AgreesOff storesFive' {2, 8} ∧
    (∀ a ∈ storesFive.ownBytes, a ∉ ({2, 8} : Set Word)) ∧
    (∀ a ∈ storesFive.loads, a ∉ ({2, 8} : Set Word)) ∧
    storesFive.step.AgreesOff storesFive'.step {2, 8} ∧
    storesFive.step.processor.memory.read 8 = 5 ∧ storesFive'.step.processor.memory.read 8 = 5 ∧
    storesFive.step.processor.memory.read 2 = 0 ∧
    storesFive'.step.processor.memory.read 2 = 0x76 := by
  have mvi : storesFive.opcode = .decode 0x36 :=
    opcode_of_read (by simp [storesFive, Memory.read_write])
  have five : storesFive.operand.lo = 5 := by
    simp [operand, Memory.readWord, storesFive]
  have executes : storesFive.Executes := executes_of_all rfl rfl
  have same : storesFive.AgreesOff storesFive' {2, 8} := by
    refine ⟨rfl, fun a ha => ?_⟩
    simp only [Set.mem_insert_iff, Set.mem_singleton_iff, not_or] at ha
    change ((storesFive.processor.memory.write 2 0x76).write 8 0x99).read a = _
    rw [Memory.read_write_of_ne ha.2, Memory.read_write_of_ne ha.1]
  have own : ∀ a ∈ storesFive.ownBytes, a ∉ ({2, 8} : Set Word) := by
    have bytes : storesFive.ownBytes = [0, 1] := by
      rw [ownBytes, mvi]
      rfl
    simp [bytes]
  have data : ∀ a ∈ storesFive.loads, a ∉ ({2, 8} : Set Word) := by
    rw [loads, mvi]
    intro a ha
    cases ha
  have stores : storesFive.stores = [(8, 5)] := by
    rw [Machine.stores, if_pos executes, mvi, ← five]
    rfl
  obtain ⟨alike, stored, kept⟩ := step_reads same own data
  rw [stores] at stored kept
  have eight := stored (8, 5) (List.mem_singleton_self _)
  have two := kept 2 (by simp)
  refine ⟨same, own, data, alike, eight.1, eight.2, ?_, ?_⟩
  · rw [two.1]
    simp [storesFive, Memory.read_write]
  · rw [two.2]
    simp [storesFive', Processor.withMemory, Memory.read_write]

end Machine
end Intel8080
