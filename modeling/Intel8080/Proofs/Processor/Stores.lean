import Intel8080.Proofs.Machine.Step

/-! The bytes that an instruction stores. The memory after an instruction is the memory before it
with these bytes written, so that every other byte stays as it is. -/
namespace Intel8080

namespace Memory

def storeAll (m : Memory) (stores : List (Word × Byte)) : Memory :=
  stores.foldl (fun m s => m.write s.1 s.2) m

@[simp] theorem storeAll_nil (m : Memory) : m.storeAll [] = m := rfl

@[simp] theorem storeAll_cons (m : Memory) (s : Word × Byte) (stores : List (Word × Byte)) :
    m.storeAll (s :: stores) = (m.write s.1 s.2).storeAll stores := rfl

theorem read_storeAll_of_forall_ne {m : Memory} {stores : List (Word × Byte)} {a : Word}
    (h : ∀ s ∈ stores, a ≠ s.1) : (m.storeAll stores).read a = m.read a := by
  induction stores generalizing m with
  | nil => rfl
  | cons s stores ih =>
    have hs : a ≠ s.1 := h s List.mem_cons_self
    rw [storeAll_cons, ih fun t ht => h t (List.mem_cons_of_mem _ ht), read_write_of_ne hs]

end Memory

def Instruction.writesMemory : Instruction → Bool
  | .mov .m _ | .mvi .m | .inr .m | .dcr .m => true
  | .stax _ | .sta | .shld | .push _ | .xthl => true
  | .call | .callIf _ | .rst _ => true
  | _ => false

namespace Processor

def pushStores (p : Processor) (w : Word) : List (Word × Byte) :=
  [(p.sp - 2, w.lo), (p.sp - 2 + 1, w.hi)]

/-- The bytes that an instruction stores, in their order. -/
def stores (p : Processor) (operand next : Word) : Instruction → List (Word × Byte)
  | .mov .m src => [(p.pair .hl, p.reg src)]
  | .mvi .m => [(p.pair .hl, operand.lo)]
  | .inr .m => [(p.pair .hl, p.reg .m + 1)]
  | .dcr .m => [(p.pair .hl, p.reg .m - 1)]
  | .stax rp => [(p.pair rp, p.a)]
  | .sta => [(operand, p.a)]
  | .shld => [(operand, p.l), (operand + 1, p.h)]
  | .push rp => p.pushStores (p.pair rp)
  | .xthl => [(p.sp, p.l), (p.sp + 1, p.h)]
  | .call | .rst _ => p.pushStores next
  | .callIf cond => if cond.holds p.flags then p.pushStores next else []
  | _ => []

theorem stores_of_not_writesMemory {i : Instruction} (h : i.writesMemory = false)
    (p : Processor) (operand next : Word) : p.stores operand next i = [] := by
  cases i with
  | mov dest src => cases dest <;> first | rfl | cases h
  | mvi dest => cases dest <;> first | rfl | cases h
  | inr r => cases r <;> first | rfl | cases h
  | dcr r => cases r <;> first | rfl | cases h
  | _ => first | rfl | cases h

theorem pushStores_eq (p : Processor) (w : Word) :
    p.pushStores w = [(p.sp - 2, w.lo), (p.sp - 1, w.hi)] := by
  have h : p.sp - 2 + 1 = p.sp - 1 := by bv_omega
  rw [pushStores, h]

theorem memory_push (p : Processor) (w : Word) :
    (p.push w).memory = p.memory.storeAll (p.pushStores w) := rfl

theorem drop_push (p : Processor) (w : Word) :
    (p.push w).drop = { p with memory := (p.push w).memory } := by
  have back : (p.push w).sp + 2 = p.sp := p.sp_drop_push w
  rw [drop, back]
  rfl

@[simp] theorem memory_setPair (p : Processor) (rp : Pair) (w : Word) :
    (p.setPair rp w).memory = p.memory := by
  cases rp <;> rfl

/-- Apart from port accesses, an instruction writes its stores and nothing else. -/
theorem memory_execute (p : Processor) (operand next : Word) (i : Instruction) :
    (p.execute operand next i).1.memory = p.memory.storeAll (p.stores operand next i) := by
  cases i with
  | mov dest src => cases dest <;> rfl
  | mvi dest => cases dest <;> rfl
  | inr r => cases r <;> rfl
  | dcr r => cases r <;> rfl
  | lxi dest => exact p.memory_setPair dest operand
  | inx rp => exact p.memory_setPair rp _
  | dcx rp => exact p.memory_setPair rp _
  | pop rp => exact p.drop.memory_setPair rp p.top
  | shld => simp [execute, stores, Memory.writeWord, pair]
  | xthl => simp [execute, stores, exchangeTop, setPair, Memory.writeWord, pair]
  | callIf cond =>
    cases h : cond.holds p.flags <;> simp [execute, stores, call, memory_push, h]
  | retIf cond => cases h : cond.holds p.flags <;> simp [execute, stores, ret, drop, h]
  | _ => rfl

end Processor

namespace Machine
variable {σ : Type} [Ports σ]

theorem memory_perform (p : Processor) (ports : σ) (operand next : Word) (i : Instruction) :
    (perform p ports operand next i).1.memory = p.memory.storeAll (p.stores operand next i) := by
  by_cases hi : i = .input
  · subst hi
    rfl
  by_cases ho : i = .output
  · subst ho
    rfl
  rw [perform_of_ne hi ho, p.memory_execute]

def stores (m : Machine σ) : List (Word × Byte) :=
  if m.Executes then m.processor.stores m.operand m.nextAddress m.opcode.instruction else []

theorem memory_step_eq (m : Machine σ) :
    m.step.processor.memory = m.processor.memory.storeAll m.stores := by
  by_cases h : m.Executes
  · rw [memory_step h, performed, memory_perform, stores, if_pos h]
  · rw [processor_step_of_not_executes h, stores, if_neg h, Memory.storeAll_nil]

theorem read_step_of_forall_ne {m : Machine σ} {a : Word} (h : ∀ s ∈ m.stores, a ≠ s.1) :
    m.step.processor.memory.read a = m.processor.memory.read a := by
  rw [memory_step_eq, Memory.read_storeAll_of_forall_ne h]

theorem read_step_of_not_mem {m : Machine σ} {a : Word} (h : a ∉ m.stores.map Prod.fst) :
    m.step.processor.memory.read a = m.processor.memory.read a :=
  read_step_of_forall_ne fun _ hs e => h (e ▸ List.mem_map_of_mem hs)

theorem memory_step_of_not_writesMemory {m : Machine σ}
    (h : m.opcode.instruction.writesMemory = false) :
    m.step.processor.memory = m.processor.memory := by
  have hs : m.stores = [] := by
    rw [stores, Processor.stores_of_not_writesMemory h, ite_self]
  rw [memory_step_eq, hs, Memory.storeAll_nil]

end Machine
end Intel8080
