import Intel8080.Proofs.Machine.Terminal

/-! Loading is all or nothing. A program that fits takes its place in memory and nothing else of
the processor changes but the program counter; of a program that does not fit nothing is seen. The
bounds that loading sets are those of a part of memory, and no other operation moves them. Main
statement: `load_allOrNothing`. -/
namespace Intel8080

theorem Memory.read_writeBytes_of_outside (m : Memory) {base a : Word} {image : List Byte}
    (fits : Fits base image) (h : a.toNat < base.toNat ∨ base.toNat + image.length ≤ a.toNat) :
    (m.writeBytes base image).read a = m.read a := by
  rw [read_writeBytes m base image fits, dif_neg (by omega)]

namespace Machine
variable {σ : Type} [Ports σ]

/-- What can become of a new machine in the hands of its owner, who may also put anything into the
processor. -/
inductive Reachable : Machine σ → Prop
  | start (ports : σ) : Reachable (ofPorts ports)
  | operate {m : Machine σ} (before : Reachable m) (operation : Operation) :
    Reachable (m.operate operation)
  | edit {m : Machine σ} (before : Reachable m) (processor : Processor) :
    Reachable { m with processor }

theorem Reachable.operated {m : Machine σ} (h : m.Reachable) (operations : List Operation) :
    (m.operated operations).Reachable := by
  induction operations generalizing m with
  | nil => exact h
  | cons operation operations ih => exact ih (h.operate operation)

omit [Ports σ] in
theorem programStart_interrupt (m : Machine σ) (v : Byte) :
    (m.interrupt v).2.programStart = m.programStart := by
  obtain ⟨p, s, he⟩ := m.exists_interrupt_eq v
  rw [he]

omit [Ports σ] in
theorem programEnd_interrupt (m : Machine σ) (v : Byte) :
    (m.interrupt v).2.programEnd = m.programEnd := by
  obtain ⟨p, s, he⟩ := m.exists_interrupt_eq v
  rw [he]

structure WithinMemory (m : Machine σ) : Prop where
  ordered : m.programStart ≤ m.programEnd
  bounded : m.programEnd ≤ 65536

theorem WithinMemory.act {m : Machine σ} (h : m.WithinMemory) (a : Action) :
    (m.act a).WithinMemory := by
  have first : (m.act a).programStart = m.programStart :=
    act_keeps programStart_step programStart_interrupt m a
  have last : (m.act a).programEnd = m.programEnd :=
    act_keeps programEnd_step programEnd_interrupt m a
  constructor
  · rw [first, last]
    exact h.ordered
  · rw [last]
    exact h.bounded

omit [Ports σ] in
theorem WithinMemory.reload {m : Machine σ} (h : m.WithinMemory) (image : List Byte)
    (base : Word) : (m.reload image base).WithinMemory := by
  rw [reload_eq]
  split
  · rename_i fits
    exact ⟨Nat.le_add_right _ _, Memory.fits_iff.mp fits⟩
  · exact h

theorem WithinMemory.operate {m : Machine σ} (h : m.WithinMemory) (operation : Operation) :
    (m.operate operation).WithinMemory := by
  cases operation with
  | act a => exact h.act a
  | load image base => exact h.reload image base
  | replaceFeatures features => exact ⟨h.ordered, h.bounded⟩

theorem Reachable.withinMemory {m : Machine σ} (h : m.Reachable) : m.WithinMemory := by
  induction h with
  | start ports => exact ⟨Nat.le_refl 0, Nat.zero_le _⟩
  | operate before operation ih => exact ih.operate operation
  | edit before processor ih => exact ⟨ih.ordered, ih.bounded⟩

/-- A program is loaded if it ends within memory. Its bytes are then found from the base on, all
other bytes are as they were, the program counter is at the base and the bounds are around the
program; nothing else of the machine changes, not even the status of one that has stopped. Placed
in the memory of a processor alone, the program does not move the program counter. A program that
does not fit changes nothing at all, and the error tells its base and its length. The bounds of
every machine that can be had enclose a part of memory. -/
theorem load_allOrNothing (m : Machine σ) (image : List Byte) (base : Word) :
    let p := m.processor
    let last := base.toNat + image.length
    ((∃ n, m.load image base = .ok n) ↔ last ≤ 65536) ∧
    (last ≤ 65536 → ∃ memory,
      m.load image base = .ok { m with
        processor := { p with memory, pc := base }
        programStart := base.toNat
        programEnd := last
        wrapped := false } ∧
      p.load image base = .ok { p with memory } ∧
      (∀ i b, image[i]? = some b → memory.read (base + BitVec.ofNat 16 i) = b) ∧
      ∀ a : Word, a.toNat < base.toNat ∨ last ≤ a.toNat → memory.read a = p.memory.read a) ∧
    (65536 < last →
      m.load image base = .error ⟨base, image.length⟩ ∧
      p.load image base = .error ⟨base, image.length⟩ ∧ m.reload image base = m) ∧
    (m.Reachable → m.programStart ≤ m.programEnd ∧ m.programEnd ≤ 65536) := by
  intro p last
  have fits : Memory.Fits base image ↔ last ≤ 65536 := Memory.fits_iff
  refine ⟨?_, ?_, ?_, fun h => ⟨h.withinMemory.ordered, h.withinMemory.bounded⟩⟩
  · simp only [load_eq_ok_iff, fits, exists_and_left, exists_eq', and_true]
  · intro within
    have room := fits.mpr within
    refine ⟨p.memory.writeBytes base image, load_eq_ok_iff.mpr ⟨room, rfl⟩, if_pos room,
      Memory.carries_writeBytes p.memory room, ?_⟩
    exact fun a outside => p.memory.read_writeBytes_of_outside room outside
  · intro beyond
    have tight : ¬Memory.Fits base image := fun room => Nat.not_le.mpr beyond (fits.mp room)
    exact ⟨by rw [load_eq, if_neg tight], if_neg tight, by rw [reload_eq, if_neg tight]⟩

def stopped : Machine Unconnected :=
  (ofPorts ⟨⟩).operated [.load [0x76] 0, .act .step]

theorem status_stopped : stopped.status = .halted := by
  have fits : Memory.Fits 0 [0x76] := by decide
  have placed : (ofPorts (⟨⟩ : Unconnected)).reload [0x76] 0 = (ofPorts ⟨⟩).loaded [0x76] 0 := by
    rw [reload_eq, if_pos fits]
  have halts : ((ofPorts (⟨⟩ : Unconnected)).loaded [0x76] 0).opcode = .decode 0x76 :=
    opcode_of_read (Memory.carries_writeBytes Memory.zero fits 0 0x76 rfl)
  have executes : ((ofPorts (⟨⟩ : Unconnected)).loaded [0x76] 0).Executes := executes_of_all rfl rfl
  have halting : ((ofPorts (⟨⟩ : Unconnected)).loaded [0x76] 0).flow = .halt :=
    flow_eq_halt_iff.mpr (by rw [halts]; rfl)
  rw [stopped, operated, List.foldl_cons, List.foldl_cons, List.foldl_nil, operate, operate, placed,
    act, status_step executes, if_pos halting]

/-- A program of two bytes has room at the last two addresses of memory, and one of three bytes has
not. Neither sets the halted machine going again. -/
theorem stopped_loads : stopped.status = .halted ∧
    (∃ memory,
      stopped.load [0xFB, 0x76] 0xFFFE = .ok { stopped with
        processor := { stopped.processor with memory, pc := 0xFFFE }
        programStart := 65534
        programEnd := 65536
        wrapped := false } ∧
      memory.read 0xFFFE = 0xFB ∧ memory.read 0xFFFF = 0x76 ∧
      memory.read 0 = stopped.processor.memory.read 0) ∧
    stopped.load [0xFB, 0x76, 0x00] 0xFFFE = .error ⟨0xFFFE, 3⟩ ∧
    stopped.reload [0xFB, 0x76, 0x00] 0xFFFE = stopped ∧
    stopped.Reachable ∧ stopped.programStart ≤ stopped.programEnd ∧ stopped.programEnd ≤ 65536 := by
  have reachable : stopped.Reachable := by
    rw [stopped]
    exact (Reachable.start (⟨⟩ : Unconnected)).operated _
  obtain ⟨-, fits, -, bounds⟩ := load_allOrNothing stopped [0xFB, 0x76] 0xFFFE
  obtain ⟨-, -, overflows, -⟩ := load_allOrNothing stopped [0xFB, 0x76, 0x00] 0xFFFE
  obtain ⟨memory, loaded, -, bytes, others⟩ := fits (by decide)
  have first : (0xFFFE : Word).toNat = 65534 := rfl
  have last : 65534 + [(0xFB : Byte), 0x76].length = 65536 := rfl
  rw [first, last] at loaded
  obtain ⟨refused, -, stays⟩ := overflows (by decide)
  exact ⟨status_stopped, ⟨memory, loaded, bytes 0 _ rfl, bytes 1 _ rfl, others 0 (by decide)⟩,
    refused, stays, reachable, bounds reachable⟩

end Machine
end Intel8080
