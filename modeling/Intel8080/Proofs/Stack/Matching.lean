import Intel8080.Proofs.Machine.Sequence
import Intel8080.Proofs.Opcode.Encodings
import Intel8080.Proofs.Stack.Shadow
import Mathlib.Tactic.IntervalCases

/-! Returns and pops meet their calls and pushes. The invariant of a run is that memory holds the
words of the shadow from the stack pointer upwards; each move of the stack keeps it, and so does
every other instruction that leaves the stack alone. -/
namespace Intel8080.Machine
variable {σ : Type} [Ports σ]

def stackMove (m : Machine σ) : StackMove :=
  if m.Executes then m.processor.stackMove m.nextAddress m.opcode.instruction else .keep

/-- The shadow of the stack after a number of steps, unless one of them took a word from an empty
stack. It is empty at first, whatever lies in memory. -/
def shadow? (m : Machine σ) : Nat → Option (List Word)
  | 0 => some []
  | n + 1 => (m.shadow? n).bind (step^[n] m).stackMove.after?

def Returns (m : Machine σ) : Prop :=
  m.Executes ∧ m.opcode.instruction.returns m.processor.flags = true

def Pushes (m : Machine σ) (rp : Pair) : Prop := m.Executes ∧ m.opcode.instruction = .push rp

def Pops (m : Machine σ) (rp : Pair) : Prop := m.Executes ∧ m.opcode.instruction = .pop rp

/-- The next step is a call or a return whose condition does not hold. -/
def Declines (m : Machine σ) : Prop :=
  m.Executes ∧ m.opcode.instruction.declines m.processor.flags = true

/-- The next step does not change the stack pointer and stores nothing among the words on the
stack. -/
structure KeepsStack (m : Machine σ) (depth : Nat) : Prop where
  sp_eq : m.step.processor.sp = m.processor.sp
  not_among : ∀ s ∈ m.stores, ¬Memory.Among m.processor.sp depth s.1

/-- The shadow exists and has room in memory all along a number of steps, and the instructions that
do not move the stack leave it alone. -/
structure Disciplined (m : Machine σ) (n : Nat) : Prop where
  bounded : ∀ k ≤ n, ∃ ws, m.shadow? k = some ws ∧ ws.length ≤ 32768
  kept : ∀ k < n, ∀ ws, m.shadow? k = some ws → (step^[k] m).Executes →
    (step^[k] m).stackMove = .keep → (step^[k] m).KeepsStack ws.length

/-- The machine has the words of a shadow on its stack, above an address where the stack was
empty. -/
structure Shadows (m : Machine σ) (base : Word) (ws : List Word) : Prop where
  sp_eq : m.processor.sp = base - BitVec.ofNat 16 (2 * ws.length)
  holds : m.processor.memory.Holds m.processor.sp ws

omit [Ports σ] in
theorem executes_of_stackMove_ne {m : Machine σ} (h : m.stackMove ≠ .keep) :
    m.Executes ∧ m.stackMove = m.processor.stackMove m.nextAddress m.opcode.instruction := by
  by_cases he : m.Executes
  · exact ⟨he, if_pos he⟩
  · exact absurd (if_neg he) h

theorem performed_of_stackMove_ne {m : Machine σ} (h : m.stackMove ≠ .keep) :
    m.performed = (m.processor.execute m.operand m.nextAddress m.opcode.instruction).1 := by
  obtain ⟨-, hm⟩ := executes_of_stackMove_ne h
  rw [hm] at h
  obtain ⟨hi, ho⟩ := ne_port h rfl rfl
  exact performed_of_ne hi ho

theorem step_of_stackMove_push {m : Machine σ} {w : Word} (h : m.stackMove = .push w) :
    m.step.processor.sp = m.processor.sp - 2 ∧
      m.step.processor.memory = m.processor.memory.writeWord (m.processor.sp - 2) w := by
  have hne : m.stackMove ≠ .keep := by rw [h]; exact StackMove.noConfusion
  obtain ⟨he, hm⟩ := executes_of_stackMove_ne hne
  have hp := Processor.execute_of_push (hm.symm.trans h) m.operand
  rw [sp_step he, memory_step he, performed_of_stackMove_ne hne, hp]
  exact ⟨rfl, rfl⟩

theorem step_of_stackMove_pop {m : Machine σ} (h : m.stackMove = .pop) :
    m.step.processor.sp = m.processor.sp + 2 ∧
      m.step.processor.memory = m.processor.memory := by
  have hne : m.stackMove ≠ .keep := by rw [h]; exact StackMove.noConfusion
  obtain ⟨he, hm⟩ := executes_of_stackMove_ne hne
  rw [sp_step he, memory_step he, performed_of_stackMove_ne hne]
  exact Processor.execute_of_pop (hm.symm.trans h) (Opcode.lookup_ne_pop_sp _) m.operand

theorem Shadows.push {m : Machine σ} {base w : Word} {ws : List Word} (h : m.Shadows base ws)
    (move : m.stackMove = .push w) (fits : ws.length + 1 ≤ 32768) :
    m.step.Shadows base (w :: ws) := by
  obtain ⟨hsp, hmem⟩ := step_of_stackMove_push move
  constructor
  · rw [hsp, h.sp_eq, List.length_cons]
    bv_omega
  · rw [hsp, hmem]
    exact h.holds.push fits w

theorem Shadows.pop {m : Machine σ} {base w : Word} {ws : List Word}
    (h : m.Shadows base (w :: ws)) (move : m.stackMove = .pop) : m.step.Shadows base ws := by
  obtain ⟨hsp, hmem⟩ := step_of_stackMove_pop move
  constructor
  · rw [hsp, h.sp_eq, List.length_cons]
    bv_omega
  · rw [hsp, hmem]
    exact h.holds.2

theorem Shadows.keep {m : Machine σ} {base : Word} {ws : List Word} (h : m.Shadows base ws)
    (fits : ws.length ≤ 32768) (kept : m.KeepsStack ws.length) : m.step.Shadows base ws := by
  constructor
  · rw [kept.sp_eq, h.sp_eq]
  · rw [kept.sp_eq]
    refine h.holds.congr fits fun b hb => ?_
    have away : ∀ s ∈ m.stores, b ≠ s.1 := fun s hs e => kept.not_among s hs (e ▸ hb)
    exact read_step_of_forall_ne away

/-- Every step keeps the shadow, if an instruction that does not move the stack leaves it alone. -/
theorem Shadows.step {m : Machine σ} {base : Word} {ws ws' : List Word} (h : m.Shadows base ws)
    (moved : m.stackMove.after? ws = some ws') (fits : ws.length ≤ 32768)
    (fits' : ws'.length ≤ 32768)
    (kept : m.Executes → m.stackMove = .keep → m.KeepsStack ws.length) :
    m.step.Shadows base ws' := by
  cases move : m.stackMove with
  | push w =>
    rw [move, StackMove.after?, Option.some.injEq] at moved
    subst moved
    exact h.push move fits'
  | pop =>
    rw [move] at moved
    cases ws with
    | nil => cases moved
    | cons w ws =>
      cases moved
      exact h.pop move
  | keep =>
    rw [move, StackMove.after?, Option.some.injEq] at moved
    subst moved
    by_cases he : m.Executes
    · exact h.keep fits (kept he move)
    · have hp := processor_step_of_not_executes he
      exact ⟨by rw [hp, h.sp_eq], by rw [hp]; exact h.holds⟩

theorem Disciplined.shadows {m : Machine σ} {n : Nat} (h : m.Disciplined n) {k : Nat}
    (hk : k ≤ n) {ws : List Word} (hs : m.shadow? k = some ws) :
    (step^[k] m).Shadows m.processor.sp ws := by
  induction k generalizing ws with
  | zero =>
    cases hs
    exact ⟨by simp, trivial⟩
  | succ k ih =>
    obtain ⟨us, hu, fits⟩ := h.bounded k (Nat.le_of_succ_le hk)
    obtain ⟨vs, hv, fits'⟩ := h.bounded (k + 1) hk
    obtain rfl : vs = ws := by rw [hv] at hs; exact Option.some.inj hs
    rw [shadow?, hu, Option.bind_some] at hv
    rw [Function.iterate_succ_apply']
    exact (ih (Nat.le_of_succ_le hk) hu).step hv fits fits' (h.kept k hk us hu)

theorem Disciplined.exists_cons {m : Machine σ} {n : Nat} (h : m.Disciplined n) {k : Nat}
    (hk : k < n) {ws : List Word} (hs : m.shadow? k = some ws)
    (move : (step^[k] m).stackMove = .pop) : ∃ w rest, ws = w :: rest := by
  obtain ⟨vs, hv, -⟩ := h.bounded (k + 1) hk
  rw [shadow?, hs, Option.bind_some, move] at hv
  cases ws with
  | nil => cases hv
  | cons w rest => exact ⟨w, rest, rfl⟩

omit [Ports σ] in
theorem stackMove_of_returns {m : Machine σ} (h : m.Returns) : m.stackMove = .pop := by
  obtain ⟨he, hr⟩ := h
  rw [stackMove, if_pos he]
  cases hi : m.opcode.instruction with
  | ret => rfl
  | retIf cond =>
    rw [hi] at hr
    exact if_pos hr
  | _ =>
    rw [hi] at hr
    cases hr

theorem pc_step_of_returns {m : Machine σ} (h : m.Returns) :
    m.step.processor.pc = m.processor.top := by
  obtain ⟨he, hr⟩ := h
  obtain ⟨hi, ho⟩ := ne_port (ne_false_of_eq_true hr) rfl rfl
  have hf : m.flow = .jump m.processor.top := by
    rw [flow_of_ne hi ho, Processor.execute_of_returns hr]
    rfl
  rw [pc_step he, hf]
  rfl

omit [Ports σ] in
theorem stackMove_of_pushes {m : Machine σ} {rp : Pair} (h : m.Pushes rp) :
    m.stackMove = .push (m.processor.pair rp) := by
  rw [stackMove, if_pos h.1, h.2]
  rfl

/-- What a push records is the word of the pair, with the fixed bits of the flag byte in that of
`PSW`. -/
theorem shadow?_succ_of_pushes {m : Machine σ} {k : Nat} {ws : List Word} {rp : Pair}
    (hs : m.shadow? k = some ws) (h : (step^[k] m).Pushes rp) :
    ∃ w, m.shadow? (k + 1) = some (w :: ws) ∧ (step^[k] m).processor.Loaded w rp ∧
      (rp = .psw → [5, 3, 1].map w.lo.getLsbD = [false, false, true]) := by
  refine ⟨(step^[k] m).processor.pair rp, ?_, Processor.loaded_pair _ rp, ?_⟩
  · rw [shadow?, hs, Option.bind_some, stackMove_of_pushes h]
    rfl
  · rintro rfl
    exact (step^[k] m).processor.bits_lo_pair_psw.2

omit [Ports σ] in
theorem stackMove_of_pops {m : Machine σ} {rp : Pair} (h : m.Pops rp) : m.stackMove = .pop := by
  rw [stackMove, if_pos h.1, h.2]
  rfl

theorem loaded_step_of_pops {m : Machine σ} {rp : Pair} (h : m.Pops rp) :
    m.step.processor.Loaded m.processor.top rp := by
  obtain ⟨he, hi⟩ := h
  have hp : m.performed = m.processor.drop.setPair rp m.processor.top := by
    rw [performed_of_ne, hi]
    · rfl
    · rw [hi]; exact Instruction.noConfusion
    · rw [hi]; exact Instruction.noConfusion
  rw [processor_step he, hp]
  exact (Processor.loaded_setPair _ rp _).setPC _

theorem step_of_declines {m : Machine σ} (h : m.Declines) :
    m.step.processor.sp = m.processor.sp ∧ m.step.processor.memory = m.processor.memory := by
  obtain ⟨he, hd⟩ := h
  obtain ⟨hi, ho⟩ := ne_port (ne_false_of_eq_true hd) rfl rfl
  have hp : m.performed = m.processor := by
    rw [performed_of_ne hi ho, Processor.execute_of_declines hd]
  rw [sp_step he, memory_step he, hp]
  exact ⟨rfl, rfl⟩

/-- While calls, returns, pushes and pops alone use the stack, the stack pointer tells the depth
of the shadow, each push records the bytes of its pair, each return goes to the word that its
matching entry recorded, and each pop loads it. The condition codes are bits of the word of `PSW`,
both where it is recorded and where it is loaded. -/
theorem stack_matches_shadow {m : Machine σ} {n : Nat} (h : m.Disciplined n) {k : Nat}
    (hk : k ≤ n) : ∃ ws, m.shadow? k = some ws ∧
      (step^[k] m).processor.sp = m.processor.sp - BitVec.ofNat 16 (2 * ws.length) ∧
      (∀ rp, (step^[k] m).Pushes rp →
        ∃ w, m.shadow? (k + 1) = some (w :: ws) ∧ (step^[k] m).processor.Loaded w rp ∧
          (rp = .psw → [5, 3, 1].map w.lo.getLsbD = [false, false, true])) ∧
      (k < n → (step^[k] m).Returns →
        ∃ w rest, ws = w :: rest ∧ (step^[k + 1] m).processor.pc = w) ∧
      (∀ rp, k < n → (step^[k] m).Pops rp →
        ∃ w rest, ws = w :: rest ∧ (step^[k + 1] m).processor.Loaded w rp) ∧
      ((step^[k] m).Declines →
        (step^[k + 1] m).processor.sp = (step^[k] m).processor.sp ∧
          (step^[k + 1] m).processor.memory = (step^[k] m).processor.memory) := by
  obtain ⟨ws, hs, -⟩ := h.bounded k hk
  have shadows := h.shadows hk hs
  rw [Function.iterate_succ_apply']
  refine ⟨ws, hs, shadows.sp_eq, fun rp => shadow?_succ_of_pushes hs, ?_, ?_, step_of_declines⟩
  · intro hn hr
    obtain ⟨w, rest, rfl⟩ := h.exists_cons hn hs (stackMove_of_returns hr)
    exact ⟨w, rest, rfl, (pc_step_of_returns hr).trans shadows.holds.1⟩
  · intro rp hn hp
    obtain ⟨w, rest, rfl⟩ := h.exists_cons hn hs (stackMove_of_pops hp)
    have top : (step^[k] m).processor.top = w := shadows.holds.1
    exact ⟨w, rest, rfl, top ▸ loaded_step_of_pops hp⟩

/-- `CALL 0010` at address 0 and a subroutine at address 0010, `PUSH B`, `POP PSW`, `RET`, with a
stack across the end of memory. -/
def callAcrossTop : Machine Unconnected where
  processor :=
    { b := 0x42, c := 0x91, sp := 1
      memory := (Memory.zero.storeAll [(0, 0xCD), (1, 0x10)]).writeBytes 0x10 [0xC5, 0xF1, 0xC9] }
  ports := {}

theorem callAcrossTop_calls : callAcrossTop.stackMove = .push 3 ∧
    callAcrossTop.step = { callAcrossTop with
      processor := { callAcrossTop.processor.push 3 with pc := 0x10 }, steps := 1 } := by
  have code : callAcrossTop.processor.memory.read 0 = 0xCD := by
    simp [callAcrossTop, Memory.writeBytes, Memory.read_write]
  have target : callAcrossTop.processor.memory.readWord 1 = 0x10 := by
    simp [Memory.readWord, callAcrossTop, Memory.writeBytes, Memory.read_write, Word.ofBytes]
  constructor
  · rw [stackMove, if_pos (executes_of_all rfl rfl), nextAddress, opcode_of_read code]
    rfl
  · exact step_eq_of_read 0 0xCD 0x10 rfl rfl rfl code target rfl

theorem callAcrossTop_obeys : callAcrossTop.step.Obeys [.push .bc, .pop .psw, .ret] := by
  have fits : Memory.Fits 0x10 [0xC5, 0xF1, 0xC9] := by decide
  obtain ⟨-, call⟩ := callAcrossTop_calls
  have running : callAcrossTop.step.status = .running := by rw [call]; rfl
  have pc : callAcrossTop.step.processor.pc = 0x10 := by rw [call]
  -- neither the return address nor the pair goes to the subroutine
  have subroutine : callAcrossTop.step.processor.memory.Carries 0x10 [0xC5, 0xF1, 0xC9] := by
    rw [call]
    exact ((Memory.carries_writeBytes _ fits).write fits (.inr (by decide)) _).write fits
      (.inl (by decide)) _
  have first : callAcrossTop.step.Obeys [.push .bc, .pop .psw] := by
    refine obeys_two running (features_step _) (c := 0xC5) (d := 0xF1) ?_ rfl ?_
    · exact pc ▸ subroutine.of_begins ⟨[0xC9], rfl⟩
    · rw [call]
      decide
  obtain ⟨⟨executes, hi⟩, -⟩ := first
  have second := processor_step_of_isPlain executes hi rfl
  refine ⟨⟨executes, hi⟩, obeys_two (c := 0xF1) (d := 0xC9) ?_ ?_ ?_ rfl List.not_mem_nil⟩
  · exact status_step_of_isPlain executes hi rfl
  · exact (features_step _).trans (features_step _)
  · have kept : (callAcrossTop.step.processor.push
        (callAcrossTop.step.processor.pair .bc)).memory.Carries 0x10 [0xC5, 0xF1, 0xC9] := by
      refine (subroutine.write fits (.inr ?_) _).write fits (.inr ?_) _
      · rw [call]; decide
      · rw [call]; decide
    rw [second, pc]
    intro j b hb
    rw [add_one_add_ofNat]
    exact kept (j + 1) b hb

theorem callAcrossTop_uses :
    callAcrossTop.step.Pushes .bc ∧ (step^[2] callAcrossTop).Pops .psw ∧
    (step^[3] callAcrossTop).Returns := by
  obtain ⟨pushes, pops, ⟨executes, ret⟩, -⟩ := callAcrossTop_obeys
  simp only [Function.iterate_succ_apply, Function.iterate_zero, id_eq]
  exact ⟨pushes, pops, executes, by rw [ret]; rfl⟩

theorem callAcrossTop_moves :
    callAcrossTop.stackMove = .push 3 ∧ (step^[1] callAcrossTop).stackMove = .push 0x4291 ∧
    (step^[2] callAcrossTop).stackMove = .pop ∧ (step^[3] callAcrossTop).stackMove = .pop := by
  obtain ⟨pushes, pops, returns⟩ := callAcrossTop_uses
  have pair : callAcrossTop.step.processor.pair .bc = 0x4291 := by
    rw [callAcrossTop_calls.2, Processor.pair]
    show Word.ofBytes 0x42 0x91 = 0x4291
    decide
  refine ⟨callAcrossTop_calls.1, ?_, stackMove_of_pops pops, stackMove_of_returns returns⟩
  rw [Function.iterate_one, stackMove_of_pushes pushes, pair]

theorem callAcrossTop_shadow :
    callAcrossTop.shadow? 1 = some [3] ∧ callAcrossTop.shadow? 2 = some [0x4291, 3] ∧
    callAcrossTop.shadow? 3 = some [3] ∧ callAcrossTop.shadow? 4 = some [] := by
  obtain ⟨zero, one, two, three⟩ := callAcrossTop_moves
  have h1 : callAcrossTop.shadow? 1 = some [3] := by
    rw [shadow?, shadow?, Function.iterate_zero, id_eq, zero]
    rfl
  have h2 : callAcrossTop.shadow? 2 = some [0x4291, 3] := by
    rw [shadow?, h1, one]
    rfl
  have h3 : callAcrossTop.shadow? 3 = some [3] := by
    rw [shadow?, h2, two]
    rfl
  refine ⟨h1, h2, h3, ?_⟩
  rw [shadow?, h3, three]
  rfl

theorem callAcrossTop_disciplined : callAcrossTop.Disciplined 4 := by
  obtain ⟨zero, one, two, three⟩ := callAcrossTop_moves
  obtain ⟨h1, h2, h3, h4⟩ := callAcrossTop_shadow
  constructor
  · intro k hk
    interval_cases k
    · exact ⟨[], rfl, by decide⟩
    · exact ⟨[3], h1, by decide⟩
    · exact ⟨[0x4291, 3], h2, by decide⟩
    · exact ⟨[3], h3, by decide⟩
    · exact ⟨[], h4, by decide⟩
  · intro k hk ws _ _ move
    interval_cases k
    · exact absurd (zero.symm.trans move) (by decide)
    · exact absurd (one.symm.trans move) (by decide)
    · exact absurd (two.symm.trans move) (by decide)
    · exact absurd (three.symm.trans move) (by decide)

/-- `POP PSW` takes 4291H, which `PUSH B` put above the return address: 42H goes to the
accumulator, and of the byte 91H the bits 7, 4 and 0 are set. `RET` comes back to address 3. -/
theorem callAcrossTop_matches_shadow : callAcrossTop.Disciplined 4 ∧
    (step^[2] callAcrossTop).processor.sp = 0xFFFD ∧
    (step^[2] callAcrossTop).Pops .psw ∧
    (step^[3] callAcrossTop).processor.a = 0x42 ∧
    (step^[3] callAcrossTop).processor.flags = { sign := true, auxCarry := true, carry := true } ∧
    (step^[3] callAcrossTop).Returns ∧
    (step^[4] callAcrossTop).processor.pc = 3 ∧
    (step^[4] callAcrossTop).processor.sp = 1 := by
  obtain ⟨-, pops, returns⟩ := callAcrossTop_uses
  obtain ⟨-, shadow2, shadow3, shadow4⟩ := callAcrossTop_shadow
  have disciplined := callAcrossTop_disciplined
  obtain ⟨ws, two, sp, -, -, loads, -⟩ := stack_matches_shadow disciplined (by decide : 2 ≤ 4)
  obtain ⟨us, three, -, -, comesBack, -⟩ := stack_matches_shadow disciplined (by decide : 3 ≤ 4)
  obtain ⟨vs, four, sp', -⟩ := stack_matches_shadow disciplined (by decide : 4 ≤ 4)
  simp only [Nat.reduceAdd] at loads comesBack
  rw [shadow2, Option.some.injEq] at two
  rw [shadow3, Option.some.injEq] at three
  rw [shadow4, Option.some.injEq] at four
  subst two three four
  obtain ⟨w, rest, top, a, codes⟩ := loads .psw (by decide) pops
  obtain ⟨back, rest', top', pc⟩ := comesBack (by decide) returns
  rw [List.cons.injEq] at top top'
  obtain ⟨rfl, -⟩ := top
  obtain ⟨rfl, -⟩ := top'
  have start : callAcrossTop.processor.sp = 1 := rfl
  rw [start] at sp sp'
  refine ⟨disciplined, sp, pops, a.trans (by decide), ?_, returns, pc, sp'⟩
  simp only [List.map_cons, List.map_nil, List.cons.injEq] at codes
  obtain ⟨sign, zero, auxCarry, parity, carry, -⟩ := codes
  exact Flags.ext sign zero auxCarry parity carry

end Intel8080.Machine
