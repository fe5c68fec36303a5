import Intel8080.Ports.Scripted
import Intel8080.Proofs.Machine.Operand
import Intel8080.Proofs.Ports.Erasure
import Intel8080.Proofs.Processor.Stores

/-! The traffic at the ports. A device is used by the executed `IN` and `OUT` instructions, once by
each of them and in their order, and by nothing else that is done to a machine. An `IN` puts the
answer into the accumulator, and that is all it changes; an `OUT` changes nothing. Main statement:
`traffic_eq_executed`. -/
namespace Intel8080

def PortAccess.serve {σ : Type} [Ports σ] (device : σ) : PortAccess → σ
  | .input port _ => (Ports.input device port).2
  | .output port value => Ports.output device port value

/-- The access that an instruction makes, given the port that it names, the answer that this port
has ready and the accumulator. -/
def Instruction.access? (port answer a : Byte) : Instruction → Option PortAccess
  | .input => some (.input port answer)
  | .output => some (.output port a)
  | _ => none

namespace Machine
variable {σ : Type}

def port (m : Machine σ) : Byte := m.processor.memory.read (m.processor.pc + 1)

theorem lo_operand (m : Machine σ) : m.operand.lo = m.port := by
  simp [operand, port, Memory.readWord]

variable [Ports σ]

def access? (m : Machine σ) : Option PortAccess :=
  m.opcode.instruction.access? m.port (Ports.input m.ports m.port).1 m.processor.a

theorem access?_bare (m : Machine (Recorded σ)) : m.bare.access? = m.access? := rfl

theorem answered_eq (m : Machine σ) :
    m.answered = m.access?.elim m.ports (PortAccess.serve m.ports) := by
  unfold answered access?
  rw [← lo_operand]
  cases m.opcode.instruction <;> rfl

theorem accesses_answered (m : Machine (Recorded σ)) :
    m.answered.accesses = m.ports.accesses ++ m.access?.toList := by
  rw [answered_eq]
  unfold access?
  cases m.opcode.instruction <;> simp [Instruction.access?, PortAccess.serve]

theorem accesses_operated (m : Machine (Recorded σ)) (operations : List Operation) :
    (m.operated operations).ports.accesses =
      m.ports.accesses ++ (m.executions operations).filterMap access? := by
  have gathered := operated_eq_foldl (fun r _ => r.accesses)
    (fun accesses s => accesses ++ s.access?.toList)
    (fun s h => (congrArg Recorded.accesses (ports_step h)).trans s.accesses_answered) m operations
  rw [gathered]
  generalize m.ports.accesses = front
  induction m.executions operations generalizing front with
  | nil => simp
  | cons s executed ih => cases h : s.access? <;> simp [ih, h]

theorem ports_operated (m : Machine σ) (operations : List Operation) :
    (m.operated operations).ports =
      ((m.executions operations).filterMap access?).foldl PortAccess.serve m.ports := by
  have served := operated_eq_foldl (fun device _ => device)
    (fun device s => s.access?.elim device (PortAccess.serve device))
    (fun s h => (ports_step h).trans s.answered_eq) m operations
  rw [served]
  generalize m.ports = device
  induction m.executions operations generalizing device with
  | nil => rfl
  | cons s executed ih => cases h : s.access? <;> simp [ih, h]

theorem accesses_recorded (m : Machine σ) (operations : List Operation) :
    (m.recorded.operated operations).ports.accesses =
      (m.executions operations).filterMap access? := by
  have executed := m.recorded.executions_bare operations
  rw [bare_recorded] at executed
  have fresh : m.recorded.ports.accesses = [] := rfl
  have same : (access? ∘ bare : Machine (Recorded σ) → Option PortAccess) = access? := by
    funext s
    simp only [Function.comp_apply, access?_bare]
  rw [accesses_operated, fresh, List.nil_append, executed, List.filterMap_map, same]

theorem processor_step_of_input {m : Machine σ} (executes : m.Executes)
    (h : m.opcode.instruction = .input) : m.step.processor = { m.processor with
      a := (Ports.input m.ports m.port).1, pc := m.processor.pc + 2 } := by
  rw [processor_step executes, performed, flow, nextAddress, length_opcode, h, ← lo_operand]
  rfl

theorem processor_step_of_output {m : Machine σ} (executes : m.Executes)
    (h : m.opcode.instruction = .output) :
    m.step.processor = { m.processor with pc := m.processor.pc + 2 } := by
  rw [processor_step executes, performed, flow, nextAddress, length_opcode, h]
  rfl

/-- Whatever is done to a machine, its device is used by the instructions that it executes, in
their order: an `IN` reads the port of the byte behind it, an `OUT` writes the accumulator there,
and no other instruction and no other operation uses the device. The list of accesses tells what
becomes of the device. An `IN` changes nothing of the processor but the accumulator, which takes
the answer, and an `OUT` changes nothing at all. -/
theorem traffic_eq_executed (m : Machine σ) (operations : List Operation) :
    let executed := m.executions operations
    let last := m.recorded.operated operations
    last.bare = m.operated operations ∧
    last.ports.accesses = executed.filterMap access? ∧
    (m.operated operations).ports = last.ports.accesses.foldl PortAccess.serve m.ports ∧
    (m.operated operations).steps = m.steps + executed.length ∧
    ∀ s ∈ executed, s.Executes ∧
      (s.opcode.instruction = .input → s.step.processor = { s.processor with
        a := (Ports.input s.ports s.port).1, pc := s.processor.pc + 2 }) ∧
      (s.opcode.instruction = .output →
        s.step.processor = { s.processor with pc := s.processor.pc + 2 }) := by
  intro executed last
  have accesses : last.ports.accesses = executed.filterMap access? :=
    m.accesses_recorded operations
  refine ⟨(m.recorded.operated_bare operations).symm, accesses, ?_, m.steps_operated operations,
    fun s hs => ?_⟩
  · rw [accesses, ports_operated]
  · have executes := executes_of_mem_executions hs
    exact ⟨executes, processor_step_of_input executes, processor_step_of_output executes⟩

/-- `IN 1`, `OUT 2` and `HLT` at address 0. Port 1 gives the letter A. -/
def echoes : Machine Scripted where
  processor := { memory := Memory.zero.storeAll [(0, 0xDB), (1, 1), (2, 0xD3), (3, 2), (4, 0x76)] }
  ports := ⟨[(1, [0x41])]⟩
  programEnd := 5

def echoed (pc : Word) (status : Status) (steps : Nat) : Machine Scripted :=
  { echoes with
    processor := { echoes.processor with a := 0x41, pc }
    status
    steps }

/-- A run that is cut off behind the `IN`, a request that is refused, and three steps, of which the
last one finds the machine halted. -/
def interleaved : List Operation :=
  [.act (.runLimit 1), .act (.interrupt 0), .act .step, .act .step, .act .step]

theorem steps_echoes : echoes.step = echoed 2 .running 1 ∧
    (echoed 2 .running 1).step = echoed 4 .running 2 ∧
    (echoed 4 .running 2).step = echoed 5 .halted 3 ∧
    (echoed 5 .halted 3).step = echoed 5 .halted 3 := by
  refine ⟨?_, ?_, ?_, step_halted rfl⟩
  · exact step_eq_of_read 0 0xDB 0xD301 rfl rfl rfl
      (by simp [echoes, Memory.read_write])
      (by simp [echoes, Memory.readWord, Memory.read_write, Word.ofBytes]) rfl
  · exact step_eq_of_read 2 0xD3 0x7602 rfl rfl rfl
      (by simp [echoed, echoes, Memory.read_write])
      (by simp [echoed, echoes, Memory.readWord, Memory.read_write, Word.ofBytes]) rfl
  · exact step_eq_of_read 4 0x76 0 rfl rfl rfl
      (by simp [echoed, echoes])
      (by simp [echoed, echoes, Memory.readWord, Memory.read_write, Word.ofBytes]) rfl

theorem executions_echoes : echoes.executions interleaved =
    [echoes, echoed 2 .running 1, echoed 4 .running 2] := by
  obtain ⟨h1, h2, h3, -⟩ := steps_echoes
  have starts : echoes.Executes := executes_of_all rfl rfl
  have goesOn (pc : Word) (n : Nat) : (echoed pc .running n).Executes := executes_of_all rfl rfl
  have waits : ¬(echoed 5 .halted 3).Executes := fun h => Status.noConfusion h.1
  have fetched : echoes.fetches 1 = [echoes] := fetches_succ_of_none rfl 0
  have executed : [echoes].filter (fun s => s.Executes) = [echoes] := by simp [starts]
  have cut : (echoes.runLimit 1).2 = echoed 2 .running 1 := by
    rw [runLimit_succ_of_none rfl, h1]
    rfl
  have refused : ((echoed 2 .running 1).interrupt 0).2 = echoed 2 .running 1 := rfl
  rw [interleaved, executions, stepsIn, fetched, executed, operate, act, cut, executions, stepsIn,
    operate, act, refused, executions_step_of_executes (goesOn _ _), h2,
    executions_step_of_executes (goesOn _ _), h3, executions_step_of_not_executes waits]
  rfl

/-- The letter comes in at port 1 and goes out at port 2, each of them once. -/
theorem echoes_traffic :
    (echoes.recorded.operated interleaved).ports.accesses = [.input 1 0x41, .output 2 0x41] ∧
    (echoes.operated interleaved).steps = 3 ∧
    echoes.step.processor = { echoes.processor with a := 0x41, pc := 2 } ∧
    (echoed 2 .running 1).step.processor = { (echoed 2 .running 1).processor with pc := 4 } := by
  obtain ⟨-, accesses, -, steps, effect⟩ := traffic_eq_executed echoes interleaved
  rw [executions_echoes] at accesses steps effect
  have input : echoes.opcode = .decode 0xDB := opcode_of_read (by simp [echoes, Memory.read_write])
  have output : (echoed 2 .running 1).opcode = .decode 0xD3 :=
    opcode_of_read (by simp [echoed, echoes, Memory.read_write])
  have halt : (echoed 4 .running 2).opcode = .decode 0x76 :=
    opcode_of_read (by simp [echoed, echoes])
  have inPort : echoes.port = 1 := by simp [port, echoes, Memory.read_write]
  have outPort : (echoed 2 .running 1).port = 2 := by
    simp [port, echoed, echoes, Memory.read_write]
  have comes : echoes.access? = some (.input 1 0x41) := by rw [access?, input, inPort]; rfl
  have goes : (echoed 2 .running 1).access? = some (.output 2 0x41) := by
    rw [access?, output, outPort]; rfl
  have stays : (echoed 4 .running 2).access? = none := by rw [access?, halt]; rfl
  obtain ⟨-, reads, -⟩ := effect echoes List.mem_cons_self
  obtain ⟨-, -, writes⟩ := effect (echoed 2 .running 1) (List.mem_cons_of_mem _ List.mem_cons_self)
  refine ⟨?_, steps, ?_, ?_⟩
  · rw [accesses, List.filterMap_cons_some comes, List.filterMap_cons_some goes,
      List.filterMap_cons_none stays, List.filterMap_nil]
  · rw [reads (by rw [input]; rfl), inPort]
    rfl
  · rw [writes (by rw [output]; rfl)]
    rfl

end Machine
end Intel8080
