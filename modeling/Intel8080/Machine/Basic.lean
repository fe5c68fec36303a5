import Intel8080.FeatureSet
import Intel8080.Opcode.Basic
import Intel8080.Ports.Basic
import Intel8080.Processor.Execute

/-! A machine: a processor with a device at its ports, a set of enabled instruction groups, and
the bounds of the program that was loaded. `step` executes one instruction, `interrupt` serves a
request, and `load` places a program. A machine that met an opcode of a disabled group stays as it
is for ever. -/
namespace Intel8080

/-- An opcode that the machine does not execute, and where it stood. -/
structure Fault where
  address : Word
  code : Byte
  mnemonic : String
  deriving DecidableEq

/-- What the machine is doing. A halted machine waits for an interrupt. -/
inductive Status
  | running
  | halted
  | faulted (fault : Fault)
  deriving DecidableEq

/-- A processor at work, with a device of type `σ` at its ports. -/
structure Machine (σ : Type) where
  processor : Processor
  ports : σ
  features : FeatureSet := .all
  status : Status := .running
  programStart : Nat := 0
  /-- One past the address of the last byte of the program. -/
  programEnd : Nat := 0
  /-- Control passed the last address of memory without a jump. -/
  wrapped : Bool := false
  steps : Nat := 0

namespace Machine
variable {σ : Type}

def ofPorts (ports : σ) : Machine σ := { processor := {}, ports }

/-- Place a program in memory and point the program counter at it. Nothing changes if it does not
fit. -/
def load (m : Machine σ) (image : List Byte) (base : Word) : Except TooLarge (Machine σ) :=
  (m.processor.load image base).map fun p =>
    { m with
      processor := { p with pc := base }
      programStart := base.toNat
      programEnd := base.toNat + image.length
      wrapped := false }

def ofImage (ports : σ) (image : List Byte) (base : Word) : Except TooLarge (Machine σ) :=
  (ofPorts ports).load image base

/-- The program counter has left the program. -/
def atEnd (m : Machine σ) : Bool :=
  m.wrapped ||
    !decide (m.programStart ≤ m.processor.pc.toNat ∧ m.processor.pc.toNat < m.programEnd)

def opcode (m : Machine σ) : Opcode := .lookup (m.processor.memory.read m.processor.pc)

def operand (m : Machine σ) : Word := m.processor.memory.readWord (m.processor.pc + 1)

/-- The fault that the opcode at the program counter is for a machine that lacks its group. -/
def fault (m : Machine σ) : Fault where
  address := m.processor.pc
  code := m.opcode.code
  mnemonic := m.opcode.mnemonic

def perform [Ports σ] (p : Processor) (ports : σ) (operand next : Word) :
    Instruction → Processor × σ × Flow
  | .input =>
    let (a, ports) := Ports.input ports operand.lo
    ({ p with a }, ports, .next)
  | .output => (p, Ports.output ports operand.lo p.a, .next)
  | i =>
    let (p, flow) := p.execute operand next i
    (p, ports, flow)

/-- An instruction of the given length at an address reaches the last address of memory. -/
def reachesTop (pc : Word) (length : Nat) : Bool := decide (0xFFFF < pc.toNat + length)

def execute [Ports σ] (m : Machine σ) : Machine σ :=
  let pc := m.processor.pc
  let length := m.opcode.length
  let next := pc + BitVec.ofNat 16 length
  let (p, ports, flow) := perform m.processor m.ports m.operand next m.opcode.instruction
  { m with
    processor := { p with pc := flow.target next }
    ports
    status := if flow = .halt then .halted else m.status
    wrapped := m.wrapped || (flow.fallsThrough && reachesTop pc length)
    steps := m.steps + 1 }

/-- Execute one instruction, or fault if its group is disabled. A machine that is not running does
nothing. -/
def step [Ports σ] (m : Machine σ) : Machine σ :=
  if m.status = .running then
    if m.features.enables m.opcode.group then m.execute else { m with status := .faulted m.fault }
  else m

/-- Request an interrupt, of whose vector three bits count. It is accepted if interrupts are
enabled and the machine has not faulted, and then disables interrupts and calls the restart
address. -/
def interrupt (m : Machine σ) (vector : Byte) : Bool × Machine σ :=
  match m.processor.interrupts, m.status with
  | false, _ | _, .faulted _ => (false, m)
  | true, _ =>
    let p := m.processor.push m.processor.pc
    (true, { m with
      processor := { p with interrupts := false, pc := restartAddress (vector.setWidth 3) }
      status := .running })

@[simp] theorem step_halted [Ports σ] {m : Machine σ} (h : m.status = .halted) : m.step = m := by
  simp [step, h]

@[simp] theorem step_faulted [Ports σ] {m : Machine σ} {f : Fault} (h : m.status = .faulted f) :
    m.step = m := by
  simp [step, h]

end Machine
end Intel8080
