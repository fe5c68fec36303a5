import Intel8080.Opcode.Basic

/-! Machine code as a sequence of records, one for each instruction, in the order of the bytes.
Each record takes the operand bytes that its opcode asks for, and the last one takes what is left.
-/
namespace Intel8080

/-- An instruction as it stands among the bytes. -/
structure Record where
  address : Word
  opcode : Opcode
  /-- The bytes after the opcode byte. They are fewer than declared where the input ends early. -/
  operands : List Byte
  deriving DecidableEq

namespace Record

def truncated (r : Record) : Bool := decide (r.operands.length + 1 < r.opcode.length)

def byte? (r : Record) : Option Byte :=
  match r.operands with
  | [value] => if r.opcode.length = 2 then some value else none
  | _ => none

def word? (r : Record) : Option Word :=
  match r.operands with
  | [low, high] => some (.ofBytes high low)
  | _ => none

def bytes (r : Record) : List Byte := r.opcode.code :: r.operands

end Record

/-- The bytes that are still to be read, and the address of the first of them. -/
structure Disassembly where
  rest : List Byte
  address : Word
  deriving DecidableEq

namespace Disassembly

def next? (d : Disassembly) : Option (Record × Disassembly) :=
  match d.rest with
  | [] => none
  | code :: rest =>
    let opcode := Opcode.lookup code
    let count := opcode.length - 1
    some (⟨d.address, opcode, rest.take count⟩,
      ⟨rest.drop count, d.address + BitVec.ofNat 16 opcode.length⟩)

theorem length_next? {d e : Disassembly} {r : Record} (h : d.next? = some (r, e)) :
    e.rest.length < d.rest.length := by
  obtain ⟨rest, address⟩ := d
  cases rest with
  | nil => simp [next?] at h
  | cons code rest =>
    simp only [next?, Option.some.injEq, Prod.mk.injEq] at h
    obtain ⟨-, rfl⟩ := h
    simp only [List.length_drop, List.length_cons]
    omega

def collect (read : Array Record) (d : Disassembly) : Array Record :=
  match _front : d.next? with
  | none => read
  | some (r, e) => collect (read.push r) e
  termination_by d.rest.length
  decreasing_by exact length_next? _front

def records (d : Disassembly) : List Record := (collect #[] d).toList

theorem toList_collect (read : Array Record) (d : Disassembly) :
    (collect read d).toList = read.toList ++ d.records := by
  induction hn : d.rest.length using Nat.strongRecOn generalizing read d with
  | ind n ih =>
    rw [records, collect, collect]
    split
    · simp
    · rename_i r e h
      have hlt := hn ▸ length_next? h
      rw [ih _ hlt _ _ rfl, ih _ hlt _ _ rfl]
      simp

theorem records_of_none {d : Disassembly} (h : d.next? = none) : d.records = [] := by
  rw [records, collect]
  split <;> simp_all

theorem records_of_some {d e : Disassembly} {r : Record} (h : d.next? = some (r, e)) :
    d.records = r :: e.records := by
  rw [records, collect]
  split
  · simp_all
  · rename_i r' e' h'
    obtain ⟨rfl, rfl⟩ : r = r' ∧ e = e' := by simpa [h] using h'
    simp [toList_collect]

end Disassembly

def disassemble (bytes : List Byte) (base : Word) : List Record :=
  (Disassembly.mk bytes base).records

@[simp] theorem disassemble_nil (base : Word) : disassemble [] base = [] :=
  Disassembly.records_of_none rfl

theorem disassemble_cons (code : Byte) (rest : List Byte) (base : Word) :
    disassemble (code :: rest) base =
      let opcode := Opcode.lookup code
      ⟨base, opcode, rest.take (opcode.length - 1)⟩ ::
        disassemble (rest.drop (opcode.length - 1)) (base + BitVec.ofNat 16 opcode.length) :=
  Disassembly.records_of_some rfl

end Intel8080
