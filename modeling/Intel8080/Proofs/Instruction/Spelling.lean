import Intel8080.Instruction.Text
import Mathlib.Data.List.Nodup

/-! How instructions are spelled. The mnemonic tells the form of an instruction, which is the
instruction without the registers, the pair or the restart that are named behind it. The names tell
the rest, so that no two instructions are spelled alike. -/
namespace Intel8080

def Text.IsWord (s : List Char) : Prop := ∀ c ∈ s, c.isAlphanum = true

instance (s : List Char) : Decidable (Text.IsWord s) := List.decidableBAll _ s

def Register.named? (name : String) : Option Register := all.toList.find? (·.name == name)

theorem Register.named?_name (r : Register) : named? r.name = some r := by
  cases r <;> decide

def Pair.named? (name : String) : Option Pair :=
  [.bc, .de, .hl, .sp, .psw].find? fun rp : Pair => rp.name == name

theorem Pair.named?_name (rp : Pair) : named? rp.name = some rp := by
  cases rp <;> decide

def restartNamed? (name : String) : Option (BitVec 3) :=
  ((List.range 8).map (BitVec.ofNat 3)).find? fun vector => toString vector.toNat == name

theorem restartNamed?_toString (vector : BitVec 3) :
    restartNamed? (toString vector.toNat) = some vector := by
  revert vector
  decide

namespace Instruction

/-- The registers, the pair or the restart that are named behind the mnemonic. -/
def names : Instruction → List String
  | .mov dest src => [dest.name, src.name]
  | .mvi r | .inr r | .dcr r | .alu _ r => [r.name]
  | .lxi rp | .stax rp | .ldax rp | .inx rp | .dcx rp | .dad rp | .push rp | .pop rp => [rp.name]
  | .rst vector => [toString vector.toNat]
  | _ => []

def form : Instruction → Instruction
  | .mov _ _ => .mov .b .b
  | .mvi _ => .mvi .b
  | .lxi _ => .lxi .bc
  | .stax _ => .stax .bc
  | .ldax _ => .ldax .bc
  | .inr _ => .inr .b
  | .dcr _ => .dcr .b
  | .inx _ => .inx .bc
  | .dcx _ => .dcx .bc
  | .dad _ => .dad .bc
  | .alu op _ => .alu op .b
  | .rst _ => .rst 0
  | .push _ => .push .bc
  | .pop _ => .pop .bc
  | i => i

/-- The instruction of a form with the names behind its mnemonic. -/
def withNames? : Instruction → List String → Option Instruction
  | .mov _ _, [dest, src] => do
    return .mov (← Register.named? dest) (← Register.named? src)
  | .mvi _, [r] => (Register.named? r).map .mvi
  | .inr _, [r] => (Register.named? r).map .inr
  | .dcr _, [r] => (Register.named? r).map .dcr
  | .alu op _, [r] => (Register.named? r).map (.alu op)
  | .lxi _, [rp] => (Pair.named? rp).map .lxi
  | .stax _, [rp] => (Pair.named? rp).map .stax
  | .ldax _, [rp] => (Pair.named? rp).map .ldax
  | .inx _, [rp] => (Pair.named? rp).map .inx
  | .dcx _, [rp] => (Pair.named? rp).map .dcx
  | .dad _, [rp] => (Pair.named? rp).map .dad
  | .push _, [rp] => (Pair.named? rp).map .push
  | .pop _, [rp] => (Pair.named? rp).map .pop
  | .rst _, [vector] => (restartNamed? vector).map .rst
  | i, _ => some i

theorem withNames?_form (i : Instruction) : i.form.withNames? i.names = some i := by
  cases i with
  | mov dest src => simp [form, names, withNames?, Register.named?_name]
  | mvi r | inr r | dcr r | alu _ r => simp [form, names, withNames?, Register.named?_name]
  | rst vector =>
    rw [form, names, withNames?, restartNamed?_toString]
    rfl
  | lxi rp | stax rp | ldax rp | inx rp | dcx rp | dad rp | push rp | pop rp =>
    simp [form, names, withNames?, Pair.named?_name]
  | _ => rfl

def forms : List Instruction :=
  [.nop, .hlt, .mov .b .b, .mvi .b, .lxi .bc, .stax .bc, .ldax .bc, .sta, .lda, .shld, .lhld,
    .xchg, .inr .b, .dcr .b, .inx .bc, .dcx .bc, .dad .bc, .daa, .rlc, .rrc, .ral, .rar, .cma,
    .stc, .cmc, .jmp, .call, .ret, .rst 0, .pchl, .push .bc, .pop .bc, .xthl, .sphl, .input,
    .output, .ei, .di] ++
  AluOp.all.toList.flatMap (fun op => [.alu op .b, .aluImm op]) ++
  Condition.all.toList.flatMap fun cond => [.jmpIf cond, .callIf cond, .retIf cond]

theorem form_mem_forms (i : Instruction) : i.form ∈ forms := by
  cases i with
  | alu op src =>
    rw [form]
    cases op <;> decide
  | aluImm op => cases op <;> decide
  | jmpIf cond | callIf cond | retIf cond => cases cond <;> decide
  | _ => simp [form, forms]

theorem mnemonic_form (i : Instruction) : i.form.mnemonic = i.mnemonic := by
  cases i <;> rfl

theorem operandCount_form (i : Instruction) : i.form.operandCount = i.operandCount := by
  cases i <;> rfl

theorem nodup_mnemonics : (forms.map mnemonic).Nodup := by
  decide +kernel

theorem form_eq_of_mnemonic_eq {i j : Instruction} (h : i.mnemonic = j.mnemonic) :
    i.form = j.form := by
  apply List.inj_on_of_nodup_map nodup_mnemonics i.form_mem_forms j.form_mem_forms
  rw [mnemonic_form, mnemonic_form, h]

/-- No two instructions are spelled alike. -/
theorem eq_of_spelling {i j : Instruction} (mnemonic : i.mnemonic = j.mnemonic)
    (names : i.names = j.names) : i = j := by
  have read := i.withNames?_form
  rw [form_eq_of_mnemonic_eq mnemonic, names, withNames?_form] at read
  exact (Option.some.inj read).symm

theorem isWord_mnemonic (i : Instruction) : Text.IsWord i.mnemonic.toList := by
  cases i with
  | alu op src =>
    rw [mnemonic]
    cases op <;> decide
  | aluImm op => cases op <;> decide
  | jmpIf cond | callIf cond | retIf cond => cases cond <;> decide
  | _ => simp only [mnemonic]; decide

theorem isWord_of_mem_names {i : Instruction} {name : String} (h : name ∈ i.names) :
    Text.IsWord name.toList ∧ name.toList ≠ [] := by
  have register (r : Register) : Text.IsWord r.name.toList ∧ r.name.toList ≠ [] := by
    cases r <;> decide
  have pair (rp : Pair) : Text.IsWord rp.name.toList ∧ rp.name.toList ≠ [] := by
    cases rp <;> decide
  have restart : ∀ vector : BitVec 3, Text.IsWord (toString vector.toNat).toList ∧
      (toString vector.toNat).toList ≠ [] := by
    decide
  cases i with
  | mov dest src =>
    rcases List.mem_pair.mp h with rfl | rfl
    · exact register dest
    · exact register src
  | mvi r | inr r | dcr r | alu _ r =>
    rw [List.mem_singleton.mp h]
    exact register r
  | lxi rp | stax rp | ldax rp | inx rp | dcx rp | dad rp | push rp | pop rp =>
    rw [List.mem_singleton.mp h]
    exact pair rp
  | rst vector =>
    rw [List.mem_singleton.mp h]
    exact restart vector
  | _ => exact absurd h List.not_mem_nil

end Instruction
end Intel8080
