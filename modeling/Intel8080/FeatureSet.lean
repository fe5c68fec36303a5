import Intel8080.Group
import Intel8080.Text.Blank

/-! Sets of instruction groups, and the lists of names in which they are written. The base group
is in every set. `parse` reads a list and `text` writes one. -/
namespace Intel8080

@[ext] structure FeatureSet where
  io : Bool := false
  interrupt : Bool := false
  restart : Bool := false
  decimal : Bool := false
  undocumented : Bool := false
  deriving DecidableEq, Inhabited

inductive FeatureError
  | unknown (word : String)
  | repeated (word : String)
  deriving DecidableEq

def FeatureError.message : FeatureError → String
  | .unknown word => "Unknown feature '" ++ word ++ "'"
  | .repeated word => "Cannot specify feature '" ++ word ++ "' twice"

namespace FeatureSet

def all : FeatureSet := ⟨true, true, true, true, true⟩

def minimal : FeatureSet := ⟨false, false, false, false, false⟩

def enables (s : FeatureSet) : Group → Bool
  | .base => true
  | .io => s.io
  | .interrupt => s.interrupt
  | .restart => s.restart
  | .decimal => s.decimal
  | .undocumented => s.undocumented

def enable (s : FeatureSet) : Group → FeatureSet
  | .base => s
  | .io => { s with io := true }
  | .interrupt => { s with interrupt := true }
  | .restart => { s with restart := true }
  | .decimal => { s with decimal := true }
  | .undocumented => { s with undocumented := true }

theorem ext_enables {s t : FeatureSet} (h : ∀ g, s.enables g = t.enables g) : s = t :=
  FeatureSet.ext (h .io) (h .interrupt) (h .restart) (h .decimal) (h .undocumented)

@[simp] theorem enables_all (g : Group) : all.enables g = true := by cases g <;> rfl

@[simp] theorem enables_minimal (g : Group) : minimal.enables g = decide (g = .base) := by
  cases g <;> rfl

@[simp] theorem enables_enable (s : FeatureSet) (g h : Group) :
    (s.enable g).enables h = (decide (h = g) || s.enables h) := by
  cases g <;> cases h <;> simp [enable, enables]

/-- Add the groups of a list of names to a set that has none of them yet. -/
def addNames (s : FeatureSet) : List (List Char) → Except FeatureError FeatureSet
  | [] => .ok s
  | word :: words =>
    match Group.named? word with
    | none => .error (.unknown (String.ofList word))
    | some g =>
      if s.enables g then .error (.repeated (String.ofList word)) else addNames (s.enable g) words

/-- The names of a list, without the blanks around them and without its empty places. -/
def namesOf (text : List Char) : List (List Char) :=
  ((text.splitOn ',').map Text.trim).filter (· ≠ [])

/-- Read `all`, `minimal`, or names of optional groups between commas, none of them twice. -/
def parse (text : String) : Except FeatureError FeatureSet :=
  if Text.trim text.toList = ['a', 'l', 'l'] then .ok all
  else if Text.trim text.toList = ['m', 'i', 'n', 'i', 'm', 'a', 'l'] then .ok minimal
  else addNames minimal (namesOf text.toList)

def text (s : FeatureSet) : String :=
  String.intercalate "," ((Group.optional.filter s.enables).map Group.name)

end FeatureSet
end Intel8080
