/-! Columns: text filled up with blanks to a width, counted in characters. Longer text is left as
it is. -/
namespace Intel8080.Text

def padRight (width : Nat) (s : String) : String :=
  s ++ String.ofList (List.replicate (width - s.length) ' ')

def padLeft (width : Nat) (s : String) : String :=
  String.ofList (List.replicate (width - s.length) ' ') ++ s

@[simp] theorem padLeft_zero (s : String) : padLeft 0 s = s := by
  simp [padLeft]

theorem length_padRight (width : Nat) (s : String) :
    (padRight width s).length = max width s.length := by
  simp [padRight, String.length_append]; omega

theorem length_padLeft (width : Nat) (s : String) :
    (padLeft width s).length = max width s.length := by
  simp [padLeft, String.length_append]; omega

end Intel8080.Text
