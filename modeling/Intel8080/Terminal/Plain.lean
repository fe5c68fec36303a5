/-! Plain text for what is no terminal: escape sequences and control characters are left out, and
white space is kept. White space inside a sequence breaks it off, and what follows is kept too, up
to the next control character. There the sequence goes on, unless a character beyond ASCII came
between. -/
namespace Intel8080.Terminal

inductive Mode
  | ground
  | escape
  | intermediate
  /-- In a control sequence, which ends with a character from `@` to `~`. -/
  | control
  /-- In a command, which ends with a bell. -/
  | command
  | device
  | deviceParameter
  | deviceIntermediate
  /-- In a string or behind the head of a device string, which both end with the byte 9C. -/
  | string
  deriving DecidableEq

namespace Mode

/-- Where the next character stands. An escape character begins a new sequence everywhere, and a
cancel or a substitute character ends one. -/
def next (m : Mode) (c : Char) : Mode :=
  if c = '\x1b' then .escape
  else if c = '\x18' ∨ c = '\x1a' then .ground
  else match m with
    | .ground => .ground
    | .escape =>
      if c = '[' then .control
      else if c = ']' then .command
      else if c = 'P' then .device
      else if c = 'X' ∨ c = '^' ∨ c = '_' then .string
      else if ' ' ≤ c ∧ c ≤ '/' then .intermediate
      else if '0' ≤ c ∧ c ≤ '~' then .ground
      else .escape
    | .intermediate => if '0' ≤ c ∧ c ≤ '~' then .ground else .intermediate
    | .control => if '@' ≤ c ∧ c ≤ '~' then .ground else .control
    | .command => if c = '\x07' then .ground else .command
    | .device =>
      if ' ' ≤ c ∧ c ≤ '/' then .deviceIntermediate
      else if '0' ≤ c ∧ c ≤ '?' then .deviceParameter
      else if '@' ≤ c ∧ c ≤ '~' then .string
      else .device
    | .deviceParameter =>
      if ' ' ≤ c ∧ c ≤ '/' then .deviceIntermediate
      else if '<' ≤ c ∧ c ≤ '~' then .string
      else .deviceParameter
    | .deviceIntermediate => if '0' ≤ c ∧ c ≤ '~' then .string else .deviceIntermediate
    | .string => if (String.utf8EncodeChar c).contains 0x9C then .ground else .string

/-- White space breaks off a sequence, but neither a command nor a string or its head. -/
def isBreakable : Mode → Bool
  | .escape | .intermediate | .control => true
  | _ => false

end Mode

def isSpaceControl (c : Char) : Bool := c == '\t' || c == '\n' || c == '\x0c' || c == '\x0d'

def isPlain (c : Char) : Bool := isSpaceControl c || (' ' ≤ c && c != '\x7f')

/-- What is kept of a text. `broken` says that a sequence was broken off. -/
def plainFrom (m : Mode) (broken : Bool) : List Char → List Char
  | [] => []
  | c :: rest =>
    if m = .ground ∨ broken then
      if isPlain c then c :: plainFrom (if c.toNat < 0x80 then m else .ground) broken rest
      else plainFrom (m.next c) false rest
    else if m.isBreakable && isSpaceControl c then c :: plainFrom m true rest
    else plainFrom (m.next c) false rest

def plain (s : String) : String := String.ofList (plainFrom .ground false s.toList)

theorem plainFrom_append_of_isPlain {s : List Char} (h : ∀ c ∈ s, isPlain c) (t : List Char) :
    plainFrom .ground false (s ++ t) = s ++ plainFrom .ground false t := by
  induction s with
  | nil => rfl
  | cons c rest ih =>
    simp only [List.mem_cons, forall_eq_or_imp] at h
    simp [plainFrom, h.1, ih h.2]

theorem plain_eq_self {s : String} (h : ∀ c ∈ s.toList, isPlain c) : plain s = s := by
  have := plainFrom_append_of_isPlain h []
  simp_all [plain, plainFrom]

theorem isPlain_of_mem_plainFrom {m : Mode} {broken : Bool} {s : List Char} {c : Char}
    (h : c ∈ plainFrom m broken s) : isPlain c := by
  induction s generalizing m broken with
  | nil => simp [plainFrom] at h
  | cons d rest ih =>
    rw [plainFrom] at h
    split at h
    · split at h
      · rcases List.mem_cons.1 h with rfl | h
        · assumption
        · exact ih h
      · exact ih h
    · split at h
      · rename_i hd
        rcases List.mem_cons.1 h with rfl | h
        · simp only [Bool.and_eq_true] at hd
          simp [isPlain, hd.2]
        · exact ih h
      · exact ih h

end Intel8080.Terminal
