import Intel8080.Word

/-! Hexadecimal digits. Bytes and words have lower-case digits in their full width; numbers in
messages have upper-case digits and at least a given width. -/
namespace Intel8080.Text

def hexDigit (n : Nat) : Char := Nat.digitChar n

def hexValue? (c : Char) : Option Nat :=
  if '0' ≤ c ∧ c ≤ '9' then some (c.toNat - '0'.toNat)
  else if 'a' ≤ c ∧ c ≤ 'f' then some (c.toNat - 'a'.toNat + 10)
  else if 'A' ≤ c ∧ c ≤ 'F' then some (c.toNat - 'A'.toNat + 10)
  else none

theorem hexValue?_hexDigit : ∀ n < 16, hexValue? (hexDigit n) = some n := by
  decide

def hexByte (b : Byte) : List Char := [hexDigit (b.toNat / 16), hexDigit (b.toNat % 16)]

def hexWord (w : Word) : List Char := hexByte w.hi ++ hexByte w.lo

@[simp] theorem length_hexByte (b : Byte) : (hexByte b).length = 2 := rfl

@[simp] theorem length_hexWord (w : Word) : (hexWord w).length = 4 := rfl

theorem hexByte_injective {a b : Byte} (h : hexByte a = hexByte b) : a = b := by
  have ha := a.isLt
  have hb := b.isLt
  simp only [hexByte, List.cons.injEq, and_true] at h
  have hi := congrArg hexValue? h.1
  have lo := congrArg hexValue? h.2
  rw [hexValue?_hexDigit _ (by omega), hexValue?_hexDigit _ (by omega)] at hi lo
  apply BitVec.eq_of_toNat_eq
  simp only [Option.some.injEq] at hi lo
  omega

theorem hexWord_injective {v w : Word} (h : hexWord v = hexWord w) : v = w := by
  obtain ⟨hi, lo⟩ := List.append_inj h rfl
  rw [← v.ofBytes_hi_lo, ← w.ofBytes_hi_lo, hexByte_injective hi, hexByte_injective lo]

def upperHex (width n : Nat) : String :=
  let digits := (Nat.toDigits 16 n).map Char.toUpper
  String.ofList (List.replicate (width - digits.length) '0' ++ digits)

end Intel8080.Text
