/-! Bytes, sixteen-bit words and the two halves of a word. `ofBytes`, `hi` and `lo` are one
bijection read in both directions, and a word counts 256 for each unit of its high byte. -/
namespace Intel8080

abbrev Byte := BitVec 8

abbrev Word := BitVec 16

namespace Word

def ofBytes (hi lo : Byte) : Word := hi ++ lo

def hi (w : Word) : Byte := w.extractLsb' 8 8

def lo (w : Word) : Byte := w.extractLsb' 0 8

@[simp] theorem hi_ofBytes (h l : Byte) : (ofBytes h l).hi = h :=
  BitVec.extractLsb'_append_eq_left

@[simp] theorem lo_ofBytes (h l : Byte) : (ofBytes h l).lo = l :=
  BitVec.extractLsb'_append_eq_right

@[simp] theorem ofBytes_hi_lo (w : Word) : ofBytes w.hi w.lo = w :=
  BitVec.extractLsb'_append_extractLsb'

theorem toNat_hi (w : Word) : w.hi.toNat = w.toNat / 256 := by
  simp [hi, BitVec.extractLsb'_toNat, Nat.shiftRight_eq_div_pow]; omega

theorem toNat_lo (w : Word) : w.lo.toNat = w.toNat % 256 := by
  simp [lo, BitVec.extractLsb'_toNat]

theorem toNat_ofBytes (h l : Byte) : (ofBytes h l).toNat = 256 * h.toNat + l.toNat := by
  have hw := (ofBytes h l).toNat_hi
  have lw := (ofBytes h l).toNat_lo
  simp only [hi_ofBytes, lo_ofBytes] at hw lw
  omega

theorem toNat_add_one (w : Word) : (w + 1).toNat = (w.toNat + 1) % 65536 :=
  BitVec.toNat_add w 1

end Word
end Intel8080
