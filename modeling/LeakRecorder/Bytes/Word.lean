/-
# LeakRecorder.Bytes.Word — fixed-width words

Every number of the stream is a fixed number of bytes, the least significant
first. `ofNat` writes a natural number at a width and `toNat` reads bytes back:
`toNat_ofNat` (the number modulo `count width`, so the number itself when it
fits) and `ofNat_toNat` say that the two undo each other.
-/
set_option autoImplicit false

namespace LeakRecorder

/-- A piece of a checkpoint. -/
abbrev Bytes := List UInt8

namespace Word

/-- The `width` lowest bytes of a number, the least significant first. -/
def ofNat : Nat → Nat → Bytes
  | 0, _ => []
  | width + 1, n => UInt8.ofNat n :: ofNat width (n / 256)

/-- The number that bytes spell, the least significant first. -/
def toNat : Bytes → Nat
  | [] => 0
  | b :: rest => b.toNat + 256 * toNat rest

/-- How many numbers a width can hold. -/
def count : Nat → Nat
  | 0 => 1
  | width + 1 => 256 * count width

@[simp] theorem length_ofNat (width n : Nat) : (ofNat width n).length = width := by
  induction width generalizing n with
  | zero => rfl
  | succ width ih => simp [ofNat, ih]

theorem toNat_lt (bytes : Bytes) : toNat bytes < count bytes.length := by
  induction bytes with
  | nil => simp [toNat, count]
  | cons b rest ih =>
    have byte := b.toNat_lt
    simp only [toNat, List.length_cons, count]
    omega

theorem toNat_ofNat (width n : Nat) : toNat (ofNat width n) = n % count width := by
  induction width generalizing n with
  | zero => simp [ofNat, toNat, count, Nat.mod_one]
  | succ width ih =>
    have low : (UInt8.ofNat n).toNat = n % 256 := UInt8.toNat_ofNat'
    rw [ofNat, toNat, ih, low, count, Nat.mod_mul]

theorem toNat_ofNat_of_lt {width n : Nat} (fits : n < count width) :
    toNat (ofNat width n) = n := by
  rw [toNat_ofNat, Nat.mod_eq_of_lt fits]

/-- Only the part that fits the width is written. -/
theorem ofNat_mod (width n : Nat) : ofNat width (n % count width) = ofNat width n := by
  induction width generalizing n with
  | zero => rfl
  | succ width ih =>
    have low : UInt8.ofNat (n % (256 * count width)) = UInt8.ofNat n := by
      apply UInt8.toNat_inj.mp
      rw [UInt8.toNat_ofNat', UInt8.toNat_ofNat']
      exact Nat.mod_mul_right_mod n 256 (count width)
    rw [count, ofNat, ofNat, low, Nat.mod_mul_right_div_self, ih]

theorem ofNat_toNat (bytes : Bytes) : ofNat bytes.length (toNat bytes) = bytes := by
  induction bytes with
  | nil => rfl
  | cons b rest ih =>
    have byte := b.toNat_lt
    have low : UInt8.ofNat (b.toNat + 256 * toNat rest) = b := by
      apply UInt8.toNat_inj.mp
      rw [UInt8.toNat_ofNat']
      omega
    have high : (b.toNat + 256 * toNat rest) / 256 = toNat rest := by omega
    simp [ofNat, toNat, low, high, ih]

end Word

end LeakRecorder
