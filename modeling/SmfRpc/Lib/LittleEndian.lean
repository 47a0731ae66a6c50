import Mathlib

/-!
# Fixed-width little-endian byte strings

A `memcpy` of a packed struct on a little-endian machine, a `write_le` and a
`read_le` all move a number to or from a fixed number of bytes, lowest byte
first.  `leBytes w x` is the `w` bytes of `x`, and `leValue` reads a byte string
back as a number.

Two round trips carry every use of the codec:

* `leValue_leBytes`: the bytes read back give the number modulo `256 ^ w`, so a
  number below the width comes back unchanged;
* `leBytes_leValue`: every byte string is the encoding of the number it
  denotes, at its own length.

Nothing here is specific to one field width; the wire formats instantiate
`w` with 2 and 4.
-/

namespace LittleEndian

/-- The `w` lowest bytes of `x`, lowest first. -/
def leBytes : Nat → Nat → List UInt8
  | 0, _ => []
  | w + 1, x => UInt8.ofNat (x % 256) :: leBytes w (x / 256)

/-- The number a little-endian byte string denotes. -/
def leValue : List UInt8 → Nat
  | [] => 0
  | b :: bs => b.toNat + 256 * leValue bs

@[simp] theorem length_leBytes (w x : Nat) : (leBytes w x).length = w := by
  induction w generalizing x with
  | zero => rfl
  | succ w ih => simp [leBytes, ih]

/-- Reading back the bytes of `x` gives `x` modulo the width. -/
theorem leValue_leBytes (w x : Nat) : leValue (leBytes w x) = x % 256 ^ w := by
  induction w generalizing x with
  | zero => simp [leBytes, leValue, Nat.mod_one]
  | succ w ih =>
    rw [leBytes, leValue, ih, Nat.pow_succ', Nat.mod_mul]
    simp

/-- A number below the width survives the round trip. -/
@[simp] theorem leValue_leBytes_of_lt {w x : Nat} (h : x < 256 ^ w) :
    leValue (leBytes w x) = x := by
  rw [leValue_leBytes, Nat.mod_eq_of_lt h]

/-- Every byte string is the encoding of its own value. -/
theorem leBytes_leValue (bs : List UInt8) : leBytes bs.length (leValue bs) = bs := by
  induction bs with
  | nil => rfl
  | cons b bs ih =>
    have hb := b.toNat_lt
    have hmod : (b.toNat + 256 * leValue bs) % 256 = b.toNat := by omega
    have hdiv : (b.toNat + 256 * leValue bs) / 256 = leValue bs := by omega
    simp only [List.length_cons, leBytes, leValue, hmod, hdiv, ih]
    simp

end LittleEndian
