import Mathlib.Algebra.Group.Nat.Defs
import Mathlib.Data.List.Basic

/-
  Numbers in memory: their bytes in either order, and buffers
  into which they are stored.

  Key definitions include:
    * `leBytes`
    * `beBytes`
    * `beValue`
    * `byteSwap`
    * `store`

  Key theorems include:
    * `beValue_beBytes`
    * `leBytes_byteSwap`
    * `store_zeros`
-/

------------------------------------------------------------
-- Orders Of Bytes
------------------------------------------------------------

namespace Feng

/- The bytes of a number, the lowest first. -/
def leBytes : Nat → Nat → List UInt8
| 0, _ => []
| width + 1, n => UInt8.ofNat n :: leBytes width (n / 256)

/- The bytes of a number, the highest first. -/
def beBytes (width n : Nat) : List UInt8 :=
  (leBytes width n).reverse

def leValue : List UInt8 → Nat
| [] => 0
| b :: bytes => b.toNat + 256 * leValue bytes

def beValue (bytes : List UInt8) : Nat :=
  leValue bytes.reverse

/- The number whose bytes are those of another, reversed. -/
def byteSwap (width n : Nat) : Nat :=
  beValue (leBytes width n)

theorem leBytes_length (width n : Nat) :
    (leBytes width n).length = width := by
  induction width generalizing n with
  | zero => rfl
  | succ width ih =>
      rw [leBytes, List.length_cons, ih]

theorem beBytes_length (width n : Nat) :
    (beBytes width n).length = width := by
  rw [beBytes, List.length_reverse, leBytes_length]

/- Numbers are read back, as far as their bytes go. -/
theorem leValue_leBytes (width n : Nat) :
    leValue (leBytes width n) = n % 256 ^ width := by
  induction width generalizing n with
  | zero =>
      rw [Nat.pow_zero, Nat.mod_one]
      rfl
  | succ width ih =>
      have hByte : (UInt8.ofNat n).toNat = n % 256 :=
        UInt8.toNat_ofNat'
      rw [leBytes, leValue, ih, hByte, Nat.pow_succ,
        Nat.mul_comm (256 ^ width), Nat.mod_mul]

theorem beValue_beBytes (width n : Nat) :
    beValue (beBytes width n) = n % 256 ^ width := by
  rw [beValue, beBytes, List.reverse_reverse,
    leValue_leBytes]

/- Bytes are what their number is stored as. -/
theorem leBytes_leValue (bytes : List UInt8) :
    leBytes bytes.length (leValue bytes) = bytes := by
  induction bytes with
  | nil => rfl
  | cons b bytes ih =>
      have hBound := UInt8.toNat_lt b
      have hHead :
          UInt8.ofNat (b.toNat + 256 * leValue bytes) = b := by
        apply UInt8.toNat.inj
        rw [UInt8.toNat_ofNat']
        omega
      have hTail :
          (b.toNat + 256 * leValue bytes) / 256 =
            leValue bytes := by
        omega
      rw [List.length_cons, leValue, leBytes, hHead, hTail,
        ih]

/- A swapped number is stored in the other order. -/
theorem leBytes_byteSwap (width n : Nat) :
    leBytes width (byteSwap width n) = beBytes width n := by
  have hBack := leBytes_leValue (leBytes width n).reverse
  rw [List.length_reverse, leBytes_length] at hBack
  exact hBack

end Feng

------------------------------------------------------------
-- Buffers
------------------------------------------------------------

namespace Feng

/- Overwrite the bytes of a buffer from a place on. -/
def store
    (buffer : List UInt8)
    (place : Nat)
    (bytes : List UInt8) : List UInt8 :=
  buffer.take place ++ bytes ++
    buffer.drop (place + bytes.length)

/- All zeros. -/
def zeros (n : Nat) : List UInt8 :=
  List.replicate n 0

/- What is stored next to what was stored before. -/
theorem store_zeros
    {written bytes : List UInt8}
    {place n : Nat}
    (hPlace : place = written.length) :
    store (written ++ zeros n) place bytes =
      (written ++ bytes) ++ zeros (n - bytes.length) := by
  subst hPlace
  unfold store zeros
  rw [List.take_left, ← List.drop_drop, List.drop_left,
    List.drop_replicate]

end Feng
