import Mathlib.Data.List.Basic
import Mathlib.Data.Nat.Bitwise
import Mathlib.Tactic.Ring

/-!
# Big-endian fields of byte strings

Wire formats write a number as its bytes, most significant first, by shifting
and masking, and read it back by shifting and or-ing. `byteAt` and `orShifted`
are these two expressions; `toBigEndian` and `ofBigEndian` are the positional
arithmetic they compute. A field of `k` bytes carries exactly the residue of the
number modulo `256 ^ k`, and distinct byte strings of one length carry distinct
numbers.
-/

namespace Bytes

/-- The cast of `(n >> (8 * k)) & 0xFF` to a byte. -/
def byteAt (n k : Nat) : UInt8 := UInt8.ofNat ((n >>> (8 * k)) &&& 0xFF)

theorem byteAt_toNat (n k : Nat) : (byteAt n k).toNat = n / 256 ^ k % 256 := by
  have hmask : (n >>> (8 * k)) &&& 0xFF = n >>> (8 * k) % 2 ^ 8 :=
    Nat.and_two_pow_sub_one_eq_mod _ 8
  have hshift : n >>> (8 * k) = n / 256 ^ k := by
    rw [Nat.shiftRight_eq_div_pow, Nat.pow_mul]
  rw [byteAt, hmask, hshift, UInt8.toNat_ofNat']
  omega

/-- The value of a byte string, most significant byte first. -/
def ofBigEndian : List UInt8 → Nat
  | [] => 0
  | b :: bs => b.toNat * 256 ^ bs.length + ofBigEndian bs

/-- The last `k` base-256 digits of `n`, most significant first. -/
def toBigEndian : Nat → Nat → List UInt8
  | 0, _ => []
  | k + 1, n => byteAt n k :: toBigEndian k n

/-- The or of all bytes, each shifted to its place: the last byte by zero. -/
def orShifted : List UInt8 → Nat
  | [] => 0
  | b :: bs => (b.toNat <<< (8 * bs.length)) ||| orShifted bs

@[simp] theorem toBigEndian_length (k n : Nat) : (toBigEndian k n).length = k := by
  induction k with
  | zero => rfl
  | succ k ih => simp [toBigEndian, ih]

theorem ofBigEndian_lt (bs : List UInt8) : ofBigEndian bs < 256 ^ bs.length := by
  induction bs with
  | nil => simp [ofBigEndian]
  | cons b bs ih =>
      have hb : b.toNat < 256 := b.toNat_lt
      have hmul : b.toNat * 256 ^ bs.length ≤ 255 * 256 ^ bs.length :=
        Nat.mul_le_mul_right _ (by omega)
      simp only [ofBigEndian, List.length_cons, Nat.pow_succ]
      omega

/-- Or-ing shifted bytes adds them, since no two of them share a bit. -/
theorem orShifted_eq (bs : List UInt8) : orShifted bs = ofBigEndian bs := by
  induction bs with
  | nil => rfl
  | cons b bs ih =>
      have hlt : ofBigEndian bs < 2 ^ (8 * bs.length) := by
        have h := ofBigEndian_lt bs
        rwa [show (256 : Nat) = 2 ^ 8 from rfl, ← Nat.pow_mul] at h
      rw [orShifted, ih, ← Nat.shiftLeft_add_eq_or_of_lt hlt, Nat.shiftLeft_eq, ofBigEndian,
        Nat.pow_mul]

/-- A field of `k` bytes keeps the number modulo `256 ^ k`. -/
theorem ofBigEndian_toBigEndian (k n : Nat) : ofBigEndian (toBigEndian k n) = n % 256 ^ k := by
  induction k with
  | zero => simp [toBigEndian, ofBigEndian, Nat.mod_one]
  | succ k ih =>
      rw [toBigEndian, ofBigEndian, ih, byteAt_toNat, toBigEndian_length, Nat.pow_succ,
        Nat.mod_mul]
      ring

theorem orShifted_toBigEndian {k n : Nat} (h : n < 256 ^ k) :
    orShifted (toBigEndian k n) = n := by
  rw [orShifted_eq, ofBigEndian_toBigEndian, Nat.mod_eq_of_lt h]

end Bytes
