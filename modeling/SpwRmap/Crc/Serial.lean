import Mathlib.Algebra.Field.ZMod
import Mathlib.Tactic.ComputeDegree
import SpwRmap.Crc.Linear
import SpwRmap.Lib.Division

/-!
# The checksum as a division, bit by bit

The RMAP checksum takes the bits of each byte one after another, least significant bit
first. A bit is added to the low end of the register, the register moves right, and the
polynomial is added when a one has moved out. The table of `crc.cc` does eight of these
steps at a time.

Read backwards, the register is a polynomial over the field with two elements, and each
step divides by `x ^ 8 + x ^ 2 + x + 1`. So the checksum is a remainder of the polynomial
of the message.
-/

namespace SpwRmap.crc

open Bits

/-- A bit as a byte. -/
def ofBit (bit : Bool) : UInt8 := if bit then 1 else 0

/-- One bit of the message enters the register. -/
def serialBit (crc : UInt8) (bit : Bool) : UInt8 := shiftBit (crc ^^^ ofBit bit)

/-- The checksum bit by bit, without a table. -/
def serialCRC (data : List UInt8) (crc : UInt8) : UInt8 := (ofBytes data).foldl serialBit crc

/-- What is in the register beforehand is shifted along with the bits. -/
theorem foldl_serialBit_xor (bits : List Bool) (a b : UInt8) :
    bits.foldl serialBit (a ^^^ b) = shiftByte bits.length a ^^^ bits.foldl serialBit b := by
  induction bits generalizing a b with
  | nil => rfl
  | cons bit bits ih =>
      have hstep : serialBit (a ^^^ b) bit = shiftBit a ^^^ serialBit b bit := by
        rw [serialBit, UInt8.xor_assoc, shiftBit_xor, serialBit]
      rw [List.foldl_cons, hstep, ih]
      rfl

/-- The bits of a byte leave the register as the table has it for that byte. -/
theorem foldl_serialBit_ofByte (byte : UInt8) :
    (ofByte byte).foldl serialBit 0 = shiftByte 8 byte := by
  have hbyte : ∀ i : Fin 256, (ofByte (UInt8.ofFin i)).foldl serialBit 0 =
      shiftByte 8 (UInt8.ofFin i) := by
    decide +kernel
  exact hbyte byte.toFin

theorem crcStep_eq_serial (crc byte : UInt8) :
    crcStep crc byte = (ofByte byte).foldl serialBit crc := by
  have hsplit := foldl_serialBit_xor (ofByte byte) crc 0
  rw [UInt8.xor_zero, ofByte_length, foldl_serialBit_ofByte] at hsplit
  rw [crcStep_eq_shiftByte, shiftByte_xor, hsplit]

/-- By induction on the bytes. -/
theorem calcCRC_eq_serial (data : List UInt8) (crc : UInt8) :
    calcCRC data crc = serialCRC data crc := by
  induction data generalizing crc with
  | nil => rfl
  | cons byte data ih =>
      have hrest := ih (crcStep crc byte)
      rw [serialCRC, ofBytes_cons, List.foldl_append, ← crcStep_eq_serial]
      exact hrest

/-- The table-driven checksum is the serial one, for every initial value. It is linear over
the exclusive or of strings of one length, and a string may be taken in parts. -/
theorem calcCRC_serial :
    (∀ data crc, calcCRC data crc = serialCRC data crc) ∧
    (∀ xs ys crc crc', xs.length = ys.length →
      calcCRC (xorBytes xs ys) (crc ^^^ crc') = calcCRC xs crc ^^^ calcCRC ys crc') ∧
    ∀ xs ys crc, calcCRC (xs ++ ys) crc = calcCRC ys (calcCRC xs crc) :=
  ⟨calcCRC_eq_serial, fun _ _ crc crc' h => calcCRC_xor h crc crc', calcCRC_append⟩

/-- Two strings of two bytes. -/
theorem calcCRC_serial_twoBytes :
    calcCRC (xorBytes [0x12, 0x34] [0x56, 0x78]) (0x9A ^^^ 0xBC) =
      calcCRC [0x12, 0x34] 0x9A ^^^ calcCRC [0x56, 0x78] 0xBC :=
  calcCRC_serial.2.1 [0x12, 0x34] [0x56, 0x78] 0x9A 0xBC rfl

section Remainder

open Polynomial Division

noncomputable def generator : (ZMod 2)[X] := X ^ 8 + X ^ 2 + X + 1

def coefficient (bit : Bool) : ZMod 2 := if bit then 1 else 0

/-- The low end of the register holds the highest coefficient. -/
noncomputable def registerPolynomial (crc : UInt8) : (ZMod 2)[X] :=
  ∑ k ∈ Finset.range 8, C (coefficient (crc.toNat.testBit k)) * X ^ (7 - k)

theorem coefficient_xor (a b : Bool) :
    coefficient (a ^^ b) = coefficient a + coefficient b := by
  revert a b
  decide

theorem registerPolynomial_xor (a b : UInt8) :
    registerPolynomial (a ^^^ b) = registerPolynomial a + registerPolynomial b := by
  simp only [registerPolynomial, UInt8.toNat_xor, Nat.testBit_xor, coefficient_xor, map_add,
    add_mul, Finset.sum_add_distrib]

/-- The register moved right, and the coefficient that moved out. -/
theorem registerPolynomial_shift (crc : UInt8) :
    X * registerPolynomial crc = registerPolynomial (crc >>> 1) +
      C (coefficient (crc.toNat.testBit 0)) * X ^ 8 := by
  have hbit : ∀ k, (crc >>> 1).toNat.testBit k = crc.toNat.testBit (k + 1) := by
    intro k
    simp [UInt8.toNat_shiftRight, Nat.testBit_shiftRight, Nat.add_comm]
  have htop : crc.toNat.testBit 8 = false := Nat.testBit_lt_two_pow crc.toNat_lt
  simp only [registerPolynomial, hbit, Finset.sum_range_succ, Finset.sum_range_zero, htop]
  simp only [coefficient, Bool.false_eq_true, if_false, map_zero]
  ring

theorem registerPolynomial_one : registerPolynomial 1 = X ^ 7 := by
  have htail : ∀ k ∈ Finset.range 8, k ≠ 0 →
      C (coefficient ((1 : UInt8).toNat.testBit k)) * (X : (ZMod 2)[X]) ^ (7 - k) = 0 := by
    intro k _ hk
    simp [coefficient, Nat.testBit_one_eq_true_iff_self_eq_zero, hk]
  rw [registerPolynomial, Finset.sum_eq_single 0 htail (by simp)]
  simp [coefficient]

/-- The byte that `shiftBit` adds is the generator without its highest term. -/
theorem registerPolynomial_poly : registerPolynomial 0xE0 = generator + X ^ 8 := by
  have hbits : ∀ k < 8, (0xE0 : UInt8).toNat.testBit k = decide (5 ≤ k) := by decide
  have hcoefficient : ∀ k ∈ Finset.range 8,
      C (coefficient ((0xE0 : UInt8).toNat.testBit k)) * (X : (ZMod 2)[X]) ^ (7 - k) =
        if 5 ≤ k then X ^ (7 - k) else 0 := by
    intro k hk
    rw [hbits k (Finset.mem_range.mp hk)]
    by_cases h : 5 ≤ k <;> simp [coefficient, h]
  rw [registerPolynomial, Finset.sum_congr rfl hcoefficient, generator]
  simp only [Finset.sum_range_succ, Finset.sum_range_zero]
  norm_num
  calc X ^ 2 + X + 1 = X ^ 8 + X ^ 8 + (X ^ 2 + X + 1) := by
        rw [CharTwo.add_self_eq_zero, zero_add]
    _ = X ^ 8 + X ^ 2 + X + 1 + X ^ 8 := by ring

theorem registerPolynomial_ofBit (bit : Bool) :
    registerPolynomial (ofBit bit) = C (coefficient bit) * X ^ 7 := by
  cases bit
  · simp [registerPolynomial, ofBit, coefficient]
  · simp [ofBit, coefficient, registerPolynomial_one]

/-- Moving the register multiplies by `X`, up to a multiple of the generator. -/
theorem registerPolynomial_shiftBit (crc : UInt8) :
    registerPolynomial (shiftBit crc) = X * registerPolynomial crc +
      C (coefficient (crc.toNat.testBit 0)) * generator := by
  have hshift := registerPolynomial_shift crc
  rw [shiftBit]
  cases h : crc.toNat.testBit 0
  · simp [hshift, h, coefficient]
  · rw [h] at hshift
    rw [if_pos rfl, registerPolynomial_xor, registerPolynomial_poly, hshift]
    simp only [coefficient, if_true, map_one]
    ring

theorem serialBit_divides : Divides generator 8 coefficient registerPolynomial serialBit := by
  intro crc bit
  rw [serialBit, registerPolynomial_shiftBit, registerPolynomial_xor, registerPolynomial_ofBit]
  refine ⟨C (coefficient ((crc ^^^ ofBit bit).toNat.testBit 0)), ?_⟩
  ring

theorem generator_degree : generator.degree = 8 := by
  rw [generator]
  compute_degree!

theorem generator_monic : generator.Monic := by
  rw [generator]
  monicity!

theorem registerPolynomial_degree_lt (crc : UInt8) :
    (registerPolynomial crc).degree < generator.degree := by
  rw [generator_degree, registerPolynomial]
  apply (degree_sum_le _ _).trans_lt
  rw [Finset.sup_lt_iff (by decide)]
  intro k _
  apply (degree_C_mul_X_pow_le _ _).trans_lt
  exact_mod_cast (by omega : 7 - k < 8)

/-- The checksum of a string is the remainder of its polynomial, the register in front. -/
theorem registerPolynomial_calcCRC (data : List UInt8) (crc : UInt8) :
    registerPolynomial (calcCRC data crc) =
      (X ^ (8 * data.length) * registerPolynomial crc +
        X ^ 8 * message coefficient (ofBytes data)) %ₘ generator := by
  have hlength : (ofBytes data).length = 8 * data.length := by
    simp [ofBytes, List.length_flatMap, Nat.mul_comm]
  have hremainder := serialBit_divides.foldl_eq generator_monic registerPolynomial_degree_lt
    (ofBytes data) crc
  rw [hlength] at hremainder
  rw [calcCRC_eq_serial, serialCRC, hremainder]

end Remainder

end SpwRmap.crc
