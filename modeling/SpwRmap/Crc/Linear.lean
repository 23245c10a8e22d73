import Mathlib.Algebra.Ring.Parity
import SpwRmap.Crc
import SpwRmap.Lib.Bits

/-!
# What the checksum detects

Each step of the shift register is linear over exclusive or. So the checksum of the
exclusive or of two strings is the exclusive or of their checksums, and the strings
have the same checksum exactly when the string of their differences has checksum zero.
A nonzero string has a nonzero checksum when its set bits lie within eight consecutive
ones, and when they are odd in number.
-/

namespace SpwRmap.crc

open Bits

theorem shiftBit_xor (a b : UInt8) : shiftBit (a ^^^ b) = shiftBit a ^^^ shiftBit b := by
  have hshift : (a ^^^ b) >>> 1 = (a >>> 1) ^^^ (b >>> 1) := by
    apply UInt8.toBitVec_inj.mp
    simp [UInt8.toBitVec_shiftRight, BitVec.ushiftRight_xor_distrib]
  simp only [shiftBit, UInt8.toNat_xor, Nat.testBit_xor, hshift]
  generalize a >>> 1 = x, b >>> 1 = y, (0xE0 : UInt8) = p
  cases a.toNat.testBit 0 <;> cases b.toNat.testBit 0
  · rfl
  · exact UInt8.xor_assoc x y p
  · show x ^^^ y ^^^ p = x ^^^ p ^^^ y
    rw [UInt8.xor_assoc, UInt8.xor_assoc, UInt8.xor_comm y]
  · show x ^^^ y = x ^^^ p ^^^ (y ^^^ p)
    rw [UInt8.xor_assoc, ← UInt8.xor_assoc p y p, UInt8.xor_comm p y, UInt8.xor_assoc y p p,
      UInt8.xor_self, UInt8.xor_zero]

theorem shiftByte_xor (n : Nat) (a b : UInt8) :
    shiftByte n (a ^^^ b) = shiftByte n a ^^^ shiftByte n b := by
  induction n generalizing a b with
  | zero => rfl
  | succ n ih => rw [shiftByte, shiftBit_xor, ih, shiftByte, shiftByte]

theorem crcStep_xor (crc crc' byte byte' : UInt8) :
    crcStep (crc ^^^ crc') (byte ^^^ byte') = crcStep crc byte ^^^ crcStep crc' byte' := by
  have hswap : crc ^^^ crc' ^^^ (byte ^^^ byte') = crc ^^^ byte ^^^ (crc' ^^^ byte') := by
    rw [UInt8.xor_assoc, ← UInt8.xor_assoc crc' byte byte', UInt8.xor_comm crc' byte,
      UInt8.xor_assoc byte crc' byte', ← UInt8.xor_assoc]
  rw [crcStep_eq_shiftByte, crcStep_eq_shiftByte, crcStep_eq_shiftByte, hswap, shiftByte_xor]

/-- The checksum is linear over the exclusive or of strings of one length. -/
theorem calcCRC_xor {xs ys : List UInt8} (h : xs.length = ys.length) (crc crc' : UInt8) :
    calcCRC (xorBytes xs ys) (crc ^^^ crc') = calcCRC xs crc ^^^ calcCRC ys crc' := by
  induction xs generalizing ys crc crc' with
  | nil =>
      cases ys with
      | nil => rfl
      | cons y ys => contradiction
  | cons x xs ih =>
      cases ys with
      | nil => contradiction
      | cons y ys =>
          have hrest := ih (Nat.succ.inj h) (crcStep crc x) (crcStep crc' y)
          rw [← crcStep_xor] at hrest
          exact hrest

theorem crcStep_zero : crcStep 0 0 = 0 := (crcStep_eq_zero_iff 0 0).mpr rfl

theorem calcCRC_replicate_zero (n : Nat) : calcCRC (List.replicate n 0) = 0 := by
  induction n with
  | zero => rfl
  | succ n ih =>
      rw [List.replicate_succ, calcCRC, List.foldl_cons, crcStep_zero]
      exact ih

/-- Zeros leave a register that is not zero so. -/
theorem calcCRC_ne_zero_of_zeros {xs : List UInt8} (hxs : ∀ b ∈ xs, b = 0) {crc : UInt8}
    (hcrc : crc ≠ 0) : calcCRC xs crc ≠ 0 := by
  induction xs generalizing crc with
  | nil => exact hcrc
  | cons x xs ih =>
      obtain ⟨hx, hrest⟩ := List.forall_mem_cons.mp hxs
      refine ih hrest ?_
      intro hzero
      rw [hx] at hzero
      exact hcrc ((crcStep_eq_zero_iff crc 0).mp hzero).symm

/-- The entry for a nonzero byte has a bit at or above one of the bits of the byte. -/
theorem exists_testBit_crcStep {b : UInt8} (hb : b ≠ 0) :
    ∃ k j, k < 8 ∧ j < 8 ∧ b.toNat.testBit k = true ∧ (crcStep 0 b).toNat.testBit j = true ∧
      k ≤ j := by
  have htable : ∀ i : Fin 256, i ≠ 0 → ∃ k j : Fin 8, i.val.testBit k = true ∧
      (shiftByte 8 (UInt8.ofFin i)).toNat.testBit j = true ∧ k ≤ j := by
    decide +kernel
  have hi : b.toFin ≠ 0 := by
    intro hzero
    exact hb (UInt8.toFin_inj.mp hzero)
  obtain ⟨k, j, hk, hj, hle⟩ := htable b.toFin hi
  refine ⟨k, j, k.isLt, j.isLt, hk, ?_, hle⟩
  rw [crcStep_eq_shiftByte, UInt8.zero_xor]
  exact hj

/-- No burst of at most eight bits has checksum zero. -/
theorem calcCRC_ne_zero_of_burst {xs : List UInt8} (hburst : Burst (ofBytes xs))
    (hne : ∃ b ∈ xs, b ≠ 0) : calcCRC xs ≠ 0 := by
  induction xs with
  | nil =>
      obtain ⟨b, hb, -⟩ := hne
      contradiction
  | cons x xs ih =>
      by_cases hx : x = 0
      · -- Leading zeros do not move the register.
        subst hx
        have hrest : ∃ b ∈ xs, b ≠ 0 := by
          obtain ⟨b, hb, hzero⟩ := hne
          obtain rfl | hb := List.mem_cons.mp hb
          · contradiction
          · exact ⟨b, hb, hzero⟩
        have htail := ih hburst.tail hrest
        rw [calcCRC, List.foldl_cons, crcStep_zero]
        exact htail
      · -- The burst begins in this byte and ends in the next one.
        obtain ⟨k, j, hk, hj, hbit, hentry, hle⟩ := exists_testBit_crcStep hx
        have hfirst : crcStep 0 x ≠ 0 := by
          intro hzero
          exact hx ((crcStep_eq_zero_iff 0 x).mp hzero)
        cases xs with
        | nil => exact hfirst
        | cons y rest =>
            have hsecond : crcStep (crcStep 0 x) y ≠ 0 := by
              intro hzero
              have hy : y = crcStep 0 x := (crcStep_eq_zero_iff _ y).mp hzero
              rw [← hy] at hentry
              have := hburst.lt_of_testBit hk hj hbit hentry
              omega
            exact calcCRC_ne_zero_of_zeros (fun d hd => hburst.eq_zero_of_testBit hk hbit hd)
              hsecond

/-- Whether the number of set bits is odd. -/
def parity (b : UInt8) : Bool := ((ofByte b).count true).bodd

theorem parity_xor (a b : UInt8) : parity (a ^^^ b) = (parity a ^^ parity b) := by
  rw [parity, ofByte_xor, bodd_count_zipWith_xor (by simp), parity, parity]

/-- The polynomial has an even number of terms, so a step keeps the parity. -/
theorem parity_shiftBit (crc : UInt8) : parity (shiftBit crc) = parity crc := by
  have hbyte : ∀ i : Fin 256, parity (shiftBit (UInt8.ofFin i)) = parity (UInt8.ofFin i) := by
    decide +kernel
  exact hbyte crc.toFin

theorem parity_shiftByte (n : Nat) (crc : UInt8) : parity (shiftByte n crc) = parity crc := by
  induction n generalizing crc with
  | zero => rfl
  | succ n ih => exact (ih (shiftBit crc)).trans (parity_shiftBit crc)

theorem parity_crcStep (crc byte : UInt8) :
    parity (crcStep crc byte) = (parity crc ^^ parity byte) := by
  rw [crcStep_eq_shiftByte, parity_shiftByte, parity_xor]

theorem parity_calcCRC (xs : List UInt8) (crc : UInt8) :
    parity (calcCRC xs crc) = (parity crc ^^ ((ofBytes xs).count true).bodd) := by
  induction xs generalizing crc with
  | nil => simp [calcCRC, ofBytes]
  | cons x xs ih =>
      have hrest := ih (crcStep crc x)
      rw [parity_crcStep, Bool.xor_assoc] at hrest
      rw [ofBytes_cons, List.count_append, Nat.bodd_add]
      exact hrest

/-- No string with an odd number of set bits has checksum zero. -/
theorem calcCRC_ne_zero_of_odd {xs : List UInt8} (hodd : Odd ((ofBytes xs).count true)) :
    calcCRC xs ≠ 0 := by
  intro hzero
  have hparity := parity_calcCRC xs 0
  rw [hzero] at hparity
  have hbodd : ((ofBytes xs).count true).bodd = true := by
    obtain ⟨m, hm⟩ := hodd
    rw [hm, Nat.bodd_add, Nat.bodd_mul, Nat.bodd_two, Bool.false_and, Nat.bodd_one,
      Bool.false_xor]
  rw [hbodd] at hparity
  revert hparity
  decide

end SpwRmap.crc
