import Mathlib.Data.List.Basic
import Mathlib.Data.Nat.Bits

/-!
# Bits of byte strings

A byte string is also the string of its bits, byte by byte and least significant bit
first. Two byte strings of one length differ in the bits of their bitwise exclusive
or, so that a statement about the bits flipped between them is one about a single
string.
-/

namespace Bits

/-- The bits of a byte, least significant first. -/
def ofByte (b : UInt8) : List Bool := (List.range 8).map fun k => b.toNat.testBit k

/-- The bits of a byte string, in the order of transmission. -/
def ofBytes (p : List UInt8) : List Bool := p.flatMap ofByte

/-- Which bits differ. -/
def flips (p q : List UInt8) : List Bool := List.zipWith (· ^^ ·) (ofBytes p) (ofBytes q)

/-- The bitwise exclusive or. -/
def xorBytes (p q : List UInt8) : List UInt8 := List.zipWith (· ^^^ ·) p q

/-- All bits that are set lie within eight consecutive positions. -/
def Burst (bits : List Bool) : Prop :=
  ∃ start, ∀ n, bits[n]? = some true → start ≤ n ∧ n < start + 8

@[simp] theorem ofByte_length (b : UInt8) : (ofByte b).length = 8 := by
  simp [ofByte]

@[simp] theorem ofBytes_cons (b : UInt8) (p : List UInt8) :
    ofBytes (b :: p) = ofByte b ++ ofBytes p := rfl

theorem ofByte_getElem? (b : UInt8) {k : Nat} (hk : k < 8) :
    (ofByte b)[k]? = some (b.toNat.testBit k) := by
  simp [ofByte, hk]

theorem ofByte_xor (a b : UInt8) :
    ofByte (a ^^^ b) = List.zipWith (· ^^ ·) (ofByte a) (ofByte b) := by
  simp only [ofByte, UInt8.toNat_xor, Nat.testBit_xor, List.zipWith_map, List.zipWith_self]

/-- The flipped bits are the bits of the exclusive or. -/
theorem flips_eq {p q : List UInt8} (h : p.length = q.length) :
    flips p q = ofBytes (xorBytes p q) := by
  induction p generalizing q with
  | nil =>
      cases q with
      | nil => rfl
      | cons b q => contradiction
  | cons a p ih =>
      cases q with
      | nil => contradiction
      | cons b q =>
          have hlen : p.length = q.length := Nat.succ.inj h
          have hrest : List.zipWith (· ^^ ·) (ofBytes p) (ofBytes q) = ofBytes (xorBytes p q) :=
            ih hlen
          rw [flips, ofBytes_cons, ofBytes_cons, List.zipWith_append (by simp), hrest,
            ← ofByte_xor]
          rfl

/-- A string differs from itself nowhere. -/
theorem xorBytes_self (p : List UInt8) : xorBytes p p = List.replicate p.length 0 := by
  induction p with
  | nil => rfl
  | cons a p ih =>
      simp only [xorBytes, List.zipWith_cons_cons, UInt8.xor_self, List.length_cons,
        List.replicate_succ] at ih ⊢
      rw [ih]

theorem xorBytes_append {p q p' q' : List UInt8} (h : p.length = q.length) :
    xorBytes (p ++ p') (q ++ q') = xorBytes p q ++ xorBytes p' q' :=
  List.zipWith_append h

/-- Different strings of one length differ in some byte. -/
theorem exists_ne_zero_of_ne {p q : List UInt8} (hlen : p.length = q.length) (hne : p ≠ q) :
    ∃ b ∈ xorBytes p q, b ≠ 0 := by
  induction p generalizing q with
  | nil =>
      cases q with
      | nil => contradiction
      | cons b q => contradiction
  | cons a p ih =>
      cases q with
      | nil => contradiction
      | cons b q =>
          by_cases hab : a = b
          · subst hab
            have hpq : p ≠ q := by
              rintro rfl
              exact hne rfl
            obtain ⟨c, hc, hzero⟩ := ih (Nat.succ.inj hlen) hpq
            exact ⟨c, List.mem_cons_of_mem _ hc, hzero⟩
          · refine ⟨a ^^^ b, List.mem_cons_self .., ?_⟩
            intro hzero
            exact hab (UInt8.xor_eq_zero_iff.mp hzero)

/-- The parity of the number of set bits is additive. -/
theorem bodd_count_zipWith_xor {xs ys : List Bool} (h : xs.length = ys.length) :
    ((List.zipWith (· ^^ ·) xs ys).count true).bodd =
      ((xs.count true).bodd ^^ (ys.count true).bodd) := by
  induction xs generalizing ys with
  | nil =>
      cases ys with
      | nil => rfl
      | cons y ys => contradiction
  | cons x xs ih =>
      cases ys with
      | nil => contradiction
      | cons y ys =>
          have hrest := ih (Nat.succ.inj h)
          rw [List.zipWith_cons_cons]
          cases x <;> cases y <;> simp [hrest, Nat.bodd_succ]

namespace Burst

variable {b c : UInt8} {rest : List UInt8}

/-- A burst behind a byte moves to the front with it gone. -/
theorem tail (h : Burst (ofBytes (b :: rest))) : Burst (ofBytes rest) := by
  obtain ⟨start, hstart⟩ := h
  refine ⟨start - 8, ?_⟩
  intro n hn
  have hshift : (ofBytes (b :: rest))[8 + n]? = some true := by
    rw [ofBytes_cons, List.getElem?_append_right (by simp), ofByte_length,
      Nat.add_sub_cancel_left]
    exact hn
  have := hstart (8 + n) hshift
  omega

/-- Bits of the first two bytes that are set are less than eight places apart. -/
theorem lt_of_testBit (h : Burst (ofBytes (b :: c :: rest))) {k j : Nat} (hk : k < 8) (hj : j < 8)
    (hb : b.toNat.testBit k = true) (hc : c.toNat.testBit j = true) : j < k := by
  obtain ⟨start, hstart⟩ := h
  have hfirst : (ofBytes (b :: c :: rest))[k]? = some true := by
    rw [ofBytes_cons, List.getElem?_append_left (by simpa using hk), ofByte_getElem? b hk, hb]
  have hsecond : (ofBytes (b :: c :: rest))[8 + j]? = some true := by
    rw [ofBytes_cons, List.getElem?_append_right (by simp), ofByte_length,
      Nat.add_sub_cancel_left, ofBytes_cons, List.getElem?_append_left (by simpa using hj),
      ofByte_getElem? c hj, hc]
  have := hstart k hfirst
  have := hstart (8 + j) hsecond
  omega

/-- Behind a byte with a set bit and the byte after it, no bit is set. -/
theorem eq_zero_of_testBit (h : Burst (ofBytes (b :: c :: rest))) {k : Nat} (hk : k < 8)
    (hb : b.toNat.testBit k = true) {d : UInt8} (hd : d ∈ rest) : d = 0 := by
  obtain ⟨start, hstart⟩ := h
  have hfirst : (ofBytes (b :: c :: rest))[k]? = some true := by
    rw [ofBytes_cons, List.getElem?_append_left (by simpa using hk), ofByte_getElem? b hk, hb]
  have hstart' := hstart k hfirst
  have hnone : ∀ j < 8, d.toNat.testBit j = false := by
    intro j hj
    rw [Bool.eq_false_iff]
    intro hset
    have hmem : true ∈ ofBytes rest := by
      refine List.mem_flatMap.mpr ⟨d, hd, ?_⟩
      exact List.mem_of_getElem? ((ofByte_getElem? d hj).trans (by rw [hset]))
    obtain ⟨n, hn⟩ := List.mem_iff_getElem?.mp hmem
    have hlater : (ofBytes (b :: c :: rest))[16 + n]? = some true := by
      rw [ofBytes_cons, ofBytes_cons, ← List.append_assoc,
        List.getElem?_append_right (by simp), List.length_append, ofByte_length, ofByte_length,
        Nat.add_sub_cancel_left]
      exact hn
    have := hstart (16 + n) hlater
    omega
  apply UInt8.toNat_inj.mp
  apply Nat.eq_of_testBit_eq
  intro j
  by_cases hj : j < 8
  · simp [hnone j hj]
  · have hlt : d.toNat < 2 ^ j :=
      Nat.lt_of_lt_of_le d.toNat_lt (Nat.pow_le_pow_right (by decide) (by omega))
    simp [Nat.testBit_lt_two_pow hlt]

end Burst

end Bits
