import Mathlib.Data.List.Forall2
import Mathlib.Data.Nat.Digits.Defs

/-!
# Numerals of several bases

Reading a numeral the way C does when it is to find out the base by itself: `0x` announces
sixteen, `0b` two (since C23), another leading zero eight, and anything else is ten. `Literal` says what such a
numeral is; `literal` reads the longest one at the front of a text. What is printed in base
sixteen behind `0x`, filled up with zeros, is such a numeral.
-/

namespace Numeral

abbrev Text : Type := List Char

/-- The value of a hexadecimal digit of either case. -/
def hexValue (c : Char) : Option Nat :=
  if 48 ≤ c.toNat ∧ c.toNat ≤ 57 then some (c.toNat - 48)
  else if 97 ≤ c.toNat ∧ c.toNat ≤ 102 then some (c.toNat - 87)
  else if 65 ≤ c.toNat ∧ c.toNat ≤ 70 then some (c.toNat - 55)
  else none

def digit (base : Nat) (c : Char) : Option Nat := (hexValue c).filter (· < base)

/-- The value of the digits at the front, added to the one of those before, and the rest. -/
def scan (base : Nat) : Nat → Text → Nat × Text
  | acc, [] => (acc, [])
  | acc, c :: rest =>
      match digit base c with
      | some d => scan base (acc * base + d) rest
      | none => (acc, c :: rest)

/-- The base of the numeral at the front, and where its digits begin. -/
def radix : Text → Nat × Text
  | '0' :: x :: c :: rest =>
      if (x = 'x' ∨ x = 'X') ∧ (digit 16 c).isSome then (16, c :: rest)
      else if (x = 'b' ∨ x = 'B') ∧ (digit 2 c).isSome then (2, c :: rest)
      else (8, '0' :: x :: c :: rest)
  | '0' :: rest => (8, '0' :: rest)
  | text => (10, text)

/-- The value of the numeral at the front, if there is one, and the rest. -/
def literal (text : Text) : Option (Nat × Text) :=
  match (radix text).2 with
  | [] => none
  | c :: rest =>
      if (digit (radix text).1 c).isSome then some (scan (radix text).1 0 (c :: rest)) else none

/-- The digits have these values. -/
def Digits (base : Nat) (digits : Text) (values : List Nat) : Prop :=
  List.Forall₂ (fun c d => digit base c = some d) digits values

/-- The value of a sequence of digits behind one of value `acc`. -/
def valueFrom (base acc : Nat) (values : List Nat) : Nat :=
  values.foldl (fun acc d => acc * base + d) acc

theorem scan_append {base : Nat} {digits : Text} {values : List Nat} (h : Digits base digits values)
    (acc : Nat) (rest : Text) :
    scan base acc (digits ++ rest) = scan base (valueFrom base acc values) rest := by
  induction h generalizing acc with
  | nil => rfl
  | cons hd _ ih =>
      rw [List.cons_append, scan, hd]
      exact ih _

theorem Digits.isSome_of_mem {base : Nat} {digits : Text} {values : List Nat}
    (h : Digits base digits values) {c : Char} (hc : c ∈ digits) : (digit base c).isSome := by
  induction h with
  | nil => cases hc
  | cons hd _ ih =>
      obtain rfl | hc := List.mem_cons.mp hc
      · rw [hd]
        rfl
      · exact ih hc

/-- What a scan has read are digits. -/
theorem scan_spec (base acc : Nat) (text : Text) :
    ∃ digits values, text = digits ++ (scan base acc text).2 ∧ Digits base digits values ∧
      (scan base acc text).1 = valueFrom base acc values := by
  induction text generalizing acc with
  | nil => exact ⟨[], [], rfl, .nil, rfl⟩
  | cons c rest ih =>
      rw [scan]
      cases hd : digit base c with
      | none => exact ⟨[], [], rfl, .nil, rfl⟩
      | some d =>
          obtain ⟨digits, values, htext, hdigits, hvalue⟩ := ih (acc * base + d)
          refine ⟨c :: digits, d :: values, ?_, .cons hd hdigits, hvalue⟩
          rw [List.cons_append, ← htext]

/-- A scan that reads everything has found digits only. -/
theorem scan_eq_nil_iff {base acc value : Nat} {text : Text} :
    scan base acc text = (value, []) ↔
      ∃ values, Digits base text values ∧ value = valueFrom base acc values := by
  constructor
  · intro h
    obtain ⟨digits, values, htext, hdigits, hvalue⟩ := scan_spec base acc text
    rw [h, List.append_nil] at htext
    rw [h] at hvalue
    subst htext
    exact ⟨values, hdigits, hvalue⟩
  · rintro ⟨values, hdigits, rfl⟩
    have happend := scan_append hdigits acc []
    rw [List.append_nil] at happend
    exact happend

theorem digit_zero : digit 8 '0' = some 0 := by decide

/-- What announces a base, and the base. -/
inductive Announces : Char → Nat → Prop
  | lower_x : Announces 'x' 16
  | upper_x : Announces 'X' 16
  | lower_b : Announces 'b' 2
  | upper_b : Announces 'B' 2

theorem Announces.not_digit {x : Char} {base : Nat} (hx : Announces x base) :
    digit 8 x = none := by
  cases hx with
  | lower_x => decide
  | upper_x => decide
  | lower_b => decide
  | upper_b => decide

/-- A numeral of C and its value. -/
inductive Literal : Text → Nat → Prop
  | announced {x : Char} {base : Nat} (hx : Announces x base) {c : Char} {digits : Text}
      {values : List Nat} (h : Digits base (c :: digits) values) :
      Literal ('0' :: x :: c :: digits) (valueFrom base 0 values)
  | oct {digits : Text} {values : List Nat} (h : Digits 8 digits values) :
      Literal ('0' :: digits) (valueFrom 8 0 values)
  | dec {c : Char} (hc : c ≠ '0') {digits : Text} {values : List Nat}
      (h : Digits 10 (c :: digits) values) : Literal (c :: digits) (valueFrom 10 0 values)

/-- The ways to tell a base. -/
theorem radix_cases (text : Text) :
    (∃ x base c rest, Announces x base ∧ (digit base c).isSome ∧ text = '0' :: x :: c :: rest ∧
        radix text = (base, c :: rest)) ∨
      (∃ rest, text = '0' :: rest ∧ radix text = (8, text)) ∨
      ((∀ rest, text ≠ '0' :: rest) ∧ radix text = (10, text)) := by
  fun_cases radix text with
  | case1 x c rest h =>
      refine .inl ⟨x, 16, c, rest, ?_, h.2, rfl, rfl⟩
      obtain ⟨rfl | rfl, -⟩ := h
      · exact .lower_x
      · exact .upper_x
  | case2 x c rest _ h =>
      refine .inl ⟨x, 2, c, rest, ?_, h.2, rfl, rfl⟩
      obtain ⟨rfl | rfl, -⟩ := h
      · exact .lower_b
      · exact .upper_b
  | case3 x c rest => exact .inr (.inl ⟨x :: c :: rest, rfl, rfl⟩)
  | case4 rest => exact .inr (.inl ⟨rest, rfl, rfl⟩)
  | case5 _ _ h => exact .inr (.inr ⟨h, rfl⟩)

theorem Announces.radix_eq {x : Char} {base : Nat} (hx : Announces x base) {c : Char}
    (hc : (digit base c).isSome) (rest : Text) :
    radix ('0' :: x :: c :: rest) = (base, c :: rest) := by
  cases hx with
  | lower_x => rw [radix, if_pos ⟨.inl rfl, hc⟩]
  | upper_x => rw [radix, if_pos ⟨.inr rfl, hc⟩]
  | lower_b => rw [radix, if_neg fun h => absurd h.1 (by decide), if_pos ⟨.inl rfl, hc⟩]
  | upper_b => rw [radix, if_neg fun h => absurd h.1 (by decide), if_pos ⟨.inr rfl, hc⟩]

theorem radix_oct {digits : Text} {values : List Nat} (h : Digits 8 digits values) :
    radix ('0' :: digits) = (8, '0' :: digits) := by
  obtain ⟨x, base, c, rest, hx, -, htext, -⟩ | ⟨rest, -, hradix⟩ | ⟨hne, -⟩ :=
    radix_cases ('0' :: digits)
  · -- `x` is no octal digit
    obtain rfl := (List.cons.inj htext).2
    cases h with
    | cons hd _ => rw [hx.not_digit] at hd; cases hd
  · exact hradix
  · exact absurd rfl (hne digits)

theorem radix_dec {c : Char} (hc : c ≠ '0') (rest : Text) : radix (c :: rest) = (10, c :: rest) := by
  obtain ⟨x, base, d, rest', -, -, htext, -⟩ | ⟨rest', htext, -⟩ | ⟨-, hradix⟩ := radix_cases (c :: rest)
  · exact absurd (List.cons.inj htext).1 hc
  · exact absurd (List.cons.inj htext).1 hc
  · exact hradix

/-- Behind the announcement of its base a numeral is a sequence of digits. -/
theorem literal_of_radix {base : Nat} {text digits : Text} {values : List Nat}
    (hradix : radix text = (base, digits)) (h : Digits base digits values) (hne : digits ≠ []) :
    literal text = some (valueFrom base 0 values, []) := by
  have hscan : scan base 0 digits = (valueFrom base 0 values, []) :=
    scan_eq_nil_iff.mpr ⟨values, h, rfl⟩
  cases h with
  | nil => exact absurd rfl hne
  | cons hd htail =>
      rw [literal, hradix]
      simp only [hd, Option.isSome_some, if_true]
      rw [hscan]

/-- A text is a numeral if and only if all of it is read. -/
theorem literal_eq_nil_iff {text : Text} {value : Nat} :
    literal text = some (value, []) ↔ Literal text value := by
  constructor
  · intro h
    have hdigits : ∃ c digits values, (radix text).2 = c :: digits ∧
        Digits (radix text).1 (c :: digits) values ∧
          value = valueFrom (radix text).1 0 values := by
      unfold literal at h
      split at h
      · cases h
      · rename_i c rest hrest
        split at h
        · obtain ⟨values, hvalues⟩ := scan_eq_nil_iff.mp (Option.some.inj h)
          exact ⟨c, rest, values, hrest, hvalues⟩
        · cases h
    obtain ⟨c, digits, values, hrest, hdigits, rfl⟩ := hdigits
    obtain ⟨x, base, d, rest, hx, -, rfl, hradix⟩ | ⟨rest, rfl, hradix⟩ | ⟨hne, hradix⟩ :=
      radix_cases text
    · rw [hradix] at hrest hdigits ⊢
      obtain ⟨rfl, rfl⟩ := List.cons.inj hrest
      exact .announced hx hdigits
    · rw [hradix] at hrest hdigits ⊢
      obtain ⟨rfl, rfl⟩ := List.cons.inj hrest
      cases hdigits with
      | cons hd htail =>
          obtain rfl := Option.some.inj (digit_zero.symm.trans hd)
          have hoct : Literal ('0' :: rest) (valueFrom 8 0 _) := .oct htail
          exact hoct
    · rw [hradix] at hrest hdigits ⊢
      obtain rfl := hrest
      refine .dec ?_ hdigits
      rintro rfl
      exact hne digits rfl
  · intro h
    cases h with
    | announced hx h =>
        cases h with
        | cons hd htail =>
            exact literal_of_radix (hx.radix_eq (by rw [hd]; rfl) _) (.cons hd htail)
              (List.cons_ne_nil _ _)
    | oct h =>
        have hdigits : Digits 8 ('0' :: _) (0 :: _) := .cons digit_zero h
        have hliteral := literal_of_radix (radix_oct h) hdigits (List.cons_ne_nil _ _)
        exact hliteral
    | dec hc h => exact literal_of_radix (radix_dec hc _) h (List.cons_ne_nil _ _)

/-- The first character of a numeral is a digit. -/
theorem Literal.head {text : Text} {value : Nat} (h : Literal text value) :
    ∃ c rest, text = c :: rest ∧ (digit 10 c).isSome := by
  cases h with
  | announced hx h => exact ⟨_, _, rfl, rfl⟩
  | oct h => exact ⟨_, _, rfl, rfl⟩
  | dec hc h =>
      cases h with
      | cons hd _ => exact ⟨_, _, rfl, by rw [hd]; rfl⟩

/-- A number printed in a field of this width that is filled with zeros. -/
def printed (base width n : Nat) : Text :=
  List.replicate (width - (Nat.toDigits base n).length) '0' ++ Nat.toDigits base n

theorem digit_digitChar {base d : Nat} (hbase : base ≤ 16) (hd : d < base) :
    digit base d.digitChar = some d := by
  have hvalue : ∀ d < 16, hexValue d.digitChar = some d := by decide
  rw [digit, hvalue d (hd.trans_le hbase), Option.filter_some, if_pos (decide_eq_true hd)]

theorem valueFrom_append (base acc : Nat) (values values' : List Nat) :
    valueFrom base acc (values ++ values') = valueFrom base (valueFrom base acc values) values' :=
  List.foldl_append

theorem digits_toDigits {base : Nat} (hone : 1 < base) (hbase : base ≤ 16) (n : Nat) :
    ∃ values, Digits base (Nat.toDigits base n) values ∧ valueFrom base 0 values = n := by
  induction n using Nat.strongRecOn with
  | _ n ih =>
      obtain hlt | hle := lt_or_ge n base
      · refine ⟨[n], ?_, by simp [valueFrom]⟩
        rw [Nat.toDigits_of_lt_base hlt]
        exact .cons (digit_digitChar hbase hlt) .nil
      · have hpos : 0 < n := (Nat.zero_lt_of_lt hone).trans_le hle
        obtain ⟨values, hdigits, hvalue⟩ := ih (n / base) (Nat.div_lt_self hpos hone)
        refine ⟨values ++ [n % base], ?_, ?_⟩
        · rw [Nat.toDigits_of_base_le hone hle]
          have hmod := Nat.mod_lt n (Nat.zero_lt_of_lt hone)
          exact List.rel_append hdigits (.cons (digit_digitChar hbase hmod) .nil)
        · rw [valueFrom_append, hvalue]
          exact Nat.div_add_mod' n base

theorem digits_printed {base : Nat} (hone : 1 < base) (hbase : base ≤ 16) (width n : Nat) :
    ∃ values, Digits base (printed base width n) values ∧ valueFrom base 0 values = n := by
  obtain ⟨values, hdigits, hvalue⟩ := digits_toDigits hone hbase n
  have hfill (k : Nat) : Digits base (List.replicate k '0') (List.replicate k 0) ∧
      valueFrom base 0 (List.replicate k 0) = 0 := by
    induction k with
    | zero => exact ⟨.nil, rfl⟩
    | succ k ih =>
        refine ⟨.cons (digit_digitChar hbase (Nat.zero_lt_of_lt hone)) ih.1, ?_⟩
        rw [List.replicate_succ, valueFrom, List.foldl_cons, Nat.zero_mul]
        exact ih.2
  refine ⟨_ ++ values, List.rel_append (hfill _).1 hdigits, ?_⟩
  rw [valueFrom_append, (hfill _).2, hvalue]

/-- What is printed behind `0x` is a numeral. -/
theorem literal_printed (width n : Nat) : Literal ('0' :: 'x' :: printed 16 width n) n := by
  obtain ⟨values, hdigits, hvalue⟩ := digits_printed (by decide) (le_refl 16) width n
  have hne : printed 16 width n ≠ [] :=
    List.append_ne_nil_of_right_ne_nil _ Nat.toDigits_ne_nil
  obtain ⟨c, digits, hcons⟩ := List.exists_cons_of_ne_nil hne
  rw [hcons] at hdigits ⊢
  rw [← hvalue]
  exact .announced .lower_x hdigits

end Numeral
