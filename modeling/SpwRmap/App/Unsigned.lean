import Mathlib.Data.List.TakeWhile
import SpwRmap.Lib.Numeral

/-!
# Numbers on the command line

`parseUnsigned` reads the numbers of all options of both programs. It leaves the work to
`std::stoull`, which takes more than the usual spellings: white space and a sign may stand
before the digits, a minus sign wraps around at `2 ^ 64`, and the digits may be those of a
binary literal, as in the C libraries that follow C23. `Number` is what it accepts.
-/

namespace SpwRmap.App

open Numeral

/-- `std::isspace` of the C locale. -/
def isspace (c : Char) : Bool := c == ' ' || (decide (9 ≤ c.toNat) && decide (c.toNat ≤ 13))

/-- Whether there is a minus sign, and what follows the sign. -/
def sign : Text → Bool × Text
  | '-' :: rest => (true, rest)
  | '+' :: rest => (false, rest)
  | text => (false, text)

/-- `std::stoull` of base 0: the value and what is behind it, or nothing if it throws. -/
def stoull (text : Text) : Option (UInt64 × Text) :=
  let signed := sign (text.dropWhile isspace)
  match literal signed.2 with
  | none => none -- `std::invalid_argument`
  | some (value, rest) =>
      if 2 ^ 64 ≤ value then none -- `std::out_of_range`
      else some (if signed.1 then -UInt64.ofNat value else UInt64.ofNat value, rest)

def parseUnsigned (token : Text) (max_value : UInt64) : Option UInt64 :=
  match stoull token with
  | none => none
  | some (value, rest) => if rest ≠ [] ∨ max_value < value then none else some value

/-- What is accepted as a number, and its value. -/
inductive Number : Text → UInt64 → Prop
  | plain {space plus digits : Text} {value : Nat} (hspace : ∀ c ∈ space, isspace c = true)
      (hplus : plus = [] ∨ plus = ['+']) (h : Literal digits value) (hvalue : value < 2 ^ 64) :
      Number (space ++ (plus ++ digits)) (UInt64.ofNat value)
  | minus {space digits : Text} {value : Nat} (hspace : ∀ c ∈ space, isspace c = true)
      (h : Literal digits value) (hvalue : value < 2 ^ 64) :
      Number (space ++ '-' :: digits) (-UInt64.ofNat value)

theorem toNat_of_digit {c : Char} (h : (digit 10 c).isSome) : 48 ≤ c.toNat ∧ c.toNat ≤ 57 := by
  obtain ⟨d, hd⟩ := Option.isSome_iff_exists.mp h
  rw [digit, Option.filter_eq_some_iff, hexValue] at hd
  obtain ⟨hvalue, hlt⟩ := hd
  have hten := of_decide_eq_true hlt
  split at hvalue
  · assumption
  · split at hvalue
    · cases hvalue
      omega
    · split at hvalue
      · cases hvalue
        omega
      · cases hvalue

theorem sign_of_literal {digits : Text} {value : Nat} (h : Literal digits value) :
    sign digits = (false, digits) := by
  obtain ⟨c, rest, rfl, hdigit⟩ := h.head
  have hc := toNat_of_digit hdigit
  unfold sign
  split
  · rename_i heq
    obtain ⟨rfl, -⟩ := List.cons.inj heq
    exact absurd hc (by decide)
  · rename_i heq
    obtain ⟨rfl, -⟩ := List.cons.inj heq
    exact absurd hc (by decide)
  · rfl

/-- What stands before a number, up to the first character that is no white space. -/
theorem dropWhile_isspace {space text : Text} (hspace : ∀ c ∈ space, isspace c = true)
    (htext : ∀ c ∈ text.head?, isspace c = false) : (space ++ text).dropWhile isspace = text := by
  rw [List.dropWhile_append_of_pos hspace]
  cases text with
  | nil => rfl
  | cons c text => rw [List.dropWhile_cons_of_neg (by simp [htext c rfl])]

theorem isspace_of_literal {digits : Text} {value : Nat} (h : Literal digits value) :
    ∀ c ∈ digits.head?, isspace c = false := by
  obtain ⟨c, rest, rfl, hdigit⟩ := h.head
  have hc := toNat_of_digit hdigit
  rintro _ ⟨⟩
  have hblank : c ≠ ' ' := by
    rintro rfl
    exact absurd hc (by decide)
  simp only [isspace, Bool.or_eq_false_iff, beq_eq_false_iff_ne, Bool.and_eq_false_iff,
    decide_eq_false_iff_not]
  exact ⟨hblank, .inr (by omega)⟩

theorem sign_cases (text : Text) :
    (∃ rest, text = '-' :: rest ∧ sign text = (true, rest)) ∨
      (∃ plus rest, (plus = [] ∨ plus = ['+']) ∧ text = plus ++ rest ∧
        sign text = (false, rest)) := by
  fun_cases sign text with
  | case1 rest => exact .inl ⟨rest, rfl, rfl⟩
  | case2 rest => exact .inr ⟨['+'], rest, .inr rfl, rfl, rfl⟩
  | case3 => exact .inr ⟨[], text, .inl rfl, rfl, rfl⟩

theorem stoull_of_sign {text digits : Text} {negative : Bool} {value : Nat}
    (hsign : sign (text.dropWhile isspace) = (negative, digits)) (h : Literal digits value)
    (hvalue : value < 2 ^ 64) :
    stoull text = some (if negative then -UInt64.ofNat value else UInt64.ofNat value, []) := by
  rw [stoull, hsign]
  simp only [literal_eq_nil_iff.mpr h]
  rw [if_neg (by omega)]

theorem stoull_eq_nil_iff {text : Text} {value : UInt64} :
    stoull text = some (value, []) ↔ Number text value := by
  constructor
  · intro h
    have htext : text.takeWhile isspace ++ text.dropWhile isspace = text :=
      List.takeWhile_append_dropWhile
    have hspace : ∀ c ∈ text.takeWhile isspace, isspace c = true :=
      fun c hc => List.mem_takeWhile_imp hc
    unfold stoull at h
    dsimp only at h
    split at h
    · cases h
    · rename_i v rest hliteral
      split at h
      · cases h
      · rename_i hlt
        obtain ⟨hvalue, rfl⟩ := Prod.mk.inj (Option.some.inj h)
        rw [← htext, ← hvalue]
        have hdigits := literal_eq_nil_iff.mp hliteral
        obtain ⟨digits, hrest, hsign⟩ | ⟨plus, digits, hplus, hrest, hsign⟩ :=
          sign_cases (text.dropWhile isspace)
        · rw [hsign] at hdigits ⊢
          rw [hrest]
          exact .minus hspace hdigits (by omega)
        · rw [hsign] at hdigits ⊢
          rw [hrest]
          exact .plain hspace hplus hdigits (by omega)
  · intro h
    cases h with
    | @plain space plus digits value hspace hplus h hvalue =>
        have hsign : sign ((space ++ (plus ++ digits)).dropWhile isspace) = (false, digits) := by
          obtain rfl | rfl := hplus
          · rw [List.nil_append, dropWhile_isspace hspace (isspace_of_literal h), sign_of_literal h]
          · rw [dropWhile_isspace hspace (by rintro _ ⟨⟩; rfl)]
            rfl
        exact stoull_of_sign hsign h hvalue
    | @minus space digits value hspace h hvalue =>
        have hsign : sign ((space ++ '-' :: digits).dropWhile isspace) = (true, digits) := by
          rw [dropWhile_isspace hspace (by rintro _ ⟨⟩; rfl)]
          rfl
        exact stoull_of_sign hsign h hvalue

theorem parseUnsigned_spec {token : Text} {max_value value : UInt64} :
    parseUnsigned token max_value = some value ↔ Number token value ∧ value ≤ max_value := by
  rw [← stoull_eq_nil_iff]
  unfold parseUnsigned
  cases hstoull : stoull token with
  | none => simp
  | some result =>
      obtain ⟨value', rest⟩ := result
      simp only [Option.ite_none_left_eq_some, not_or, not_not, UInt64.not_lt, Option.some.injEq,
        Prod.mk.injEq]
      constructor
      · rintro ⟨⟨rfl, hle⟩, rfl⟩
        exact ⟨⟨rfl, rfl⟩, hle⟩
      · rintro ⟨⟨rfl, rfl⟩, hle⟩
        exact ⟨⟨rfl, hle⟩, rfl⟩

end SpwRmap.App
