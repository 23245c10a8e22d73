import SpwRmap.App.Unsigned
import SpwRmap.Lib.Arguments
import SpwRmap.Lib.Outcome

/-!
# Values of options

Both programs have options of one value and options of a sequence of bytes. The value of the
former may be anything, also what looks like an option; a sequence ends where the next option
begins.
-/

namespace SpwRmap.App

open Arguments Outcome

def parseByte (next : Text) : Option UInt8 := (parseUnsigned next 0xFF).map UInt64.toUInt8

def invalidValue (option_name next : Text) : String :=
  "Invalid value for --" ++ String.ofList option_name ++ ": '" ++ String.ofList next ++ "'\n"

/-- `parseByteSequence`, and how many arguments it has used. The programs differ in the text
for a sequence without values. -/
def byteSequence (noValue : String) (option_name : Text) (rest : List Text)
    (destination : List UInt8) : Except String (List UInt8 × Nat) := do
  let parsed ← collect parseByte (invalidValue option_name) rest destination 0
  if parsed.2 = 0 then .error ("--" ++ String.ofList option_name ++ noValue) else .ok parsed

def takeValue (option : Text) : List Text → Except String Text
  | [] => .error ("--" ++ String.ofList option ++ " requires a value.\n")
  | value :: _ => .ok value

/-- An option of a single value. -/
def withValue {σ : Type} (name : Text) (rest : List Text) (set : Text → Except String σ) :
    Except String (σ × Nat) := do
  let value ← takeValue name rest
  let opts ← set value
  .ok (opts, 1)

/-- An option of a sequence of bytes. -/
def withBytes {σ : Type} (noValue : String) (name : Text) (rest : List Text)
    (destination : List UInt8) (set : List UInt8 → σ) : Except String (σ × Nat) := do
  let parsed ← byteSequence noValue name rest destination
  .ok (set parsed.1, parsed.2)

/-- An option of a number. -/
def withNumber {σ : Type} (name : Text) (rest : List Text) (max_value : UInt64)
    (accepts : UInt64 → Bool) (invalid : Text → String) (set : UInt64 → σ) :
    Except String (σ × Nat) :=
  withValue name rest fun value =>
    match parseUnsigned value max_value with
    | none => .error (invalid value)
    | some parsed => if accepts parsed then .ok (set parsed) else .error (invalid value)

def unknownArgument (arg : Text) : String := "Unknown argument: " ++ String.ofList arg ++ "\n"

def unknownOption (name : Text) : String := "Unknown option: --" ++ String.ofList name ++ "\n"

/-- The texts are numbers of one byte. -/
def Bytes (values : List Text) (bytes : List UInt8) : Prop :=
  values ≠ [] ∧
    List.Forall₂ (fun text byte => ∃ n, Number text n ∧ n ≤ 0xFF ∧ byte = n.toUInt8) values bytes

/-- `std::numeric_limits<std::size_t>::max()` is no restriction. -/
theorem le_sizeMax (n : UInt64) : n ≤ 0xFFFFFFFFFFFFFFFF :=
  UInt64.le_iff_toNat_le.mpr (Nat.le_of_lt_succ n.toNat_lt)

theorem parseByte_eq_some_iff {next : Text} {byte : UInt8} :
    parseByte next = some byte ↔ ∃ n, Number next n ∧ n ≤ 0xFF ∧ byte = n.toUInt8 := by
  rw [parseByte, Option.map_eq_some_iff]
  constructor
  · rintro ⟨n, hn, rfl⟩
    obtain ⟨hnumber, hle⟩ := parseUnsigned_spec.mp hn
    exact ⟨n, hnumber, hle, rfl⟩
  · rintro ⟨n, hnumber, hle, rfl⟩
    exact ⟨n, parseUnsigned_spec.mpr ⟨hnumber, hle⟩, rfl⟩

/-- Two dashes never begin a number. -/
theorem Number.isOption_eq_false {text : Text} {n : UInt64} (h : Number text n) :
    isOption text = false := by
  by_contra htrue
  have hcons := eq_cons_of_isOption (Bool.eq_true_of_not_eq_false htrue)
  have hdash : ∀ {digits rest value}, Numeral.Literal digits value → digits ≠ '-' :: rest := by
    rintro digits rest value hdigits rfl
    obtain ⟨c, _, heq, hdigit⟩ := hdigits.head
    obtain ⟨rfl, -⟩ := List.cons.inj heq
    exact absurd hdigit (by decide)
  cases h with
  | @plain space plus digits value hspace hplus hdigits =>
      cases space with
      | nil =>
          obtain rfl | rfl := hplus
          · exact hdash hdigits hcons
          · exact absurd (List.cons.inj hcons).1 (by decide)
      | cons c space =>
          obtain ⟨rfl, -⟩ := List.cons.inj hcons
          exact absurd (hspace _ List.mem_cons_self) (by decide)
  | @minus space digits value hspace hdigits =>
      cases space with
      | nil => exact hdash hdigits (List.cons.inj hcons).2
      | cons c space =>
          obtain ⟨rfl, -⟩ := List.cons.inj hcons
          exact absurd (hspace _ List.mem_cons_self) (by decide)

section Readers

variable {σ : Type} {noValue : String} {name : Text} {rest values tail : List Text}
  {destination bytes : List UInt8} {used : Nat} {opts : σ}

theorem takeValue_eq_ok_iff {value : Text} :
    takeValue name rest = .ok value ↔ ∃ tail, rest = value :: tail := by
  cases rest with
  | nil => simp [takeValue]
  | cons next tail => simp [takeValue]

theorem withValue_eq_ok_iff {set : Text → Except String σ} :
    withValue name rest set = .ok (opts, used) ↔
      ∃ value tail, rest = value :: tail ∧ used = 1 ∧ set value = .ok opts := by
  simp only [withValue, bind_eq_ok_iff, takeValue_eq_ok_iff, Except.ok.injEq, Prod.mk.injEq]
  constructor
  · rintro ⟨value, ⟨tail, rfl⟩, _, hset, rfl, rfl⟩
    exact ⟨value, tail, rfl, rfl, hset⟩
  · rintro ⟨value, tail, rfl, rfl, hset⟩
    exact ⟨value, ⟨tail, rfl⟩, opts, hset, rfl, rfl⟩

theorem byteSequence_eq_ok_iff {parsed : List UInt8 × Nat} :
    byteSequence noValue name rest destination = .ok parsed ↔
      ∃ values tail bytes, rest = values ++ tail ∧ Boundary tail ∧ Bytes values bytes ∧
        parsed = (destination ++ bytes, values.length) := by
  have hvalue : ∀ text byte, parseByte text = some byte → isOption text = false := by
    intro text byte hbyte
    obtain ⟨n, hnumber, -⟩ := parseByte_eq_some_iff.mp hbyte
    exact hnumber.isOption_eq_false
  simp only [byteSequence, bind_eq_ok_iff]
  constructor
  · rintro ⟨⟨destination', used⟩, hcollect, h⟩
    obtain ⟨values, tail, bytes, rfl, hboundary, hforall, rfl, rfl⟩ :=
      (collect_eq_ok_iff hvalue).mp hcollect
    rw [Nat.zero_add] at h
    split at h
    · cases h
    · rename_i hused
      cases h
      refine ⟨values, tail, bytes, rfl, hboundary, ⟨?_, ?_⟩, rfl⟩
      · rintro rfl
        exact hused rfl
      · exact hforall.imp fun _ _ => parseByte_eq_some_iff.mp
  · rintro ⟨values, tail, bytes, rfl, hboundary, ⟨hne, hforall⟩, rfl⟩
    refine ⟨_, (collect_eq_ok_iff hvalue).mpr ⟨values, tail, bytes, rfl, hboundary,
      hforall.imp fun _ _ => parseByte_eq_some_iff.mpr, rfl, (Nat.zero_add _).symm⟩, ?_⟩
    exact if_neg (mt List.length_eq_zero_iff.mp hne)

theorem withBytes_eq_ok_iff {set : List UInt8 → σ} :
    withBytes noValue name rest destination set = .ok (opts, used) ↔
      ∃ values tail bytes, rest = values ++ tail ∧ Boundary tail ∧ Bytes values bytes ∧
        opts = set (destination ++ bytes) ∧ used = values.length := by
  simp only [withBytes, bind_eq_ok_iff, byteSequence_eq_ok_iff, Except.ok.injEq, Prod.mk.injEq]
  constructor
  · rintro ⟨_, ⟨values, tail, bytes, rfl, hboundary, hbytes, rfl⟩, rfl, rfl⟩
    exact ⟨values, tail, bytes, rfl, hboundary, hbytes, rfl, rfl⟩
  · rintro ⟨values, tail, bytes, rfl, hboundary, hbytes, rfl, rfl⟩
    exact ⟨_, ⟨values, tail, bytes, rfl, hboundary, hbytes, rfl⟩, rfl, rfl⟩

theorem withNumber_eq_ok_iff {max_value : UInt64} {accepts : UInt64 → Bool}
    {invalid : Text → String} {set : UInt64 → σ} :
    withNumber name rest max_value accepts invalid set = .ok (opts, used) ↔
      ∃ value tail n, rest = value :: tail ∧ used = 1 ∧ Number value n ∧ n ≤ max_value ∧
        accepts n = true ∧ opts = set n := by
  rw [withNumber, withValue_eq_ok_iff]
  constructor
  · rintro ⟨value, tail, rfl, rfl, hset⟩
    split at hset
    · cases hset
    · rename_i n hn
      split at hset
      · rename_i haccepts
        obtain ⟨hnumber, hle⟩ := parseUnsigned_spec.mp hn
        exact ⟨value, tail, n, rfl, rfl, hnumber, hle, haccepts, (Except.ok.inj hset).symm⟩
      · cases hset
  · rintro ⟨value, tail, n, rfl, rfl, hnumber, hle, haccepts, rfl⟩
    refine ⟨value, tail, rfl, rfl, ?_⟩
    rw [parseUnsigned_spec.mpr ⟨hnumber, hle⟩]
    exact if_pos haccepts

variable {α : Type} {Group : Text → List Text → α → Prop} {apply : α → σ}

/-- What an option of a text accepts. -/
theorem group_of_withValue {set : Text → σ}
    (h : withValue name rest (fun value => .ok (set value)) = .ok (opts, used))
    (hset : ∀ value, ∃ a, Group name [value] a ∧ set value = apply a) :
    ∃ values tail a, rest = values ++ tail ∧ used = values.length ∧ Group name values a ∧
      opts = apply a := by
  obtain ⟨value, tail, rfl, rfl, hvalue⟩ := withValue_eq_ok_iff.mp h
  obtain ⟨a, hgroup, ha⟩ := hset value
  exact ⟨[value], tail, a, rfl, rfl, hgroup, (Except.ok.inj hvalue).symm.trans ha⟩

/-- What an option of a number accepts. -/
theorem group_of_withNumber {max_value : UInt64} {accepts : UInt64 → Bool}
    {invalid : Text → String} {set : UInt64 → σ}
    (h : withNumber name rest max_value accepts invalid set = .ok (opts, used))
    (hset : ∀ value n, Number value n → n ≤ max_value → accepts n = true →
      ∃ a, Group name [value] a ∧ set n = apply a) :
    ∃ values tail a, rest = values ++ tail ∧ used = values.length ∧ Group name values a ∧
      opts = apply a := by
  obtain ⟨value, tail, n, rfl, rfl, hnumber, hle, haccepts, rfl⟩ := withNumber_eq_ok_iff.mp h
  obtain ⟨a, hgroup, ha⟩ := hset value n hnumber hle haccepts
  exact ⟨[value], tail, a, rfl, rfl, hgroup, ha⟩

/-- What an option of a sequence of bytes accepts. -/
theorem group_of_withBytes {set : List UInt8 → σ}
    (h : withBytes noValue name rest destination set = .ok (opts, used))
    (hset : ∀ values bytes, Bytes values bytes →
      ∃ a, Group name values a ∧ set (destination ++ bytes) = apply a) :
    ∃ values tail a, rest = values ++ tail ∧ used = values.length ∧ Group name values a ∧
      opts = apply a := by
  obtain ⟨values, tail, bytes, rfl, -, hbytes, rfl, rfl⟩ := withBytes_eq_ok_iff.mp h
  obtain ⟨a, hgroup, ha⟩ := hset values bytes hbytes
  exact ⟨values, tail, a, rfl, rfl, hgroup, ha⟩

end Readers

end SpwRmap.App
