import Mathlib.Logic.Basic

/-!
# What a fallible computation can end with

`Yields E P x` says that `x` returns a value with `P` or stops with an error with `E`.
Both halves are proved together, along the structure of the computation: a contract
for the values, and the exclusion of the errors outside `E`.
-/

namespace Outcome

variable {ε α β : Type} {E : ε → Prop}

def Yields (E : ε → Prop) (P : α → Prop) : Except ε α → Prop
  | .ok a => P a
  | .error e => E e

namespace Yields

variable {P Q : α → Prop} {R : β → Prop} {x : Except ε α} {a : α} {e : ε}

/-- Nothing is required of the errors or of the values. -/
theorem any : Yields (fun _ => True) (fun _ => True) x := by
  cases x with
  | ok a => trivial
  | error e => trivial

theorem mono (h : Yields E P x) (hvalue : ∀ a, P a → Q a) : Yields E Q x := by
  cases x with
  | ok a => exact hvalue a h
  | error e => exact h

theorem weaken {F : ε → Prop} (h : Yields E P x) (hfault : ∀ e, E e → F e) : Yields F P x := by
  cases x with
  | ok a => exact h
  | error e => exact hfault e h

/-- Sequencing: the contract of the first part is what the second may rely on. -/
theorem bind (h : Yields E P x) {f : α → Except ε β} (hf : ∀ a, P a → Yields E R (f a)) :
    Yields E R (x >>= f) := by
  cases x with
  | ok a => exact hf a h
  | error e => exact h

theorem toOption (h : Yields E P x) (hx : x.toOption = some a) : P a := by
  cases x with
  | ok b =>
      cases hx
      exact h
  | error e => contradiction

theorem excludes (h : Yields E P x) (he : ¬E e) : x ≠ .error e := by
  rintro rfl
  exact he h

end Yields

/-- A sequence returns a value, exactly if both parts do. -/
theorem bind_eq_ok_iff {x : Except ε α} {f : α → Except ε β} {b : β} :
    x >>= f = .ok b ↔ ∃ a, x = .ok a ∧ f a = .ok b := by
  cases x with
  | ok a =>
      change f a = .ok b ↔ _
      simp
  | error e =>
      change Except.error e = .ok b ↔ _
      simp

/-- The same for a first part that returns nothing. -/
theorem bind_unit_eq_ok_iff {x : Except ε Unit} {f : Unit → Except ε β} {b : β} :
    x >>= f = .ok b ↔ x = .ok () ∧ f () = .ok b := by
  rw [bind_eq_ok_iff]
  constructor
  · rintro ⟨⟨⟩, h⟩
    exact h
  · intro h
    exact ⟨(), h⟩

end Outcome
