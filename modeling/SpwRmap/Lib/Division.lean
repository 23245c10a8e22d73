import Mathlib.Algebra.Polynomial.Div

/-!
# Division one coefficient at a time

A register holds a remainder. Each step takes one coefficient of a string, the highest
first, multiplies the register by `X` and reduces modulo a monic polynomial. Whatever a
step looks like, if it does this to the polynomial that the register stands for, then the
register ends with the remainder of the whole string.
-/

namespace Division

open Polynomial

variable {R : Type} [CommRing R] {σ β : Type} {g : R[X]}

/-- The polynomial of a string of coefficients, the highest first. -/
noncomputable def message (coefficient : β → R) : List β → R[X]
  | [] => 0
  | b :: bits => C (coefficient b) * X ^ bits.length + message coefficient bits

/-- One step of the division by `g`: the register is multiplied by `X`, and the coefficient
enters at `X ^ width`. -/
def Divides (g : R[X]) (width : Nat) (coefficient : β → R) (poly : σ → R[X])
    (step : σ → β → σ) : Prop :=
  ∀ s b, g ∣ poly (step s b) - (X * poly s + C (coefficient b) * X ^ width)

variable {width : Nat} {coefficient : β → R} {poly : σ → R[X]} {step : σ → β → σ}

theorem Divides.foldl (h : Divides g width coefficient poly step) (bits : List β) (s : σ) :
    g ∣ poly (bits.foldl step s) -
      (X ^ bits.length * poly s + X ^ width * message coefficient bits) := by
  induction bits generalizing s with
  | nil => simp [message]
  | cons b bits ih =>
      have hrest := ih (step s b)
      have hstep := (h s b).mul_left (X ^ bits.length)
      have hsum := dvd_add hrest hstep
      rw [List.foldl_cons, List.length_cons, message]
      convert hsum using 1
      ring

/-- The register ends with the remainder. -/
theorem Divides.foldl_eq [Nontrivial R] (h : Divides g width coefficient poly step) (hg : g.Monic)
    (hdegree : ∀ s, (poly s).degree < g.degree) (bits : List β) (s : σ) :
    poly (bits.foldl step s) =
      (X ^ bits.length * poly s + X ^ width * message coefficient bits) %ₘ g := by
  rw [← modByMonic_eq_of_dvd_sub hg (h.foldl bits s)]
  exact ((modByMonic_eq_self_iff hg).mpr (hdegree _)).symm

end Division
