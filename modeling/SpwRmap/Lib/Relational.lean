import Mathlib.Data.List.Forall2
import SpwRmap.Lib.Outcome

/-!
# Two runs of a fallible computation

`Agree E R x y` says that two runs end in the same way: both return values, and these
are related by `R`, or both stop with the same error, and that error satisfies `E`. It
is proved along the structure of the computation, one rule for each of its parts, and
an error that must not occur is excluded by `E`.

For computations with a state, `Parallel M` asks for equal results and for states related by
`M`. A sequence of calls that are parallel one by one is parallel as a whole.
-/

namespace Relational

variable {ε α β γ δ : Type} {E : ε → Prop}

inductive Agree (E : ε → Prop) (R : α → β → Prop) : Except ε α → Except ε β → Prop where
  | ok {a : α} {b : β} : R a b → Agree E R (.ok a) (.ok b)
  | error {e : ε} : E e → Agree E R (.error e) (.error e)

namespace Agree

variable {R S : α → β → Prop} {T : γ → δ → Prop} {x : Except ε α} {y : Except ε β}

theorem mono (h : Agree E R x y) (himp : ∀ a b, R a b → S a b) : Agree E S x y := by
  cases h with
  | ok hrel => exact .ok (himp _ _ hrel)
  | error he => exact .error he

/-- More errors are admitted. -/
theorem weaken {E' : ε → Prop} (h : Agree E R x y) (himp : ∀ e, E e → E' e) : Agree E' R x y := by
  cases h with
  | ok hrel => exact .ok hrel
  | error he => exact .error (himp _ he)

/-- Sequencing: what follows agrees on the related values. -/
theorem bind (h : Agree E R x y) {f : α → Except ε γ} {g : β → Except ε δ}
    (hf : ∀ a b, R a b → Agree E T (f a) (g b)) : Agree E T (x >>= f) (y >>= g) := by
  cases h with
  | ok hrel => exact hf _ _ hrel
  | error he => exact .error he

/-- Two runs of one computation that stops with an admitted error only. -/
theorem of_eq {z w : Except ε α} (h : z = w) (he : ∀ e, z = .error e → E e) :
    Agree E (· = ·) z w := by
  subst h
  cases z with
  | ok a => exact .ok rfl
  | error e => exact .error (he e rfl)

/-- What is observed of related values is the same in both runs. -/
theorem map_eq {φ : Type} (h : Agree E R x y) {f : α → φ} {g : β → φ}
    (hobs : ∀ a b, R a b → f a = g b) : x.map f = y.map g := by
  cases h with
  | ok hrel => exact congrArg Except.ok (hobs _ _ hrel)
  | error _ => rfl

/-- What the first run alone ends with. -/
theorem yields (h : Agree E R x y) : Outcome.Yields E (fun a => ∃ b, R a b) x := by
  cases h with
  | ok hrel => exact ⟨_, hrel⟩
  | error he => exact he

end Agree

variable {σ τ ι κ : Type} {M : σ → τ → Prop}

/-- Two runs that end in the same error or, with related states, in the same result. -/
def Parallel (M : σ → τ → Prop) (x : Except ε (α × σ)) (y : Except ε (α × τ)) : Prop :=
  Agree (fun _ => True) (fun p q => p.1 = q.1 ∧ M p.2 q.2) x y

namespace Parallel

theorem ok {s : σ} {t : τ} (h : M s t) (a : α) :
    Parallel M (.ok (a, s) : Except ε (α × σ)) (.ok (a, t)) :=
  Agree.ok ⟨rfl, h⟩

theorem error (e : ε) : Parallel M (.error e : Except ε (α × σ)) (.error e) :=
  Agree.error trivial

/-- Two runs of one computation. -/
theorem refl {N : σ → σ → Prop} (h : ∀ s, N s s) (x : Except ε (α × σ)) : Parallel N x x := by
  cases x with
  | error e => exact .error e
  | ok r => exact Agree.ok ⟨rfl, h r.2⟩

theorem of_ok {p : α × σ} {q : α × τ} (h : Parallel M (.ok p : Except ε (α × σ)) (.ok q)) :
    p.1 = q.1 ∧ M p.2 q.2 := by
  cases h with
  | ok hrel => exact hrel

/-- What follows is run with the same result and with related states, and may have a state of
another kind. -/
theorem bind {σ' τ' : Type} {N : σ' → τ' → Prop} {x : Except ε (α × σ)} {y : Except ε (α × τ)}
    (h : Parallel M x y)
    {f : α × σ → Except ε (β × σ')} {g : α × τ → Except ε (β × τ')}
    (hf : ∀ a s t, M s t → Parallel N (f (a, s)) (g (a, t))) :
    Parallel N (x >>= f) (y >>= g) := by
  refine Agree.bind h ?_
  rintro ⟨a, s⟩ ⟨_, t⟩ ⟨rfl, hstates⟩
  exact hf a s t hstates

/-- Two runs begin with a computation that uses no state. -/
theorem after (x : Except ε α) {f : α → Except ε (β × σ)} {g : α → Except ε (β × τ)}
    (hf : ∀ a, Parallel M (f a) (g a)) : Parallel M (x >>= f) (x >>= g) := by
  cases x with
  | error e => exact .error e
  | ok a => exact hf a

/-- One of two states is a function of the other. -/
theorem of_map_eq {f : σ → τ} {x : Except ε (α × σ)} {y : Except ε (α × τ)}
    (h : x.map (fun r => (r.1, f r.2)) = y) : Parallel (fun s t => f s = t) x y := by
  subst h
  cases x with
  | error e => exact .error e
  | ok r => exact Agree.ok ⟨rfl, rfl⟩

theorem map_state_eq {f : σ → τ} {x : Except ε (α × σ)} {y : Except ε (α × τ)}
    (h : Parallel (fun s t => f s = t) x y) : x.map (fun r => (r.1, f r.2)) = y := by
  cases h with
  | ok hrel => exact congrArg Except.ok (Prod.ext hrel.1 hrel.2)
  | error _ => rfl

end Parallel

/-- A computation without a result comes before one with a result. -/
theorem Agree.andThen {x : Except ε σ} {y : Except ε τ} (h : Agree (fun _ => True) M x y)
    {σ' τ' : Type} {N : σ' → τ' → Prop} {f : σ → Except ε (β × σ')} {g : τ → Except ε (β × τ')}
    (hf : ∀ s t, M s t → Parallel N (f s) (g t)) : Parallel N (x >>= f) (y >>= g) :=
  h.bind hf

/-- The answers to a sequence of calls. An answer that stops it is the last of them. -/
def session (call : σ → ι → Except ε (α × σ)) (stops : α → Bool) :
    List ι → σ → Except ε (List α × σ)
  | [], s => .ok ([], s)
  | i :: calls, s => do
      let (a, s) ← call s i
      if stops a then
        return ([a], s)
      let (answers, s) ← session call stops calls s
      return (a :: answers, s)

/-- What every call keeps is kept by a sequence of them: by induction on the calls. -/
theorem session_yields {E : ε → Prop} {P : σ → Prop} {call : σ → ι → Except ε (α × σ)}
    (hcall : ∀ s i, P s → Outcome.Yields E (fun r => P r.2) (call s i)) (stops : α → Bool)
    (calls : List ι) {s : σ} (hs : P s) :
    Outcome.Yields E (fun r => P r.2) (session call stops calls s) := by
  induction calls generalizing s with
  | nil => exact hs
  | cons i calls ih =>
      rw [session]
      apply (hcall s i hs).bind
      intro r hr
      dsimp only
      split
      · exact hr
      · apply (ih hr).bind
        intro rest hrest
        exact hrest

/-- By induction on the calls. -/
theorem session_parallel {call : σ → ι → Except ε (α × σ)} {call' : τ → κ → Except ε (α × τ)}
    {Q : ι → κ → Prop} (hcall : ∀ s t i k, M s t → Q i k → Parallel M (call s i) (call' t k))
    (stops : α → Bool) {calls : List ι} {calls' : List κ} (h : List.Forall₂ Q calls calls')
    {s : σ} {t : τ} (hstates : M s t) :
    Parallel M (session call stops calls s) (session call' stops calls' t) := by
  induction h generalizing s t with
  | nil => exact .ok hstates _
  | cons hhead _ ih =>
      rw [session, session]
      apply (hcall _ _ _ _ hstates hhead).bind
      intro a s t hcalled
      dsimp only
      split
      · exact .ok hcalled _
      · apply (ih hcalled).bind
        intro answers s t hrest
        exact .ok hrest _

end Relational
