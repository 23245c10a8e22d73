import Mathlib.Data.List.Basic

/-!
# Partial transition functions and guarded runs

A system is a partial function of a state and a label. `Reaches step guard s t`
says that some sequence of steps leads from `s` to `t`, each of them meeting
`guard` in the state in which it is taken; with the trivial guard these are all
runs. A safety property of all such runs is an invariant: it holds at the start
and each guarded step preserves it.
-/

namespace Transition

variable {σ ι : Type} {step : σ → ι → Option σ} {guard guard' : σ → ι → Prop}

/-- Reachability by steps that meet the guard. -/
inductive Reaches (step : σ → ι → Option σ) (guard : σ → ι → Prop) (s : σ) : σ → Prop where
  | refl : Reaches step guard s s
  | snoc {t u : σ} {l : ι} :
      Reaches step guard s t → guard t l → step t l = some u → Reaches step guard s u

/-- The guard that every step meets. -/
abbrev always : σ → ι → Prop := fun _ _ => True

/-- The state after a sequence of labels, if every step exists and meets the guard. -/
def run (step : σ → ι → Option σ) (guard : σ → ι → Prop) [∀ s l, Decidable (guard s l)] :
    σ → List ι → Option σ
  | s, [] => some s
  | s, l :: ls => if guard s l then (step s l).bind fun t => run step guard t ls else none

namespace Reaches

variable {s t u : σ}

theorem trans (h₁ : Reaches step guard s t) (h₂ : Reaches step guard t u) :
    Reaches step guard s u := by
  induction h₂ with
  | refl => exact h₁
  | snoc _ hguard hstep ih => exact .snoc ih hguard hstep

/-- Runs under a stronger guard are runs under a weaker one. -/
theorem mono (hguard : ∀ t l, guard t l → guard' t l) (h : Reaches step guard s t) :
    Reaches step guard' s t := by
  induction h with
  | refl => exact .refl
  | snoc _ hg hstep ih => exact .snoc ih (hguard _ _ hg) hstep

/-- The invariant rule. The step may use that its state is reachable, and with
that every invariant proved before. -/
theorem invariant {P : σ → Prop} (h : Reaches step guard s t) (hinit : P s)
    (hpreserved : ∀ t u l, Reaches step guard s t → guard t l → step t l = some u → P t → P u) :
    P t := by
  induction h with
  | refl => exact hinit
  | snoc hreach hguard hstep ih => exact hpreserved _ _ _ hreach hguard hstep ih

/-- The runs of a system that does more, seen as runs of one that does less. -/
theorem map {τ : Type} {step' : τ → ι → Option τ} {guard' : τ → ι → Prop} {a b : τ} (f : τ → σ)
    (hstep : ∀ a b l, guard' a l → step' a l = some b →
      guard (f a) l ∧ step (f a) l = some (f b))
    (h : Reaches step' guard' a b) : Reaches step guard (f a) (f b) := by
  induction h with
  | refl => exact .refl
  | snoc _ hguard hnext ih =>
      obtain ⟨hguard, hnext⟩ := hstep _ _ _ hguard hnext
      exact .snoc ih hguard hnext

/-- And back, when the system that does more can follow every step. -/
theorem lift {τ : Type} {step' : τ → ι → Option τ} {guard' : τ → ι → Prop} {a : τ} (f : τ → σ)
    (hstep : ∀ b u l, guard (f b) l → step (f b) l = some u →
      guard' b l ∧ ∃ c, step' b l = some c ∧ f c = u)
    (h : Reaches step guard (f a) t) : ∃ b, Reaches step' guard' a b ∧ f b = t := by
  induction h with
  | refl => exact ⟨a, .refl, rfl⟩
  | snoc _ hguard hnext ih =>
      obtain ⟨b, hreach, rfl⟩ := ih
      obtain ⟨hguard', c, hnext', hc⟩ := hstep b _ _ hguard hnext
      exact ⟨c, .snoc hreach hguard' hnext', hc⟩

theorem of_run [∀ s l, Decidable (guard s l)] {ls : List ι} (h : run step guard s ls = some t) :
    Reaches step guard s t := by
  induction ls generalizing s with
  | nil =>
      cases h
      exact .refl
  | cons l ls ih =>
      rw [run] at h
      split at h
      · rename_i hguard
        obtain ⟨u, hstep, hrest⟩ := Option.bind_eq_some_iff.mp h
        exact trans (.snoc .refl hguard hstep) (ih hrest)
      · contradiction

/-- A condition on the labels alone can be checked apart from the run. -/
theorem of_run_forall [∀ s l, Decidable (guard s l)] {P : ι → Prop} {ls : List ι}
    (h : run step guard s ls = some t) (hls : ∀ l ∈ ls, P l) :
    Reaches step (fun s l => guard s l ∧ P l) s t := by
  induction ls generalizing s with
  | nil =>
      cases h
      exact .refl
  | cons l ls ih =>
      rw [run] at h
      split at h
      · rename_i hguard
        obtain ⟨u, hstep, hrest⟩ := Option.bind_eq_some_iff.mp h
        obtain ⟨hl, hls⟩ := List.forall_mem_cons.mp hls
        exact trans (.snoc .refl ⟨hguard, hl⟩ hstep) (ih hrest hls)
      · contradiction

/-- A run that can be computed shows that its last state is reached. -/
theorem exists_of_run [∀ s l, Decidable (guard s l)] {P : σ → Prop} [DecidablePred P]
    (ls : List ι) (h : (run step guard s ls).any (fun t => decide (P t)) = true) :
    ∃ t, Reaches step guard s t ∧ P t := by
  cases hrun : run step guard s ls with
  | none =>
      rw [hrun] at h
      contradiction
  | some t =>
      rw [hrun] at h
      exact ⟨t, of_run hrun, of_decide_eq_true h⟩

end Reaches

theorem run_append [∀ s l, Decidable (guard s l)] (s : σ) (ls ls' : List ι) :
    run step guard s (ls ++ ls') = (run step guard s ls).bind fun t => run step guard t ls' := by
  induction ls generalizing s with
  | nil => rfl
  | cons l ls ih =>
      rw [List.cons_append, run, run]
      split
      · cases step s l with
        | none => rfl
        | some t => exact ih t
      · rfl

/-- What a run that can be computed leaves. -/
theorem eq_of_map_run {α : Type} [∀ s l, Decidable (guard s l)] {s t : σ} {ls : List ι}
    (h : run step guard s ls = some t) (f : σ → α) {a : α}
    (hf : (run step guard s ls).map f = some a) : f t = a := by
  rw [h] at hf
  exact Option.some.inj hf

end Transition
