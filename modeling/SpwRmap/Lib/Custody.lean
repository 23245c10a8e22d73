import Mathlib.Logic.Function.Basic

/-!
# Custody of exclusively owned resources

Resources are handed to clients one at a time. With a resource goes a token: the
right to hand the resource back on the client's behalf. The token sits in one
place at a time and may be passed from place to place. As long as each token is
only passed on by the place that has it, and a resource is handed back only by the
place that has its client's token and after the client has finished, no two
active clients have been given the same resource.
-/

namespace Custody

variable {P C R : Type}

/-- No token is in two places. -/
def Unique (token : P → Option C) : Prop :=
  ∀ p q c, token p = some c → token q = some c → p = q

namespace Unique

variable [DecidableEq P] {token : P → Option C} {p q : P} {c : C}

/-- Taking a token away. -/
theorem clear (h : Unique token) (p : P) : Unique (Function.update token p none) := by
  intro a b d ha hb
  rw [Function.update_apply] at ha hb
  split at ha
  · contradiction
  · split at hb
    · contradiction
    · exact h a b d ha hb

/-- Putting a token into a place, when no other place has it. -/
theorem put (h : Unique token) (habsent : ∀ q, q ≠ p → token q ≠ some c) :
    Unique (Function.update token p (some c)) := by
  intro a b d ha hb
  rw [Function.update_apply] at ha hb
  split at ha
  · rename_i hap
    cases ha
    split at hb
    · rename_i hbp
      rw [hap, hbp]
    · rename_i hbp
      exact absurd hb (habsent b hbp)
  · split at hb
    · rename_i hap _
      cases hb
      exact absurd ha (habsent a hap)
    · exact h a b d ha hb

/-- A token that was taken away is nowhere. -/
theorem absent (h : Unique token) (hp : token p = some c) (q : P) :
    Function.update token p none q ≠ some c := by
  intro hq
  rw [Function.update_apply] at hq
  split at hq
  · contradiction
  · rename_i hne
    exact hne (h q p c hq hp)

/-- Passing a token on. -/
theorem pass (h : Unique token) (hp : token p = some c) (q : P) :
    Unique (Function.update (Function.update token p none) q (some c)) := by
  apply put (h.clear p)
  intro a _
  exact h.absent hp a

end Unique

/-- Who owns each resource, which resource each client was given, where the
tokens are, and which clients have not finished. -/
structure Ledger (P C R : Type) where
  owner : R → Option C
  claim : C → Option R
  token : P → Option C
  active : C → Prop

namespace Ledger

/-- Tokens are unique and belong to owners, and every active client with a
resource has one somewhere. -/
structure Valid (l : Ledger P C R) : Prop where
  unique : Unique l.token
  owned : ∀ p c, l.token p = some c → ∃ r, l.claim c = some r ∧ l.owner r = some c
  guarded : ∀ c r, l.active c → l.claim c = some r → ∃ p, l.token p = some c

namespace Valid

variable {l : Ledger P C R} {p q : P} {c d : C} {r : R}

theorem owner_eq (h : l.Valid) (hp : l.token p = some c) (hc : l.claim c = some r) :
    l.owner r = some c := by
  obtain ⟨r', hr', howner⟩ := h.owned p c hp
  rw [hc] at hr'
  cases hr'
  exact howner

/-- A resource has at most one token. -/
theorem token_eq (h : l.Valid) (hp : l.token p = some c) (hc : l.claim c = some r)
    (hq : l.token q = some d) (hd : l.claim d = some r) : p = q := by
  have howner := h.owner_eq hp hc
  rw [h.owner_eq hq hd] at howner
  cases howner
  exact h.unique p q c hp hq

theorem owner_of_active (h : l.Valid) (hactive : l.active c) (hc : l.claim c = some r) :
    l.owner r = some c := by
  obtain ⟨p, hp⟩ := h.guarded c r hactive hc
  exact h.owner_eq hp hc

/-- Two active clients never have the same resource. -/
theorem exclusive (h : l.Valid) (hc : l.active c) (hd : l.active d) (hcr : l.claim c = some r)
    (hdr : l.claim d = some r) : c = d := by
  have howner := h.owner_of_active hc hcr
  rw [h.owner_of_active hd hdr] at howner
  exact (Option.some.inj howner).symm

theorem reactivate (h : l.Valid) (active : C → Prop)
    (hactive : ∀ c, active c → l.active c ∨ l.claim c = none) :
    Valid { l with active := active } := by
  refine ⟨h.unique, h.owned, ?_⟩
  intro c r hc hclaim
  obtain hold | hnone := hactive c hc
  · exact h.guarded c r hold hclaim
  · rw [hnone] at hclaim
    contradiction

variable [DecidableEq P]

/-- Passing a token to an empty place. -/
theorem pass (h : l.Valid) (hp : l.token p = some c) (hq : l.token q = none) :
    Valid { l with token := Function.update (Function.update l.token p none) q (some c) } := by
  refine ⟨h.unique.pass hp q, ?_, ?_⟩
  · intro a d ha
    dsimp only at ha ⊢
    rw [Function.update_apply] at ha
    split at ha
    · cases ha
      exact h.owned p c hp
    · rw [Function.update_apply] at ha
      split at ha
      · contradiction
      · exact h.owned a d ha
  · intro d r hactive hd
    obtain ⟨a, ha⟩ := h.guarded d r hactive hd
    by_cases hap : a = p
    · subst hap
      rw [hp] at ha
      cases ha
      exact ⟨q, Function.update_self ..⟩
    · have haq : a ≠ q := by
        rintro rfl
        rw [hq] at ha
        contradiction
      refine ⟨a, ?_⟩
      dsimp only
      rw [Function.update_of_ne haq, Function.update_of_ne hap]
      exact ha

variable [DecidableEq R]

/-- Handing a resource back, by the place that has the token. -/
theorem retire (h : l.Valid) (hp : l.token p = some c) (hc : l.claim c = some r)
    (hdone : ¬ l.active c) :
    Valid { l with
      owner := Function.update l.owner r none
      token := Function.update l.token p none } := by
  refine ⟨h.unique.clear p, ?_, ?_⟩
  · intro q d hq
    dsimp only at hq ⊢
    rw [Function.update_apply] at hq
    split at hq
    · contradiction
    · rename_i hne
      obtain ⟨r', hr', howned⟩ := h.owned q d hq
      have hrr : r' ≠ r := by
        rintro rfl
        exact hne (h.token_eq hq hr' hp hc)
      refine ⟨r', hr', ?_⟩
      rw [Function.update_of_ne hrr]
      exact howned
  · intro d r' hactive hd
    obtain ⟨q, hq⟩ := h.guarded d r' hactive hd
    have hqp : q ≠ p := by
      rintro rfl
      rw [hp] at hq
      cases hq
      exact hdone hactive
    refine ⟨q, ?_⟩
    dsimp only
    rw [Function.update_of_ne hqp]
    exact hq

/-- Handing a free resource to a client without one. -/
theorem acquire [DecidableEq C] (h : l.Valid) (hclaim : l.claim c = none)
    (howner : l.owner r = none) (hp : l.token p = none) :
    Valid { l with
      owner := Function.update l.owner r (some c)
      claim := Function.update l.claim c (some r)
      token := Function.update l.token p (some c) } := by
  have habsent : ∀ q, l.token q ≠ some c := by
    intro q hq
    obtain ⟨r', hr', -⟩ := h.owned q c hq
    rw [hclaim] at hr'
    contradiction
  refine ⟨h.unique.put fun q _ => habsent q, ?_, ?_⟩
  · intro q d hq
    dsimp only at hq ⊢
    rw [Function.update_apply] at hq
    split at hq
    · cases hq
      exact ⟨r, Function.update_self .., Function.update_self ..⟩
    · have hdc : d ≠ c := by
        rintro rfl
        exact habsent q hq
      obtain ⟨r', hr', howned⟩ := h.owned q d hq
      have hrr : r' ≠ r := by
        rintro rfl
        rw [howner] at howned
        contradiction
      refine ⟨r', ?_, ?_⟩
      · rw [Function.update_of_ne hdc]
        exact hr'
      · rw [Function.update_of_ne hrr]
        exact howned
  · intro d r' hactive hd
    dsimp only at hactive hd ⊢
    by_cases hdc : d = c
    · subst hdc
      exact ⟨p, Function.update_self ..⟩
    · rw [Function.update_of_ne hdc] at hd
      obtain ⟨q, hq⟩ := h.guarded d r' hactive hd
      have hqp : q ≠ p := by
        rintro rfl
        rw [hp] at hq
        contradiction
      refine ⟨q, ?_⟩
      rw [Function.update_of_ne hqp]
      exact hq

end Valid

end Ledger

end Custody
