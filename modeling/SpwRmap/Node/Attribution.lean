import SpwRmap.Node.Eviction
import SpwRmap.Node.Ownership

/-!
# On whose behalf a section acts

A thread that finds an identifier expired gives the lock up and forces the release by the
index alone. It acts for the operation that had the identifier when the scan saw it expired,
whoever has it by then. `Traced` keeps beside the node which operation that was. In runs in
which the eviction, too, finds the callbacks of the operation it acts for, identifiers are
released and slots emptied on behalf of their owners only.
-/

namespace SpwRmap.Concurrent

open Transition

variable {range : TransactionRange} {l : Label} {t : ThreadId} {o v : OpId} {i : Nat}

/-- The operation whose eviction a thread goes on with after it took the error handler. -/
def Pc.victim : Pc → Option OpId
  | .evictSettle _ _ v => some v
  | .evictRelease _ _ v => v
  | _ => none

/-- A thread goes on with an eviction, or takes the error handler out of the slot. -/
theorem ThreadMove.victim {s : State} {pc : Pc} (h : ThreadMove range s l t pc)
    (hv : pc.victim = some v) :
    (s.threads t).victim = some v ∨
      l = .step t ∧ ∃ o i, s.threads t = .evictTake o i ∧
        s.table.reply_error_callback_ i = some v := by
  cases h with
  | stays => exact .inl hv
  | leaves hpc => cases pc <;> simp_all [Pc.victim, Pc.evicting]
  | @take o w i hl hpc herror =>
      cases hv
      exact .inr ⟨hl, o, i, hpc, herror⟩
  | settle hpc =>
      rw [hpc]
      exact .inl hv
  | _ => contradiction

/-- The thread whose scan finds an identifier expired, and the operation that has it. -/
def finds (range : TransactionRange) (s : State) : Label → Option (ThreadId × Option OpId)
  | .step t =>
      match s.threads t with
      | .allocate _ =>
          match s.table.scan range s.now s.transaction_timeout_ with
          | .expired i => some (t, s.owner i)
          | _ => none
      | _ => none
  | _ => none

structure Traced where
  node : State := {}
  /-- Which operation had the identifier that the last scan of a thread found expired. -/
  found : ThreadId → Option OpId := fun _ => none

namespace Traced

def finding (range : TransactionRange) (s : Traced) (l : Label) (t : ThreadId) : Option OpId :=
  match finds range s.node l with
  | some (t', o) => if t = t' then o else s.found t
  | none => s.found t

def step (range : TransactionRange) (s : Traced) (l : Label) : Option Traced :=
  (Concurrent.step range s.node l).map fun node => { node, found := s.finding range l }

/-- In addition, an eviction finds in the slot the error handler of the operation that the
scan found, or none. -/
def orderly (s : Traced) (l : Label) : Bool :=
  Concurrent.orderly s.node l &&
    match l with
    | .step t =>
        match s.node.threads t with
        | .evictTake _ i =>
            s.node.table.reply_error_callback_ i = none ∨
              s.node.table.reply_error_callback_ i = s.found t
        | _ => true
    | _ => true

/-- The identifier that a step marks available, and the operation on whose behalf. -/
def releasing (s : Traced) : Label → Option (Nat × Option OpId)
  | .step t =>
      match s.node.threads t with
      | .evictRelease _ i _ => some (i, s.found t)
      | .failRelease o i | .cancelRelease o i => some (i, some o)
      | _ => none
  | .pollStep _ =>
      match s.node.poll with
      | .release o i => some (i, some o)
      | _ => none
  | _ => none

/-- The slot that a step empties or overwrites, and the operation on whose behalf. -/
def clearing (range : TransactionRange) (s : Traced) : Label → Option (Nat × Option OpId)
  | .step t =>
      match s.node.threads t with
      | .evictTake _ i | .evictReset _ i _ => some (i, s.found t)
      | .register o i | .failClear o i _ | .cancelClear o i => some (i, some o)
      | _ => none
  | .receive packet _ =>
      if packet.type = .ReadReply ∨ packet.type = .WriteReply then
        (range.index packet.transactionID).map fun i => (i, s.node.table.reply_callback_ i)
      else
        none
  | .pollStep _ =>
      match s.node.poll with
      | .reset o i => some (i, some o)
      | _ => none
  | _ => none

/-- A step marks an identifier available, and removes callbacks from a slot, only on
behalf of the operation that has the identifier. -/
structure Rightful (range : TransactionRange) (s : Traced) (l : Label) : Prop where
  release : ∀ i who, s.releasing l = some (i, who) → ∃ o, who = some o ∧ s.node.owner i = some o
  clear : ∀ i who k, s.clearing range l = some (i, who) →
    (s.node.table.reply_callback_ i = some k ∨ s.node.table.reply_error_callback_ i = some k) →
      ∃ o, who = some o ∧ s.node.owner i = some o

/-- Every run of the node is one of these, and the other way round. -/
theorem exists_of_reaches {now : Int} {u : State}
    (h : Reaches (Concurrent.step range) always { now := now } u) :
    ∃ s : Traced, Reaches (step range) always { node := { now := now } } s ∧ s.node = u := by
  refine h.lift node ?_
  intro s u l _ hstep
  exact ⟨trivial, ⟨u, s.finding range l⟩, by rw [step, hstep]; rfl, rfl⟩

variable {s s' : Traced}

theorem orderly_node (h : s.orderly l = true) : Concurrent.orderly s.node l = true :=
  (Bool.and_eq_true_iff.mp h).1

theorem reaches_node {now : Int}
    (h : Reaches (step range) (fun s l => s.orderly l) { node := { now := now } } s) :
    Reaches (Concurrent.step range) (fun s l => Concurrent.orderly s l) { now := now } s.node := by
  refine h.map node ?_
  intro s s' l hguard hstep
  obtain ⟨u, hnode, rfl⟩ := Option.map_eq_some_iff.mp hstep
  exact ⟨orderly_node hguard, hnode⟩

/-- What an eviction takes belongs to the operation that the scan found. -/
theorem found_of_take (hguard : s.orderly (.step t) = true)
    (hpc : s.node.threads t = .evictTake o i)
    (herror : s.node.table.reply_error_callback_ i = some v) : s.found t = some v := by
  simp only [orderly, hpc, herror, Bool.and_eq_true, decide_eq_true_eq] at hguard
  obtain hnone | hfound := hguard.2
  · contradiction
  · exact hfound.symm

/-- A thread that has not just scanned has found what it had found before. -/
theorem finding_eq (h : ∀ o, s.node.threads t ≠ .allocate o) :
    s.finding range l t = s.found t := by
  rw [finding]
  split
  · rename_i t' w hfinds
    refine if_neg ?_
    rintro rfl
    rw [finds.eq_def] at hfinds
    split at hfinds
    · split at hfinds
      · rename_i hpc
        split at hfinds
        · cases hfinds
          exact h _ hpc
        · contradiction
      · contradiction
    · contradiction
  · rfl

/-- Each thread evicts the operation that its scan found. -/
def Attributed (s : Traced) : Prop :=
  ∀ t v, (s.node.threads t).victim = some v → s.found t = some v

theorem Attributed.of_section (hs : Attributed s) (hguard : s.orderly l = true)
    (h : Section range s.node l s'.node) (hfound : s'.found = s.finding range l) :
    Attributed s' := by
  intro t v hv
  rw [hfound]
  obtain hold | ⟨rfl, o, i, hpc, herror⟩ := (h.threadMove t).victim hv
  · rw [finding_eq]
    · exact hs t v hold
    · intro o hpc
      rw [hpc] at hold
      contradiction
  · rw [finding_eq]
    · exact found_of_take hguard hpc herror
    · intro o hallocate
      rw [hpc] at hallocate
      contradiction

theorem Attributed.of_reaches {now : Int}
    (h : Reaches (step range) (fun s l => s.orderly l) { node := { now := now } } s) :
    Attributed s := by
  refine h.invariant (fun t v hv => ?_) ?_
  · contradiction
  · intro s s' l _ hguard hstep hs
    obtain ⟨u, hnode, rfl⟩ := Option.map_eq_some_iff.mp hstep
    exact hs.of_section hguard (.of_step hnode) rfl

/-- An identifier is marked available on behalf of its owner. -/
theorem owner_of_releasing (hs : Attributed s) (ho : Owned s.node) (hc : Consistent s.node)
    (hguard : s.orderly l = true) {who : Option OpId} (h : s.releasing l = some (i, who)) :
    ∃ o, who = some o ∧ s.node.owner i = some o := by
  cases l with
  | step t =>
      cases hpc : s.node.threads t with
      | evictRelease o j v =>
          cases v with
          | none =>
              have hnode := orderly_node hguard
              simp [Concurrent.orderly, hpc] at hnode
          | some v =>
              simp only [releasing, hpc] at h
              cases h
              refine ⟨v, hs t v (by rw [hpc]; rfl), ?_⟩
              exact ho.owner_of_thread (Owned.token_of hpc) (hc.assert hpc).2.1.transaction
      | failRelease o j =>
          simp only [releasing, hpc] at h
          cases h
          exact ⟨o, rfl, ho.owner_of_thread (Owned.token_of hpc) (hc.assert hpc).1.transaction⟩
      | cancelRelease o j =>
          simp only [releasing, hpc] at h
          cases h
          exact ⟨o, rfl, ho.owner_of_thread (Owned.token_of hpc) (hc.assert hpc).1.transaction⟩
      | _ => simp [releasing, hpc] at h
  | pollStep throws =>
      cases hpoll : s.node.poll with
      | release o j =>
          simp only [releasing, hpoll] at h
          cases h
          exact ⟨o, rfl, ho.owner_of_poll (Owned.pollToken_of hpoll)
            (hc.pollAssert hpoll).1.transaction⟩
      | _ => simp [releasing, hpoll] at h
  | _ => simp [releasing] at h

/-- Callbacks are removed from a slot on behalf of the owner of its identifier. -/
theorem owner_of_clearing (ho : Owned s.node) (hc : Consistent s.node)
    (hguard : s.orderly l = true) {who : Option OpId} {k : OpId}
    (h : s.clearing range l = some (i, who))
    (hk : s.node.table.reply_callback_ i = some k ∨
      s.node.table.reply_error_callback_ i = some k) :
    ∃ o, who = some o ∧ s.node.owner i = some o := by
  have hreply : s.node.table.reply_callback_ i = some k := hk.elim id (hc.error k i)
  have howner := ho.owner_of_slot hc hreply
  have hnode := orderly_node hguard
  cases l with
  | step t =>
      cases hpc : s.node.threads t with
      | evictTake o j =>
          simp only [clearing, hpc] at h
          cases h
          exact ⟨k, found_of_take hguard hpc ((ho.paired i).trans hreply), howner⟩
      | evictReset o j v =>
          simp only [clearing, hpc] at h
          simp only [Concurrent.orderly, hpc, decide_eq_true_eq] at hnode
          cases h
          rw [ho.paired i, hreply] at hnode
          contradiction
      | register o j =>
          simp only [clearing, hpc] at h
          cases h
          exact ⟨o, rfl, ho.owner_of_thread (Owned.token_of hpc) (hc.assert hpc).1⟩
      | failClear o j e =>
          simp only [clearing, hpc] at h
          simp only [Concurrent.orderly, hpc, decide_eq_true_eq] at hnode
          cases h
          exact ⟨o, rfl, ho.owner_of_slot hc hnode⟩
      | cancelClear o j =>
          simp only [clearing, hpc] at h
          simp only [Concurrent.orderly, hpc, decide_eq_true_eq] at hnode
          cases h
          exact ⟨o, rfl, ho.owner_of_slot hc hnode⟩
      | _ => simp [clearing, hpc] at h
  | receive packet cause =>
      rw [clearing] at h
      split at h
      · obtain ⟨j, -, hj⟩ := Option.map_eq_some_iff.mp h
        cases hj
        exact ⟨k, hreply, howner⟩
      · contradiction
  | pollStep throws =>
      cases hpoll : s.node.poll with
      | reset o j =>
          simp only [clearing, hpoll] at h
          cases h
          have hempty := hc.pollSlot i (by rw [State.locked, hpoll]; rfl)
          rw [hempty] at hreply
          contradiction
      | _ => simp [clearing, hpoll] at h
  | _ => simp [clearing] at h

theorem rightful (hs : Attributed s) (ho : Owned s.node) (hc : Consistent s.node)
    (hguard : s.orderly l = true) : Rightful range s l := by
  constructor
  · intro i who h
    exact owner_of_releasing hs ho hc hguard h
  · intro i who k h hk
    exact owner_of_clearing ho hc hguard h hk

end Traced

/-- No two unfinished operations have the same identifier. -/
def Exclusive (s : State) : Prop :=
  ∀ o o' i, Unfinished s o → Unfinished s o' → (s.ops o).transaction = some i →
    (s.ops o').transaction = some i → o = o'

/-- In orderly runs no two unfinished operations have the same identifier, and
identifiers are released and slots cleared for their owners only. -/
theorem exclusive_of_orderly {now : Int} {s : Traced}
    (h : Reaches (Traced.step range) (fun s l => s.orderly l) { node := { now := now } } s) :
    Exclusive s.node ∧ ∀ l, s.orderly l = true → Traced.Rightful range s l := by
  have hnode := Traced.reaches_node h
  have ho : Owned s.node := .of_reaches hnode
  have hc : Consistent s.node := .of_reaches hnode
  refine ⟨?_, fun l hguard => Traced.rightful (.of_reaches h) ho hc hguard⟩
  intro o o' i hunfinished hunfinished' hi hi'
  exact ho.valid.exclusive hunfinished hunfinished' hi hi'

theorem exclusive_of_orderly_twoWrites :
    ∃ s, Reaches (Traced.step {}) (fun s l => s.orderly l) {} s ∧
      ((s.node.ops 0).promise.length = 1 ∧ (s.node.ops 1).transaction = some 1) ∧
      Exclusive s.node ∧ ∀ l, s.orderly l = true → Traced.Rightful {} s l := by
  obtain ⟨s, hreach, hs⟩ : ∃ s, Reaches (Traced.step {}) (fun s l => s.orderly l) {} s ∧
      ((s.node.ops 0).promise.length = 1 ∧ (s.node.ops 1).transaction = some 1) :=
    Reaches.exists_of_run twoWrites rfl
  exact ⟨s, hreach, hs, exclusive_of_orderly hreach⟩

theorem cancelRace_not_exclusive :
    ∃ s, Reaches (step {}) always {} s ∧ ¬ Exclusive s := by
  obtain ⟨s, hreach, hfirst, hsecond, hi, hi'⟩ :
      ∃ s, Reaches (step {}) always {} s ∧ ((s.ops 1).promise = [] ∧ (s.ops 1).cancelled = false) ∧
        ((s.ops 2).promise = [] ∧ (s.ops 2).cancelled = false) ∧
        (s.ops 1).transaction = some 0 ∧ (s.ops 2).transaction = some 0 :=
    Reaches.exists_of_run cancelRace rfl
  refine ⟨s, hreach, ?_⟩
  intro hexclusive
  have hsame := hexclusive 1 2 0 hfirst hsecond hi hi'
  contradiction

end SpwRmap.Concurrent
