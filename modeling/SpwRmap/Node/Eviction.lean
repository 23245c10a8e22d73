import SpwRmap.Node.Consistent

/-!
# Which operations an eviction hits

A thread that finds no available identifier picks an expired one under
`transaction_ids_mtx_` and forces its release after the lock was given up. The release goes
by the index alone. What it settles and drops has waited too long if the index still stands
for what the scan saw: as long as the identifier was not handed out again, every operation
that has it acquired it before the scan. `State` keeps beside the node when each operation
acquired its identifier, and of each thread whether the identifier it evicts was handed out
since.
-/

namespace SpwRmap.Concurrent

open Transition

variable {range : TransactionRange} {s s' : State} {l : Label} {t : ThreadId} {o v : OpId} {i : Nat}

/-- The index for which a thread is inside `forceReleaseTransaction_`. -/
def Pc.evicting : Pc → Option Nat
  | .evictTake _ i | .evictSettle _ i _ | .evictRelease _ i _ | .evictReset _ i _ => some i
  | _ => none

/-- The operation that a step gives an identifier, and the index. -/
def handsOut (range : TransactionRange) (s : State) : Label → Option (OpId × Nat)
  | .step t =>
      match s.threads t with
      | .allocate o =>
          match s.table.scan range s.now s.transaction_timeout_ with
          | .available i => some (o, i)
          | _ => none
      | _ => none
  | _ => none

/-- A new operation has no identifier. -/
theorem transaction_of_start {kind : OpKind} {retries : Option Nat}
    (h : ((s.start t kind retries).ops v).transaction = some i) :
    (s.ops v).transaction = some i := by
  simp only [State.start, State.goto, State.setOp, Function.update_apply] at h
  split at h
  · contradiction
  · exact h

theorem transaction_of_retry (h : ((s.retry t o).ops v).transaction = some i) :
    (s.ops v).transaction = some i := by
  rw [State.retry] at h
  split at h
  · exact transaction_of_start h
  · exact h

theorem transaction_of_update {op : Operation}
    (h : (Function.update s.ops o op v).transaction = some i)
    (hop : op.transaction = (s.ops o).transaction) : (s.ops v).transaction = some i := by
  rw [Function.update_apply] at h
  split at h
  · rename_i hvo
    rw [hvo, ← hop]
    exact h
  · exact h

/-- An operation has its identifier from the step that handed it out. -/
theorem Section.transaction (h : Section range s l s') (hv : (s'.ops v).transaction = some i) :
    (s.ops v).transaction = some i ∨ handsOut range s l = some (v, i) := by
  cases h with
  | call => exact .inl (transaction_of_start hv)
  | @found t o j hpc hscan =>
      simp only [State.goto, State.acquire, State.setOp, Function.update_apply] at hv
      split at hv
      · rename_i hvo
        cases hv
        right
        simp only [handsOut, hpc, hscan, hvo]
      · exact .inl hv
  | exhausted =>
      rw [State.started_ops] at hv
      exact .inl (transaction_of_update hv rfl)
  | evictSettle => exact .inl (transaction_of_update hv rfl)
  | register => exact .inl (transaction_of_update hv rfl)
  | sent =>
      rw [State.started_ops] at hv
      exact .inl hv
  | failSettle => exact .inl (transaction_of_update hv rfl)
  | failRelease =>
      rw [State.started_ops] at hv
      exact .inl hv
  | cancelRelease => exact .inl (transaction_of_update (transaction_of_retry hv) rfl)
  | complete => exact .inl (transaction_of_update hv rfl)
  | settle => exact .inl (transaction_of_update hv rfl)
  | _ => exact .inl hv

/-- An identifier in use was in use before, since the same time, or is handed out. -/
theorem Section.lastUsed (h : Section range s l s')
    (hused : s'.table.available_transaction_ids_ i = false) :
    s.table.available_transaction_ids_ i = false ∧
        s'.table.transaction_last_used_ i = s.table.transaction_last_used_ i ∨
      (∃ o, handsOut range s l = some (o, i)) ∧ s'.table.transaction_last_used_ i = s.now := by
  have hrelease : ∀ j, (s.release j).table.available_transaction_ids_ i = false →
      s.table.available_transaction_ids_ i = false ∧
        (s.release j).table.transaction_last_used_ i = s.table.transaction_last_used_ i := by
    intro j hj
    simp only [State.release, Table.release, Function.update_apply] at hj ⊢
    split at hj
    · contradiction
    · rename_i hij
      rw [if_neg hij]
      exact ⟨hj, rfl⟩
  cases h with
  | @found t o j hpc hscan =>
      simp only [State.goto, State.acquire, State.setOp, Table.acquire, Function.update_apply]
        at hused ⊢
      split at hused
      · rename_i hij
        right
        rw [if_pos hij]
        refine ⟨⟨o, ?_⟩, rfl⟩
        simp only [handsOut, hpc, hscan, hij]
      · rename_i hij
        rw [if_neg hij]
        exact .inl ⟨hused, rfl⟩
  | exhausted =>
      rw [State.started_table] at hused ⊢
      exact .inl ⟨hused, rfl⟩
  | evictRelease => exact .inl (hrelease _ hused)
  | evictReleaseNothing => exact .inl (hrelease _ hused)
  | sent =>
      rw [State.started_table] at hused ⊢
      exact .inl ⟨hused, rfl⟩
  | failRelease =>
      rw [State.started_table] at hused ⊢
      exact .inl (hrelease _ hused)
  | cancelRelease =>
      rw [State.retry_table] at hused ⊢
      exact .inl (hrelease _ hused)
  | pollRelease => exact .inl (hrelease _ hused)
  | _ => exact .inl ⟨hused, rfl⟩

/-- The clock and the timeout change in steps of their own. -/
theorem Section.clock (h : Section range s l s') :
    s'.now = s.now ∧ s'.transaction_timeout_ = s.transaction_timeout_ ∨
      (∃ elapsed, l = .tick elapsed ∧ s' = { s with now := s.now + elapsed }) ∨
      ∃ timeout, l = .setTimeout timeout ∧ s' = { s with transaction_timeout_ := timeout } := by
  cases h with
  | exhausted => exact .inl ⟨State.started_now .., State.started_timeout ..⟩
  | sent => exact .inl ⟨State.started_now .., State.started_timeout ..⟩
  | failRelease => exact .inl ⟨State.started_now .., State.started_timeout ..⟩
  | cancelRelease => exact .inl ⟨State.retry_now .., State.retry_timeout ..⟩
  | @tick elapsed => exact .inr (.inl ⟨elapsed, rfl, rfl⟩)
  | @setTimeout timeout => exact .inr (.inr ⟨timeout, rfl, rfl⟩)
  | _ => exact .inl ⟨rfl, rfl⟩

/-- Where a step leaves a thread, as far as evictions are concerned. -/
inductive ThreadMove (range : TransactionRange) (s : State) (l : Label) (t : ThreadId) :
    Pc → Prop where
  | stays : ThreadMove range s l t (s.threads t)
  | leaves {pc : Pc} (hpc : pc.evicting = none) : ThreadMove range s l t pc
  | expired {o : OpId} {i : Nat} (hl : l = .step t) (hpc : s.threads t = .allocate o)
      (hscan : s.table.scan range s.now s.transaction_timeout_ = .expired i) :
      ThreadMove range s l t (.evictTake o i)
  | take {o v : OpId} {i : Nat} (hl : l = .step t) (hpc : s.threads t = .evictTake o i)
      (herror : s.table.reply_error_callback_ i = some v) :
      ThreadMove range s l t (.evictSettle o i v)
  | nothing {o : OpId} {i : Nat} (hpc : s.threads t = .evictTake o i) :
      ThreadMove range s l t (.evictRelease o i none)
  | settle {o v : OpId} {i : Nat} (hpc : s.threads t = .evictSettle o i v) :
      ThreadMove range s l t (.evictRelease o i (some v))
  | release {o v : OpId} {i : Nat} (hpc : s.threads t = .evictRelease o i (some v)) :
      ThreadMove range s l t (.evictReset o i v)

namespace ThreadMove

/-- The thread that moves, and the others. -/
theorem goto {t' : ThreadId} {pc : Pc} (h : ThreadMove range s l t' pc) (t : ThreadId) :
    ThreadMove range s l t (Function.update s.threads t' pc t) := by
  by_cases htt : t = t'
  · subst htt
    rw [Function.update_self]
    exact h
  · rw [Function.update_of_ne htt]
    exact .stays

theorem started {s₀ : State} (hthreads : s₀.threads = s.threads) (t' : ThreadId) (o : OpId)
    (index : Option Nat) (t : ThreadId) :
    ThreadMove range s l t ((s₀.started t' o index).threads t) := by
  apply State.started_cases (P := fun s₁ => ThreadMove range s l t (s₁.threads t))
  · rw [State.goto, hthreads]
    exact (ThreadMove.leaves rfl).goto t
  · intro _
    rw [State.goto, hthreads]
    exact (ThreadMove.leaves rfl).goto t

theorem retry {s₀ : State} (hthreads : s₀.threads = s.threads) (t' : ThreadId) (o : OpId)
    (t : ThreadId) : ThreadMove range s l t ((s₀.retry t' o).threads t) := by
  apply State.retry_cases (P := fun s₁ => ThreadMove range s l t (s₁.threads t))
  · intro kind retries
    rw [State.start, State.goto, State.setOp, hthreads]
    exact (ThreadMove.leaves rfl).goto t
  · rw [State.goto, hthreads]
    exact (ThreadMove.leaves rfl).goto t

/-- A thread evicts what it evicted before, or what its scan finds expired. -/
theorem evicting {pc : Pc} (h : ThreadMove range s l t pc) (hi : pc.evicting = some i) :
    (s.threads t).evicting = some i ∨
      l = .step t ∧ (∃ o, s.threads t = .allocate o) ∧
        s.table.scan range s.now s.transaction_timeout_ = .expired i := by
  cases h with
  | stays => exact .inl hi
  | leaves hpc =>
      rw [hpc] at hi
      contradiction
  | expired hl hpc hscan =>
      cases hi
      exact .inr ⟨hl, ⟨_, hpc⟩, hscan⟩
  | take hl hpc herror =>
      rw [hpc]
      exact .inl hi
  | nothing hpc =>
      rw [hpc]
      exact .inl hi
  | settle hpc =>
      rw [hpc]
      exact .inl hi
  | release hpc =>
      rw [hpc]
      exact .inl hi

/-- What a thread settles it has taken from the slot. -/
theorem settling (h : ThreadMove range s l t (.evictSettle o i v)) :
    s.threads t = .evictSettle o i v ∨
      l = .step t ∧ s.threads t = .evictTake o i ∧ s.table.reply_error_callback_ i = some v := by
  generalize hpc : Pc.evictSettle o i v = pc at h
  cases h with
  | stays => exact .inl rfl
  | leaves hnone =>
      rw [← hpc] at hnone
      contradiction
  | take hl htake herror =>
      cases hpc
      exact .inr ⟨hl, htake, herror⟩
  | _ => contradiction

end ThreadMove

theorem Section.threadMove (h : Section range s l s') (t : ThreadId) :
    ThreadMove range s l t (s'.threads t) := by
  cases h with
  | expired hpc hscan => exact (ThreadMove.expired rfl hpc hscan).goto t
  | exhausted =>
      apply ThreadMove.started
      rfl
  | evictTake hpc hfree herror => exact (ThreadMove.take rfl hpc herror).goto t
  | evictNothing hpc => exact (ThreadMove.nothing hpc).goto t
  | evictSettle hpc => exact (ThreadMove.settle hpc).goto t
  | evictRelease hpc => exact (ThreadMove.release hpc).goto t
  | sent => exact .started rfl _ _ _ t
  | failRelease =>
      apply ThreadMove.started
      rfl
  | cancelRelease =>
      apply ThreadMove.retry
      rfl
  | ignored => exact .stays
  | dispatched => exact .stays
  | complete => exact .stays
  | settle => exact .stays
  | pollRelease => exact .stays
  | pollReset => exact .stays
  | tick => exact .stays
  | setTimeout => exact .stays
  | lose => exact .stays
  | _ => exact (ThreadMove.leaves rfl).goto t

namespace Eviction

structure State where
  node : Concurrent.State := {}
  /-- When an operation acquired its identifier. -/
  acquiredAt : OpId → Option Int := fun _ => none
  /-- Whether the identifier that a thread evicts was handed out after its scan. -/
  stale : ThreadId → Bool := fun _ => false

def State.acquisition (range : TransactionRange) (s : State) (l : Label) (v : OpId) :
    Option Int :=
  match handsOut range s.node l with
  | some (o, _) => if v = o then some s.node.now else s.acquiredAt v
  | none => s.acquiredAt v

def State.staleness (range : TransactionRange) (s : State) (l : Label) (t : ThreadId) : Bool :=
  match s.node.threads t with
  | .allocate _ => false
  | pc =>
      match handsOut range s.node l with
      | some (_, i) => s.stale t || pc.evicting = some i
      | none => s.stale t

def step (range : TransactionRange) (s : State) (l : Label) : Option State :=
  (Concurrent.step range s.node l).map fun node =>
    { node, acquiredAt := s.acquisition range l, stale := s.staleness range l }

/-- The operation has had its identifier for longer than the timeout. -/
def Overdue (s : State) (v : OpId) : Prop :=
  ∃ acquired, s.acquiredAt v = some acquired ∧
    s.node.now - acquired > s.node.transaction_timeout_ * 10 ^ 6

/-- A step of `forceReleaseTransaction_` settles the operation, or drops a callback of it. -/
inductive Evicts (s : State) : Label → OpId → Prop where
  | reply {t : ThreadId} {o v : OpId} {i : Nat} (hpc : s.node.threads t = .evictTake o i)
      (hreply : s.node.table.reply_callback_ i = some v) : Evicts s (.step t) v
  | error {t : ThreadId} {o v : OpId} {i : Nat} (hpc : s.node.threads t = .evictTake o i)
      (herror : s.node.table.reply_error_callback_ i = some v) : Evicts s (.step t) v
  | settle {t : ThreadId} {o v : OpId} {i : Nat} (hpc : s.node.threads t = .evictSettle o i v) :
      Evicts s (.step t) v
  | reset {t : ThreadId} {o w v : OpId} {i : Nat} (hpc : s.node.threads t = .evictReset o i w)
      (herror : s.node.table.reply_error_callback_ i = some v) : Evicts s (.step t) v

/-- The identifier was not handed out since the scan, when the callbacks are taken out of its
slot and when the error handler resets its own; the timeout is not raised under a thread that
evicts; and where it is compared, 64 bits hold its nanoseconds. -/
def Current (s : State) : Label → Prop
  | .step t =>
      match s.node.threads t with
      | .allocate _ => s.node.transaction_timeout_ * 10 ^ 6 < 2 ^ 63
      | .evictTake _ _ | .evictReset _ _ _ => s.stale t = false
      | _ => True
  | .setTimeout timeout =>
      timeout ≤ s.node.transaction_timeout_ ∨ ∀ t, (s.node.threads t).evicting = none
  | _ => True

structure Inv (s : State) : Prop where
  consistent : Consistent s.node
  acquired : ∀ v i, (s.node.ops v).transaction = some i → ∃ acquired,
    s.acquiredAt v = some acquired ∧ acquired ≤ s.node.now ∧
      (s.node.table.available_transaction_ids_ i = false →
        acquired ≤ s.node.table.transaction_last_used_ i)
  evicting : ∀ t i v, (s.node.threads t).evicting = some i → s.stale t = false →
    (s.node.ops v).transaction = some i → Overdue s v
  settling : ∀ t o i v, s.node.threads t = .evictSettle o i v → Overdue s v

section Step

variable {s s' : State}

theorem handsOut_eq {node : Concurrent.State} (h : handsOut range node l = some (o, i)) :
    ∃ t, l = .step t ∧ node.threads t = .allocate o ∧
      node.table.scan range node.now node.transaction_timeout_ = .available i := by
  rw [handsOut.eq_def] at h
  split at h
  · rename_i t
    split at h
    · rename_i hpc
      split at h
      · rename_i hscan
        cases h
        exact ⟨t, rfl, hpc, hscan⟩
      · contradiction
    · contradiction
  · contradiction

/-- An operation that has an identifier keeps the time of its acquisition. -/
theorem Inv.acquisition_eq (hs : Inv s) (hv : (s.node.ops v).transaction = some i) :
    s.acquisition range l v = s.acquiredAt v := by
  rw [State.acquisition]
  split
  · rename_i o j hhands
    refine if_neg ?_
    rintro rfl
    obtain ⟨t, -, hpc, -⟩ := handsOut_eq hhands
    have hsearch : (s.node.ops v).Searching := hs.consistent.assert hpc
    rw [hsearch.transaction] at hv
    contradiction
  · rfl

/-- A thread whose identifier was not handed out since its scan. -/
theorem staleness_eq_false (h : s.staleness range l t = false)
    (hi : (s.node.threads t).evicting = some i) :
    s.stale t = false ∧ ∀ o, handsOut range s.node l ≠ some (o, i) := by
  rw [State.staleness.eq_def] at h
  split at h
  · rename_i hpc
    rw [hpc] at hi
    contradiction
  · split at h
    · rename_i o j hhands
      rw [Bool.or_eq_false_iff, decide_eq_false_iff_not] at h
      refine ⟨h.1, ?_⟩
      intro o' hother
      rw [hhands] at hother
      cases hother
      exact h.2 hi
    · rename_i hnone
      refine ⟨h, ?_⟩
      intro o' hother
      rw [hnone] at hother
      contradiction

theorem Overdue.mono (h : Overdue s v) (hacquired : s'.acquiredAt v = s.acquiredAt v)
    (hnow : s.node.now ≤ s'.node.now)
    (htimeout : s'.node.transaction_timeout_ ≤ s.node.transaction_timeout_) : Overdue s' v := by
  obtain ⟨acquired, hv, hlate⟩ := h
  refine ⟨acquired, hacquired.trans hv, ?_⟩
  omega

theorem now_le (h : Section range s.node l s'.node) : s.node.now ≤ s'.node.now := by
  obtain ⟨hnow, -⟩ | ⟨elapsed, -, heq⟩ | ⟨timeout, -, heq⟩ := h.clock
  · exact Int.le_of_eq hnow.symm
  · rw [heq]
    exact Int.le_add_of_nonneg_right (Int.natCast_nonneg elapsed)
  · have hnow : s'.node.now = s.node.now := by rw [heq]
    exact Int.le_of_eq hnow.symm

/-- While a thread evicts, the timeout is not raised. -/
theorem Current.timeout_le (hguard : Current s l) (h : Section range s.node l s'.node)
    (hi : (s.node.threads t).evicting = some i) :
    s'.node.transaction_timeout_ ≤ s.node.transaction_timeout_ := by
  obtain ⟨-, htimeout⟩ | ⟨elapsed, -, heq⟩ | ⟨timeout, rfl, heq⟩ := h.clock
  · exact Int.le_of_eq htimeout
  · have htimeout : s'.node.transaction_timeout_ = s.node.transaction_timeout_ := by rw [heq]
    exact Int.le_of_eq htimeout
  · rw [heq]
    obtain hle | hnone := hguard
    · exact hle
    · rw [hnone t] at hi
      contradiction

namespace Inv

theorem acquire (hs : Inv s) (h : Section range s.node l s'.node)
    (hacquired : s'.acquiredAt = s.acquisition range l)
    (hv : (s'.node.ops v).transaction = some i) :
    ∃ acquired, s'.acquiredAt v = some acquired ∧ acquired ≤ s'.node.now ∧
      (s'.node.table.available_transaction_ids_ i = false →
        acquired ≤ s'.node.table.transaction_last_used_ i) := by
  have hnow := now_le h
  rw [hacquired]
  obtain hold | hhands := h.transaction hv
  · obtain ⟨acquired, htime, hle, hlast⟩ := hs.acquired v i hold
    refine ⟨acquired, (hs.acquisition_eq hold).trans htime, Int.le_trans hle hnow, ?_⟩
    intro hused
    obtain ⟨hbusy, hsame⟩ | ⟨-, hfresh⟩ := h.lastUsed hused
    · rw [hsame]
      exact hlast hbusy
    · rw [hfresh]
      exact hle
  · refine ⟨s.node.now, ?_, hnow, ?_⟩
    · simp only [State.acquisition, hhands, if_true]
    · intro hused
      obtain ⟨hbusy, -⟩ | ⟨-, hfresh⟩ := h.lastUsed hused
      · obtain ⟨t, -, -, hscan⟩ := handsOut_eq hhands
        rw [(Table.scan_available hscan).2] at hbusy
        contradiction
      · exact Int.le_of_eq hfresh.symm

/-- What is overdue stays overdue, while a thread evicts. -/
theorem overdue (hs : Inv s) (hguard : Current s l) (h : Section range s.node l s'.node)
    (hacquired : s'.acquiredAt = s.acquisition range l)
    (hevicting : (s.node.threads t).evicting = some i) {j : Nat}
    (hv : (s.node.ops v).transaction = some j) (hlate : Overdue s v) : Overdue s' v := by
  refine hlate.mono ?_ (now_le h) (hguard.timeout_le h hevicting)
  rw [hacquired]
  exact hs.acquisition_eq hv

/-- The scan that finds an identifier expired finds overdue whoever has it. -/
theorem overdue_of_expired (hs : Inv s)
    (hfits : s.node.transaction_timeout_ * 10 ^ 6 < 2 ^ 63)
    (hscan : s.node.table.scan range s.node.now s.node.transaction_timeout_ = .expired i)
    (hv : (s.node.ops v).transaction = some i) : Overdue s v := by
  obtain ⟨-, hused, hlate⟩ := Table.scan_expired hscan
  obtain ⟨acquired, htime, -, hlast⟩ := hs.acquired v i hv
  have hle := hlast hused
  have htimeout := le_nanoseconds hfits
  exact ⟨acquired, htime, by omega⟩

theorem of_section (hs : Inv s) (hguard : Current s l) (h : Section range s.node l s'.node)
    (hacquired : s'.acquiredAt = s.acquisition range l)
    (hstale : s'.stale = s.staleness range l) : Inv s' := by
  refine ⟨hs.consistent.of_section h, fun v i hv => hs.acquire h hacquired hv, ?_, ?_⟩
  · intro t i v hevicting hfresh hv
    rw [hstale] at hfresh
    obtain hold | ⟨rfl, ⟨o, hpc⟩, hscan⟩ := (h.threadMove t).evicting hevicting
    · obtain ⟨hfresh, hother⟩ := staleness_eq_false hfresh hold
      have hv := (h.transaction hv).resolve_right (hother v)
      exact hs.overdue hguard h hacquired hold hv (hs.evicting t i v hold hfresh hv)
    · obtain hv | hhands := h.transaction hv
      · obtain ⟨-, htimeout⟩ | ⟨elapsed, hl, -⟩ | ⟨timeout, hl, -⟩ := h.clock
        · have hfits : s.node.transaction_timeout_ * 10 ^ 6 < 2 ^ 63 := by
            simpa only [Current, hpc] using hguard
          refine (hs.overdue_of_expired hfits hscan hv).mono ?_ (now_le h)
            (Int.le_of_eq htimeout)
          rw [hacquired]
          exact hs.acquisition_eq hv
        · contradiction
        · contradiction
      · obtain ⟨t', -, -, havailable⟩ := handsOut_eq hhands
        rw [hscan] at havailable
        contradiction
  · intro t o i v hpc
    have hmove := h.threadMove t
    rw [hpc] at hmove
    obtain hold | ⟨rfl, htake, herror⟩ := hmove.settling
    · have hv := (hs.consistent.assert hold).2.transaction
      exact hs.overdue hguard h hacquired (by rw [hold]; rfl) hv (hs.settling t o i v hold)
    · have hv := (hs.consistent.slot v i (hs.consistent.error v i herror)).transaction
      have hevicting : (s.node.threads t).evicting = some i := by
        rw [htake]
        rfl
      have hfresh : s.stale t = false := by
        simpa only [Current, htake] using hguard
      exact hs.overdue hguard h hacquired hevicting hv (hs.evicting t i v hevicting hfresh hv)

theorem initial (now timeout : Int) : Inv { node := { now, transaction_timeout_ := timeout } } := by
  refine ⟨(Consistent.initial now).congr rfl rfl rfl rfl rfl rfl, ?_, ?_, ?_⟩
  · intro v i h
    contradiction
  · intro t i v h
    contradiction
  · intro t o i v h
    contradiction

end Inv

/-- In runs in which evictions act on what their scan saw, only overdue operations are
settled by an eviction or lose their callbacks to one. -/
theorem evicts_only_overdue {now timeout : Int}
    (h : Reaches (step range) Current { node := { now, transaction_timeout_ := timeout } } s)
    (hguard : Current s l) (hevicts : Evicts s l v) : Overdue s v := by
  have hs : Inv s := by
    refine h.invariant (Inv.initial now timeout) ?_
    intro t u l _ hcurrent hstep ht
    obtain ⟨node, hnode, rfl⟩ := Option.map_eq_some_iff.mp hstep
    exact ht.of_section hcurrent (.of_step hnode) rfl rfl
  cases hevicts with
  | @reply t o _ i hpc hreply =>
      refine hs.evicting t i v (by rw [hpc]; rfl) ?_ (hs.consistent.slot v i hreply).transaction
      simpa only [Current, hpc] using hguard
  | @error t o _ i hpc herror =>
      have hreply := hs.consistent.error v i herror
      refine hs.evicting t i v (by rw [hpc]; rfl) ?_ (hs.consistent.slot v i hreply).transaction
      simpa only [Current, hpc] using hguard
  | @settle t o _ i hpc => exact hs.settling t o i v hpc
  | @reset t o w _ i hpc herror =>
      have hreply := hs.consistent.error v i herror
      refine hs.evicting t i v (by rw [hpc]; rfl) ?_ (hs.consistent.slot v i hreply).transaction
      simpa only [Current, hpc] using hguard

end Step

/-- A guard that can be computed: the timeout is never raised at all. -/
def current (s : State) : Label → Bool
  | .step t =>
      match s.node.threads t with
      | .allocate _ => s.node.transaction_timeout_ * 10 ^ 6 < 2 ^ 63
      | .evictTake _ _ | .evictReset _ _ _ => !s.stale t
      | _ => true
  | .setTimeout timeout => timeout ≤ s.node.transaction_timeout_
  | _ => true

theorem Current.of_current {s : State} (h : current s l = true) : Current s l := by
  cases l with
  | step t =>
      rw [current] at h
      rw [Current]
      split at h
      · exact of_decide_eq_true h
      · exact (Bool.not_eq_true' _).mp h
      · exact (Bool.not_eq_true' _).mp h
      · trivial
  | setTimeout timeout => exact .inl (of_decide_eq_true h)
  | _ => trivial

/-- The only identifier, taken by a write that no one answers for two seconds. -/
def unanswered : List Label :=
  [.call 0 .write none, .step 0, .step 0, .step 0, .step 0, .tick 2000000000]

theorem evicts_only_overdue_unanswered : ∃ s : State,
    Reaches (step { transaction_id_min := 0x20, transaction_id_max := 0x21 }) Current {} s ∧
      Evicts s (.step 1) 0 ∧ Overdue s 0 := by
  obtain ⟨s, hreach, hpc, hreply, hfresh⟩ : ∃ s,
      Reaches (step { transaction_id_min := 0x20, transaction_id_max := 0x21 })
          (fun s l => current s l) {} s ∧
        s.node.threads 1 = .evictTake 1 0 ∧ s.node.table.reply_callback_ 0 = some 0 ∧
        s.stale 1 = false := by
    apply Reaches.exists_of_run (unanswered ++ [.call 1 .write none, .step 1])
    decide +kernel
  have hreach := hreach.mono fun _ _ => Current.of_current
  have hevicts : Evicts s (.step 1) 0 := .reply hpc hreply
  have hguard : Current s (.step 1) := by
    simpa only [Current, hpc] using hfresh
  exact ⟨s, hreach, hevicts, evicts_only_overdue hreach hguard hevicts⟩

/-- Two threads find the identifier of that write expired. The first evicts it and registers
an operation of its own under it before the second goes on. -/
def twoEvictors : List Label :=
  unanswered ++ [.call 1 .write none, .step 1, .call 2 .write none, .step 2,
    .step 1, .step 1, .step 1, .step 1, .step 1, .step 1]

/-- The second drops the callbacks of an operation that acquired its identifier just now. -/
theorem twoEvictors_evicts_fresh : ∃ s : State,
    Reaches (step { transaction_id_min := 0x20, transaction_id_max := 0x21 }) always {} s ∧
      Evicts s (.step 2) 1 ∧
      (step { transaction_id_min := 0x20, transaction_id_max := 0x21 } s (.step 2)).isSome ∧
      ¬ Overdue s 1 := by
  obtain ⟨s, hreach, hpc, hreply, hacquired, hnow, htimeout, henabled⟩ : ∃ s,
      Reaches (step { transaction_id_min := 0x20, transaction_id_max := 0x21 }) always {} s ∧
        s.node.threads 2 = .evictTake 2 0 ∧ s.node.table.reply_callback_ 0 = some 1 ∧
        s.acquiredAt 1 = some 2000000000 ∧ s.node.now = 2000000000 ∧
        s.node.transaction_timeout_ = 1000 ∧
        (step { transaction_id_min := 0x20, transaction_id_max := 0x21 } s (.step 2)).isSome := by
    apply Reaches.exists_of_run twoEvictors
    decide +kernel
  refine ⟨s, hreach, .reply hpc hreply, henabled, ?_⟩
  rintro ⟨acquired, hv, hlate⟩
  rw [hacquired] at hv
  cases hv
  rw [hnow, htimeout] at hlate
  contradiction

end Eviction

end SpwRmap.Concurrent
