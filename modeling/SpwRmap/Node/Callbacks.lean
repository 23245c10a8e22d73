import SpwRmap.Node.Consistent

/-!
# When completion callbacks run

`on_complete` of an operation can still run while its reply callback is in a slot, and
once the poll thread has taken it from there. Such an operation is `Pending`. A pending
operation is untouched: its promise has no value, `on_complete` has not run and it was
not cancelled. Every path that settles or cancels an operation first clears the slot in
which the operation is, under the lock that the poll thread holds while it runs a
callback, so that the operation is no longer pending; and an operation is registered
once only. None of this depends on who owns the identifier of the slot.

A thread leaves an attempt of a synchronous call when the promise has a value or the
attempt is cancelled, hence never while it is pending.
-/

namespace SpwRmap.Concurrent

open Transition

variable {range : TransactionRange} {s s' : State} {l : Label} {t : ThreadId} {o v : OpId} {i : Nat}

/-- `on_complete` of the operation may still run. -/
def Pending (s : State) (o : OpId) : Prop :=
  (∃ i, s.table.reply_callback_ i = some o) ∨ ∃ i packet, s.poll = .complete o i packet

/-- No call of `on_complete`, no value and no cancellation so far. -/
structure Operation.Untouched (op : Operation) : Prop where
  promise : op.promise = []
  completions : op.completions = []
  cancelled : op.cancelled = false

/-- The operation whose callbacks a thread has removed, to settle or to cancel it. -/
def Pc.leaving : Pc → Option OpId
  | .evictSettle _ _ v => some v
  | .failSettle o _ _ => some o
  | .cancelRelease o _ => some o
  | _ => none

structure OnTime (s : State) : Prop where
  untouched : ∀ o, Pending s o → (s.ops o).Untouched
  leaving : ∀ t o, (s.threads t).leaving = some o → ¬ Pending s o
  attended : ∀ o, Pending s o → (s.ops o).retries ≠ none → ∃ t, (s.threads t).own = some o
  early : ∀ o, (s.ops o).registered = false →
    (s.ops o).completions = [] ∧ (s.ops o).cancelled = false
  once : ∀ o, (s.ops o).completions.length ≤ 1
  settling : ∀ o i value, s.poll = .settle o i value → (s.ops o).completions ≠ []
  success : ∀ o, .ok () ∈ (s.ops o).promise → (s.ops o).completions ≠ []

theorem Pending.holding (hc : Consistent s) (h : Pending s o) : ∃ i, (s.ops o).Holding i := by
  obtain ⟨i, hreply⟩ | ⟨i, packet, hpoll⟩ := h
  · exact ⟨i, hc.slot o i hreply⟩
  · exact ⟨i, hc.pollAssert hpoll⟩

theorem not_pending_of_unregistered (hc : Consistent s) (h : (s.ops o).registered = false) :
    ¬ Pending s o := by
  intro hpending
  obtain ⟨i, hholding⟩ := hpending.holding hc
  rw [hholding.registered] at h
  contradiction

/-- An operation is in the slot of its identifier only. -/
theorem slot_eq (hc : Consistent s) (hholding : (s.ops o).Holding i) {j : Nat}
    (h : s.table.reply_callback_ j = some o) : j = i := by
  have hj := (hc.slot o j h).transaction
  rw [hholding.transaction] at hj
  exact (Option.some.inj hj).symm

theorem Pending.of_clear (h : Pending (s.clear i) o) : Pending s o := by
  obtain ⟨j, hreply⟩ | hpoll := h
  · simp only [State.clear, Table.clear, Function.update_apply] at hreply
    split at hreply
    · contradiction
    · exact .inl ⟨j, hreply⟩
  · exact .inr hpoll

/-- Clearing its slot, while the poll thread does not hold it, ends the wait of an operation. -/
theorem not_pending_clear (hc : Consistent s) (hholding : (s.ops o).Holding i)
    (hfree : ¬ s.locked i) : ¬ Pending (s.clear i) o := by
  rintro (⟨j, hreply⟩ | ⟨j, packet, hpoll⟩)
  · simp only [State.clear, Table.clear, Function.update_apply] at hreply
    split at hreply
    · contradiction
    · rename_i hne
      exact hne (slot_eq hc hholding hreply)
  · have hpoll : s.poll = .complete o j packet := hpoll
    have hj := (hc.pollAssert hpoll).transaction
    rw [hholding.transaction] at hj
    apply hfree
    rw [State.locked, hpoll, Option.some.inj hj]
    rfl

/-- What the poll thread took from a slot is in no other one. -/
theorem not_pending_of_poll (hc : Consistent s) (hholding : (s.ops o).Holding i)
    (hlocked : s.locked i) (hpoll : ∀ j packet, s.poll ≠ .complete o j packet) :
    ¬ Pending s o := by
  rintro (⟨j, hreply⟩ | ⟨j, packet, hcomplete⟩)
  · rw [slot_eq hc hholding hreply, hc.pollSlot i hlocked] at hreply
    contradiction
  · exact hpoll j packet hcomplete

/-- A thread that removed callbacks did so after their registration. -/
theorem registered_of_leaving (hc : Consistent s) (h : (s.threads t).leaving = some o) :
    (s.ops o).registered = true := by
  cases hpc : s.threads t with
  | evictSettle w i v =>
      rw [hpc] at h
      cases h
      exact (hc.assert hpc).2.registered
  | failSettle o' i e =>
      rw [hpc] at h
      cases h
      exact (hc.assert hpc).registered
  | cancelRelease o' i =>
      rw [hpc] at h
      cases h
      exact (hc.assert hpc).1.registered
  | _ =>
      rw [hpc] at h
      contradiction

namespace OnTime

theorem congr (hs : OnTime s) (hops : s'.ops = s.ops) (hthreads : s'.threads = s.threads)
    (hpoll : s'.poll = s.poll) (hreply : s'.table.reply_callback_ = s.table.reply_callback_) :
    OnTime s' := by
  have hpending : ∀ o, Pending s' o = Pending s o := by
    intro o
    rw [Pending, Pending, hreply, hpoll]
  obtain ⟨untouched, leaving, attended, early, once, settling, success⟩ := hs
  refine ⟨?_, ?_, ?_, ?_, ?_, ?_, ?_⟩
  · simpa only [hpending, hops] using untouched
  · simpa only [hpending, hthreads] using leaving
  · simpa only [hpending, hops, hthreads] using attended
  · simpa only [hops] using early
  · simpa only [hops] using once
  · simpa only [hops, hpoll] using settling
  · simpa only [hops] using success

theorem release (hs : OnTime s) (i : Nat) : OnTime (s.release i) :=
  hs.congr rfl rfl rfl rfl

theorem resetError (hs : OnTime s) (i : Nat) : OnTime (s.resetError i) :=
  hs.congr rfl rfl rfl rfl

/-- Fewer operations are pending. -/
theorem shrink (hs : OnTime s) (hops : s'.ops = s.ops) (hthreads : s'.threads = s.threads)
    (hpending : ∀ o, Pending s' o → Pending s o)
    (hsettling : ∀ o i value, s'.poll = .settle o i value → (s.ops o).completions ≠ []) :
    OnTime s' := by
  refine ⟨?_, ?_, ?_, ?_, ?_, ?_, ?_⟩
  · intro o h
    rw [hops]
    exact hs.untouched o (hpending o h)
  · intro t o hleaving h
    rw [hthreads] at hleaving
    exact hs.leaving t o hleaving (hpending o h)
  · intro o h hsync
    rw [hops] at hsync
    rw [hthreads]
    exact hs.attended o (hpending o h) hsync
  · rw [hops]
    exact hs.early
  · rw [hops]
    exact hs.once
  · rw [hops]
    exact hsettling
  · rw [hops]
    exact hs.success

theorem clear (hs : OnTime s) (i : Nat) : OnTime (s.clear i) :=
  hs.shrink rfl rfl (fun _ => Pending.of_clear) hs.settling

/-- The poll thread goes on, past the callback. -/
theorem setPoll (hs : OnTime s) {pc : PollPc} (hpc : ∀ o i packet, pc ≠ .complete o i packet)
    (hsettling : ∀ o i value, pc = .settle o i value → (s.ops o).completions ≠ []) :
    OnTime { s with poll := pc } := by
  refine hs.shrink rfl rfl ?_ hsettling
  rintro o (hreply | ⟨i, packet, hpoll⟩)
  · exact .inl hreply
  · exact absurd hpoll (hpc o i packet)

/-- A thread goes on. It may leave an operation that is not pending or not synchronous. -/
theorem goto (hs : OnTime s) {pc : Pc} (hleaving : ∀ o, pc.leaving = some o → ¬ Pending s o)
    (hown : ∀ o, (s.threads t).own = some o →
      pc.own = some o ∨ ¬ Pending s o ∨ (s.ops o).retries = none) :
    OnTime (s.goto t pc) := by
  refine ⟨hs.untouched, ?_, ?_, hs.early, hs.once, hs.settling, hs.success⟩
  · intro t' o h
    simp only [State.goto, Function.update_apply] at h
    split at h
    · exact hleaving o h
    · exact hs.leaving t' o h
  · intro o hpending hsync
    obtain ⟨t', ht'⟩ := hs.attended o hpending hsync
    by_cases htt : t' = t
    · subst htt
      obtain hsame | hnot | hasync := hown o ht'
      · refine ⟨t', ?_⟩
        simpa only [State.goto, Function.update_self] using hsame
      · exact absurd hpending hnot
      · exact absurd hasync hsync
    · refine ⟨t', ?_⟩
      simpa only [State.goto, Function.update_of_ne htt] using ht'

/-- An operation that is not pending changes. -/
theorem setOp (hs : OnTime s) {op : Operation} (hpending : ¬ Pending s o)
    (hearly : op.registered = false → op.completions = [] ∧ op.cancelled = false)
    (honce : op.completions.length ≤ 1) (hkept : (s.ops o).completions ≠ [] → op.completions ≠ [])
    (hsuccess : .ok () ∈ op.promise → op.completions ≠ []) : OnTime (s.setOp o op) := by
  have hother : ∀ o', Pending s o' → (s.setOp o op).ops o' = s.ops o' := by
    intro o' h
    refine Function.update_of_ne ?_ ..
    rintro rfl
    exact hpending h
  refine ⟨?_, hs.leaving, ?_, ?_, ?_, ?_, ?_⟩
  · intro o' h
    rw [hother o' h]
    exact hs.untouched o' h
  · intro o' h hsync
    rw [hother o' h] at hsync
    exact hs.attended o' h hsync
  · exact Consistent.forall_ops
      (fun op => op.registered = false → op.completions = [] ∧ op.cancelled = false) hearly hs.early
  · exact Consistent.forall_ops (fun op => op.completions.length ≤ 1) honce hs.once
  · intro o' i value h
    simp only [State.setOp, Function.update_apply]
    split
    · rename_i hoo
      exact hkept (hoo ▸ hs.settling o' i value h)
    · exact hs.settling o' i value h
  · exact Consistent.forall_ops (fun op => .ok () ∈ op.promise → op.completions ≠ []) hsuccess
      hs.success

/-- The promise of an operation that is not pending is given a value, success only after
`on_complete` has run. -/
theorem setValue (hs : OnTime s) (hpending : ¬ Pending s o) {value : Except ErrorCode Unit}
    (hvalue : value = .ok () → (s.ops o).completions ≠ []) : OnTime (s.setValue o value) := by
  refine hs.setOp hpending (hs.early o) (hs.once o) (fun h => h) ?_
  intro h
  obtain h | h := List.mem_append.mp h
  · exact hs.success o h
  · exact hvalue (List.mem_singleton.mp h).symm

/-- A thread goes on with the operation it has, or with none that is pending. -/
theorem proceed (hs : OnTime s) {pc pc' : Pc} (hpc : s.threads t = pc)
    (hleaving : ∀ o, pc'.leaving = some o → ¬ Pending s o) (hown : pc'.own = pc.own) :
    OnTime (s.goto t pc') := by
  refine hs.goto hleaving ?_
  intro o h
  rw [hpc] at h
  exact .inl (hown.trans h)

/-- The start of an operation is over. An asynchronous call returns. -/
theorem started (hs : OnTime s) {pc : Pc} (hpc : s.threads t = pc) (hown : pc.own = some o)
    (index : Option Nat) : OnTime (s.started t o index) := by
  rw [State.started]
  split
  · rename_i hasync
    refine hs.goto (fun o h => by contradiction) ?_
    intro o' h
    rw [hpc, hown] at h
    cases h
    exact .inr (.inr hasync)
  · exact hs.proceed hpc (fun o h => by contradiction) hown.symm

/-- A thread starts an operation, having left the one it had. -/
theorem start (hs : OnTime s) (hc : Consistent s)
    (hown : ∀ o, (s.threads t).own = some o → ¬ Pending s o) (kind : OpKind)
    (retries : Option Nat) : OnTime (s.start t kind retries) := by
  have hnew : ¬ Pending s s.nextOp := by
    apply not_pending_of_unregistered hc
    rw [hc.fresh s.nextOp (Nat.le_refl _)]
  have hop : OnTime (s.setOp s.nextOp { kind, retries }) :=
    hs.setOp hnew (fun _ => ⟨rfl, rfl⟩) (Nat.zero_le 1)
      (fun h => absurd (by rw [hc.fresh s.nextOp (Nat.le_refl _)]) h) (fun h => by contradiction)
  have hmoved : OnTime ((s.setOp s.nextOp { kind, retries }).goto t (.allocate s.nextOp)) :=
    hop.goto (fun o h => by contradiction) fun o h => .inr (.inl (hown o h))
  exact hmoved.congr rfl rfl rfl rfl

/-- The end of an attempt. -/
theorem retry (hs : OnTime s) (hc : Consistent s)
    (hown : ∀ o, (s.threads t).own = some o → ¬ Pending s o) (o : OpId) : OnTime (s.retry t o) :=
  State.retry_cases (hs.start hc hown)
    (hs.goto (fun o h => by contradiction) fun o h => .inr (.inl (hown o h)))

/-- The callbacks of an operation enter their slot, for the first time. -/
theorem register (hs : OnTime s) (hc : Consistent s) (hpc : s.threads t = .register o i) :
    OnTime ((s.register o i).goto t (.sending o i)) := by
  obtain ⟨-, hpromise, hunregistered⟩ : (Pc.register o i).Assert s.ops := hc.assert hpc
  obtain ⟨hcompletions, hcancelled⟩ := hs.early o hunregistered
  have hop : OnTime (s.setOp o { s.ops o with registered := true }) :=
    hs.setOp (not_pending_of_unregistered hc hunregistered) (fun h => by contradiction) (hs.once o)
      (fun h => h) (hs.success o)
  have hmoved : OnTime ((s.setOp o { s.ops o with registered := true }).goto t (.sending o i)) :=
    hop.proceed hpc (fun o h => by contradiction) rfl
  have hsplit : ∀ o', Pending ((s.register o i).goto t (.sending o i)) o' →
      o' = o ∨
        Pending ((s.setOp o { s.ops o with registered := true }).goto t (.sending o i)) o' := by
    rintro o' (⟨j, hreply⟩ | hpoll)
    · simp only [State.goto, State.register, Table.register, Function.update_apply] at hreply
      split at hreply
      · exact .inl (Option.some.inj hreply).symm
      · exact .inr (.inl ⟨j, hreply⟩)
    · exact .inr (.inr hpoll)
  refine ⟨?_, ?_, ?_, hmoved.early, hmoved.once, hmoved.settling, hmoved.success⟩
  · intro o' h
    obtain rfl | h := hsplit o' h
    · simp only [State.goto, State.register, State.setOp, Function.update_self]
      exact ⟨hpromise, hcompletions, hcancelled⟩
    · exact hmoved.untouched o' h
  · intro t' o' hleaving h
    obtain rfl | h := hsplit o' h
    · -- Whoever removed these callbacks found them registered.
      simp only [State.goto, Function.update_apply] at hleaving
      split at hleaving
      · contradiction
      · have hregistered := registered_of_leaving hc (t := t') hleaving
        rw [hunregistered] at hregistered
        contradiction
    · exact hmoved.leaving t' o' hleaving h
  · intro o' h hsync
    obtain rfl | h := hsplit o' h
    · refine ⟨t, ?_⟩
      simp only [State.goto, Function.update_self]
      rfl
    · exact hmoved.attended o' h hsync

/-- `on_complete` runs. -/
theorem complete (hs : OnTime s) (hc : Consistent s) {packet : Packet}
    (hpoll : s.poll = .complete o i packet) (value : Except ErrorCode Unit) :
    OnTime { s.setOp o { s.ops o with completions := (s.ops o).completions ++ [packet] } with
      poll := .settle o i value } := by
  have hholding : (s.ops o).Holding i := hc.pollAssert hpoll
  have hcompletions := (hs.untouched o (.inr ⟨i, packet, hpoll⟩)).completions
  have hmoved : OnTime { s with poll := .idle } := hs.setPoll (by simp) (by simp)
  have hnot : ¬ Pending { s with poll := .idle } o := by
    rintro (⟨j, hreply⟩ | ⟨j, packet, hcomplete⟩)
    · have hreply : s.table.reply_callback_ j = some o := hreply
      have hlocked : s.locked i := by
        rw [State.locked, hpoll]
        rfl
      rw [slot_eq hc hholding hreply, hc.pollSlot i hlocked] at hreply
      contradiction
    · contradiction
  have hcalled : OnTime ({ s with poll := .idle }.setOp o
      { s.ops o with completions := (s.ops o).completions ++ [packet] }) := by
    refine hmoved.setOp hnot ?_ ?_ (by simp) (by simp)
    · intro h
      have hregistered := hholding.registered
      rw [show (s.ops o).registered = false from h] at hregistered
      contradiction
    · simp [hcompletions]
  refine hcalled.setPoll (by simp) ?_
  intro o' i' value' h
  cases h
  simp [State.setOp]

theorem of_section (hs : OnTime s) (hc : Consistent s) (h : Section range s l s') : OnTime s' := by
  cases h with
  | @call t kind retry_count hpc =>
      refine hs.start hc ?_ _ _
      intro o h
      rw [hpc] at h
      contradiction
  | @found t o i hpc hscan =>
      have hsearch : (s.ops o).Searching := hc.assert hpc
      have hop : OnTime (s.setOp o { s.ops o with transaction := some i }) :=
        hs.setOp (not_pending_of_unregistered hc hsearch.registered) (hs.early o) (hs.once o)
          (fun h => h) (hs.success o)
      have hmoved : OnTime ((s.setOp o { s.ops o with transaction := some i }).goto t
          (.register o i)) := hop.proceed hpc (fun o h => by contradiction) rfl
      exact hmoved.congr rfl rfl rfl rfl
  | expired hpc hscan => exact hs.proceed hpc (fun o h => by contradiction) rfl
  | @exhausted t o hpc hscan =>
      have hsearch : (s.ops o).Searching := hc.assert hpc
      have hset : OnTime (s.setValue o (.error (.errc .resource_unavailable_try_again))) :=
        hs.setValue (not_pending_of_unregistered hc hsearch.registered) (fun h => by contradiction)
      exact hset.started hpc rfl none
  | @evictTake t o v i hpc hfree herror =>
      refine (hs.clear i).proceed hpc ?_ rfl
      intro o' h
      cases h
      exact not_pending_clear hc (hc.slot v i (hc.error v i herror)) hfree
  | evictNothing hpc hfree herror =>
      exact (hs.clear _).proceed hpc (fun o h => by contradiction) rfl
  | @evictSettle t o v i hpc =>
      have hset : OnTime (s.setValue v (.error (.errc .timed_out))) :=
        hs.setValue (hs.leaving t v (by rw [hpc]; rfl)) (fun h => by contradiction)
      exact hset.proceed hpc (fun o h => by contradiction) rfl
  | evictRelease hpc => exact (hs.release _).proceed hpc (fun o h => by contradiction) rfl
  | evictReleaseNothing hpc => exact (hs.release _).proceed hpc (fun o h => by contradiction) rfl
  | evictReset hpc => exact (hs.resetError _).proceed hpc (fun o h => by contradiction) rfl
  | register hpc hfree => exact hs.register hc hpc
  | @transmit t o i hpc =>
      have hmoved : OnTime (s.goto t (.sent o i)) :=
        hs.proceed hpc (fun o h => by contradiction) rfl
      exact hmoved.congr rfl rfl rfl rfl
  | sent hpc => exact hs.started hpc rfl _
  | @failClear t o i e hpc hfree =>
      refine (hs.clear i).proceed hpc ?_ rfl
      intro o' h
      cases h
      exact not_pending_clear hc (hc.assert hpc) hfree
  | @failSettle t o i e hpc =>
      have hset : OnTime (s.setValue o (.error e)) :=
        hs.setValue (hs.leaving t o (by rw [hpc]; rfl)) (fun h => by contradiction)
      exact hset.proceed hpc (fun o h => by contradiction) rfl
  | failRelease hpc => exact (hs.release _).started hpc rfl none
  | @ready t o index hpc hset =>
      refine hs.goto (fun o h => by contradiction) ?_
      intro o' h
      rw [hpc] at h
      cases h
      exact .inr (.inl fun hpending => hset (hs.untouched o hpending).promise)
  | @cancelClear t o i hpc hfree =>
      refine (hs.clear i).proceed hpc ?_ rfl
      intro o' h
      cases h
      exact not_pending_clear hc (hc.assert hpc).1 hfree
  | @cancelRelease t o i hpc =>
      have hnot : ¬ Pending s o := hs.leaving t o (by rw [hpc]; rfl)
      have hholding : (s.ops o).Holding i := (hc.assert hpc).1
      have hop : OnTime ((s.release i).setOp o { s.ops o with cancelled := true }) := by
        refine (hs.release i).setOp hnot ?_ (hs.once o) (fun h => h) (hs.success o)
        intro h
        have hregistered := hholding.registered
        rw [show (s.ops o).registered = false from h] at hregistered
        contradiction
      refine hop.retry (hc.cancel hpc) ?_ o
      intro o' h
      have h : (s.threads t).own = some o' := h
      rw [hpc] at h
      cases h
      exact hnot
  | sendFails hpc => exact hs.proceed hpc (fun o h => by contradiction) rfl
  | timeout hpc hunset => exact hs.proceed hpc (fun o h => by contradiction) rfl
  | ignored hpoll => exact hs.congr rfl rfl rfl rfl
  | @dispatched packet cause o i hpoll htype hindex hreply =>
      refine hs.shrink rfl rfl ?_ (by simp)
      rintro o' (hslot | ⟨j, packet', hcomplete⟩)
      · exact Pending.of_clear (i := i) (.inl hslot)
      · cases hcomplete
        exact .inl ⟨i, hreply⟩
  | complete hpoll hthrows => exact hs.complete hc hpoll _
  | @settle throws o i value hpoll =>
      have hnot : ¬ Pending s o := by
        refine not_pending_of_poll hc (hc.pollAssert hpoll) ?_ ?_
        · rw [State.locked, hpoll]
          rfl
        · rw [hpoll]
          simp
      exact (hs.setValue hnot fun _ => hs.settling o i value hpoll).setPoll (by simp) (by simp)
  | pollRelease hpoll => exact (hs.release _).setPoll (by simp) (by simp)
  | pollReset hpoll => exact (hs.resetError _).setPoll (by simp) (by simp)
  | tick => exact hs.congr rfl rfl rfl rfl
  | setTimeout => exact hs.congr rfl rfl rfl rfl
  | lose => exact hs.congr rfl rfl rfl rfl

theorem initial (now : Int) : OnTime { now := now } := by
  have hnot : ∀ o, ¬ Pending { now := now } o := by
    rintro o (⟨i, h⟩ | ⟨i, packet, h⟩)
    · contradiction
    · contradiction
  exact ⟨fun o h => absurd h (hnot o), fun t o h => by contradiction,
    fun o h => absurd h (hnot o), fun o _ => ⟨rfl, rfl⟩, fun o => Nat.zero_le 1,
    fun o i value h => by contradiction, fun o h => by contradiction⟩

theorem of_reaches {guard : State → Label → Prop} {now : Int}
    (h : Reaches (step range) guard { now := now } s) : OnTime s := by
  refine h.invariant (.initial now) ?_
  intro t u l hreach _ hstep ht
  exact ht.of_section (.of_reaches hreach) (.of_step hstep)

end OnTime

/-- In every interleaving `on_complete` of an operation runs at most once. When it runs, the
operation has no value and is not cancelled, and if it is an attempt of a synchronous call,
that call has not returned. -/
theorem completes_on_time {now : Int} (h : Reaches (step range) always { now := now } s)
    (o : OpId) :
    (s.ops o).completions.length ≤ 1 ∧
    ∀ i packet, s.poll = .complete o i packet →
      (s.ops o).Untouched ∧ ((s.ops o).retries ≠ none → ∃ t, (s.threads t).own = some o) := by
  have hs : OnTime s := .of_reaches h
  refine ⟨hs.once o, ?_⟩
  intro i packet hpoll
  have hpending : Pending s o := .inr ⟨i, packet, hpoll⟩
  exact ⟨hs.untouched o hpending, hs.attended o hpending⟩

/-- The reply to a synchronous read arrives. -/
def answeredRead : List Label :=
  [.call 0 .read (some 1), .step 0, .step 0, .step 0, .step 0,
    .receive { type := .ReadReply, transactionID := 0x20 } (some 0)]

theorem completes_on_time_answeredRead :
    ∃ s packet, Reaches (step {}) always {} s ∧ s.poll = .complete 0 0 packet ∧
      (s.ops 0).Untouched ∧ ∃ t, (s.threads t).own = some 0 := by
  obtain ⟨s, hrun⟩ : ∃ s, run (step {}) always {} answeredRead = some s := ⟨_, rfl⟩
  have hpoll : s.poll = .complete 0 0 { type := .ReadReply, transactionID := 0x20 } :=
    eq_of_map_run hrun State.poll rfl
  have hsync : (s.ops 0).retries = some 0 := eq_of_map_run hrun (fun s => (s.ops 0).retries) rfl
  have hreach : Reaches (step {}) always {} s := .of_run hrun
  obtain ⟨huntouched, hattended⟩ := (completes_on_time hreach 0).2 0 _ hpoll
  exact ⟨s, _, hreach, hpoll, huntouched, hattended (by simp [hsync])⟩

end SpwRmap.Concurrent
