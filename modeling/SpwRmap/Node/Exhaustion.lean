import Mathlib.Data.Finset.Card
import SpwRmap.Node.Callbacks
import SpwRmap.Node.Ownership

/-!
# When the identifiers run out

`getAvailableTransactionID_` gives up when every identifier is in use and none has expired.
An identifier stays in use until it is released, and every completion path settles the
promise first and releases the identifier in a later section. So the identifiers in use are
held by operations whose future is not ready, except while a path stands between the two, and
except for operations whose callbacks were removed without a value: then the promise is
destroyed, which makes the future ready, too. This holds in every interleaving; it needs no
order among the threads, because an operation acquires its identifier once only.
-/

namespace SpwRmap.Concurrent

open Transition

variable {range : TransactionRange} {s s' : State} {l : Label} {t : ThreadId} {o v : OpId} {i : Nat}

/-- The operation that a thread has settled and whose identifier it is about to release. -/
def Pc.settled : Pc → Option (OpId × Nat)
  | .evictRelease _ i (some v) => some (v, i)
  | .failRelease o i => some (o, i)
  | _ => none

def PollPc.settled : PollPc → Option (OpId × Nat)
  | .release o i => some (o, i)
  | _ => none

/-- Some completion path stands between settling `v` and releasing `i`. -/
def Settled (s : State) (v : OpId) (i : Nat) : Prop :=
  s.poll.settled = some (v, i) ∨ ∃ t, (s.threads t).settled = some (v, i)

structure Occupied (s : State) : Prop where
  owned : ∀ i, s.table.available_transaction_ids_ i = false → ∃ v, s.owner i = some v
  transaction : ∀ i v, s.owner i = some v → (s.ops v).transaction = some i
  cancelled : ∀ i v, s.owner i = some v → (s.ops v).cancelled = false
  settled : ∀ i v, s.owner i = some v → (s.ops v).promise ≠ [] → Settled s v i

namespace Occupied

theorem congr (hs : Occupied s) (hops : s'.ops = s.ops) (hthreads : s'.threads = s.threads)
    (hpoll : s'.poll = s.poll) (howner : s'.owner = s.owner)
    (havailable : s'.table.available_transaction_ids_ = s.table.available_transaction_ids_) :
    Occupied s' := by
  have hsettled : ∀ v i, Settled s' v i = Settled s v i := by
    intro v i
    rw [Settled, Settled, hpoll, hthreads]
  obtain ⟨owned, transaction, cancelled, settled⟩ := hs
  refine ⟨?_, ?_, ?_, ?_⟩
  · simpa only [havailable, howner] using owned
  · simpa only [howner, hops] using transaction
  · simpa only [howner, hops] using cancelled
  · simpa only [howner, hops, hsettled] using settled

theorem clear (hs : Occupied s) (i : Nat) : Occupied (s.clear i) := hs.congr rfl rfl rfl rfl rfl

theorem resetError (hs : Occupied s) (i : Nat) : Occupied (s.resetError i) :=
  hs.congr rfl rfl rfl rfl rfl

theorem owner_of_release {j : Nat} (h : (s.release j).owner i = some v) :
    i ≠ j ∧ s.owner i = some v := by
  simp only [State.release, Function.update_apply] at h
  split at h
  · contradiction
  · rename_i hij
    exact ⟨hij, h⟩

theorem release (hs : Occupied s) (i : Nat) : Occupied (s.release i) := by
  refine ⟨?_, ?_, ?_, ?_⟩
  · intro j hused
    simp only [State.release, Table.release, Function.update_apply] at hused ⊢
    split at hused
    · contradiction
    · rename_i hji
      rw [if_neg hji]
      exact hs.owned j hused
  · intro j v howner
    exact hs.transaction j v (owner_of_release howner).2
  · intro j v howner
    exact hs.cancelled j v (owner_of_release howner).2
  · intro j v howner hset
    exact hs.settled j v (owner_of_release howner).2 hset

/-- A thread goes on. What it was about to release, it is still, or no one holds it. -/
theorem goto (hs : Occupied s) {pc : Pc}
    (hkept : ∀ v i, (s.threads t).settled = some (v, i) →
      pc.settled = some (v, i) ∨ s.owner i ≠ some v) : Occupied (s.goto t pc) := by
  refine ⟨hs.owned, hs.transaction, hs.cancelled, ?_⟩
  intro i v howner hset
  obtain hpoll | ⟨t', ht'⟩ := hs.settled i v howner hset
  · exact .inl hpoll
  · refine .inr ⟨t', ?_⟩
    simp only [State.goto, Function.update_apply]
    split
    · rename_i htt
      subst htt
      obtain hsame | hother := hkept v i ht'
      · exact hsame
      · exact absurd howner hother
    · exact ht'

theorem setPoll (hs : Occupied s) {pc : PollPc}
    (hkept : ∀ v i, s.poll.settled = some (v, i) →
      pc.settled = some (v, i) ∨ s.owner i ≠ some v) : Occupied { s with poll := pc } := by
  refine ⟨hs.owned, hs.transaction, hs.cancelled, ?_⟩
  intro i v howner hset
  obtain hpoll | hthread := hs.settled i v howner hset
  · obtain hsame | hother := hkept v i hpoll
    · exact .inl hsame
    · exact absurd howner hother
  · exact .inr hthread

/-- An operation changes. If it holds an identifier, it keeps it, and what is new of it is
accounted for. -/
theorem setOp (hs : Occupied s) {op : Operation}
    (hop : ∀ i, s.owner i = some o → op.transaction = (s.ops o).transaction ∧
      op.cancelled = false ∧ (op.promise ≠ [] → (s.ops o).promise ≠ [])) :
    Occupied (s.setOp o op) := by
  refine ⟨hs.owned, ?_, ?_, ?_⟩
  · intro i v howner
    simp only [State.setOp, Function.update_apply]
    split
    · rename_i hvo
      subst hvo
      exact (hop i howner).1.trans (hs.transaction i v howner)
    · exact hs.transaction i v howner
  · intro i v howner
    simp only [State.setOp, Function.update_apply]
    split
    · rename_i hvo
      subst hvo
      exact (hop i howner).2.1
    · exact hs.cancelled i v howner
  · intro i v howner hset
    simp only [State.setOp, Function.update_apply] at hset
    split at hset
    · rename_i hvo
      subst hvo
      exact hs.settled i v howner ((hop i howner).2.2 hset)
    · exact hs.settled i v howner hset

/-- A promise is given a value by a path that goes on to release. -/
theorem setValue (hs : Occupied s) (hv : (s.ops v).transaction = some i) (hsettled : Settled s v i)
    (value : Except ErrorCode Unit) : Occupied (s.setValue v value) := by
  refine ⟨hs.owned, ?_, ?_, ?_⟩
  · intro j w howner
    simp only [State.setValue, State.setOp, Function.update_apply]
    split
    · rename_i hwv
      rw [← hwv]
      exact hs.transaction j w howner
    · exact hs.transaction j w howner
  · intro j w howner
    simp only [State.setValue, State.setOp, Function.update_apply]
    split
    · rename_i hwv
      rw [← hwv]
      exact hs.cancelled j w howner
    · exact hs.cancelled j w howner
  · intro j w howner hset
    simp only [State.setValue, State.setOp, Function.update_apply] at hset
    split at hset
    · rename_i hwv
      subst hwv
      have hj := hs.transaction j w howner
      rw [hv] at hj
      cases hj
      exact hsettled
    · exact hs.settled j w howner hset

/-- An operation without an identifier changes as it likes. -/
theorem setOther (hs : Occupied s) (ho : (s.ops o).transaction = none) (op : Operation) :
    Occupied (s.setOp o op) := by
  apply hs.setOp
  intro i howner
  rw [hs.transaction i o howner] at ho
  contradiction

theorem start (hs : Occupied s) (hc : Consistent s) (hsettled : (s.threads t).settled = none)
    (kind : OpKind) (retries : Option Nat) : Occupied (s.start t kind retries) := by
  have hnew : (s.ops s.nextOp).transaction = none := by
    rw [hc.fresh s.nextOp (Nat.le_refl _)]
  have hmoved : Occupied
      ((s.setOp s.nextOp { kind, retries }).goto t (.allocate s.nextOp)) := by
    apply (hs.setOther hnew _).goto
    intro v i hpc
    rw [State.setOp, hsettled] at hpc
    contradiction
  exact hmoved.congr rfl rfl rfl rfl rfl

/-- A thread that was not about to release goes on. -/
theorem proceed (hs : Occupied s) {pc pc' : Pc} (hpc : s.threads t = pc)
    (hsettled : pc.settled = none) : Occupied (s.goto t pc') := by
  apply hs.goto
  intro v i h
  rw [hpc, hsettled] at h
  contradiction

/-- A thread has released what it was about to. -/
theorem released (hs : Occupied s) {pc pc' : Pc} (hpc : s.threads t = pc)
    (hsettled : pc.settled = some (v, i)) : Occupied ((s.release i).goto t pc') := by
  apply (hs.release i).goto
  intro w j h
  have hthread : (s.threads t).settled = some (w, j) := h
  rw [hpc, hsettled] at hthread
  cases hthread
  exact .inr fun howner => (owner_of_release howner).1 rfl

theorem started (hs : Occupied s) {pc : Pc} (hpc : s.threads t = pc)
    (hsettled : pc.settled = none) (o : OpId) (index : Option Nat) :
    Occupied (s.started t o index) :=
  State.started_cases (hs.proceed hpc hsettled) fun _ => hs.proceed hpc hsettled

/-- A thread settles an operation. -/
theorem settle (hs : Occupied s) {pc pc' : Pc} (hpc : s.threads t = pc)
    (hsettled : pc.settled = none) (hpc' : pc'.settled = some (v, i))
    (hv : (s.ops v).transaction = some i) (value : Except ErrorCode Unit) :
    Occupied ((s.setValue v value).goto t pc') := by
  have hmoved : Occupied (s.goto t pc') := hs.proceed hpc hsettled
  refine hmoved.setValue hv (.inr ⟨t, ?_⟩) value
  simpa only [State.goto, Function.update_self] using hpc'

theorem acquire (hs : Occupied s) (hsearch : (s.ops o).Searching)
    (hcancelled : (s.ops o).cancelled = false) (i : Nat) : Occupied (s.acquire o i) := by
  have hother : ∀ j w, s.owner j = some w → w ≠ o := by
    rintro j w howner rfl
    have htransaction := hs.transaction j w howner
    rw [hsearch.transaction] at htransaction
    contradiction
  refine ⟨?_, ?_, ?_, ?_⟩
  · intro j hused
    simp only [State.acquire, State.setOp, Table.acquire, Function.update_apply] at hused ⊢
    split at hused
    · rename_i hji
      exact ⟨o, if_pos hji⟩
    · rename_i hji
      rw [if_neg hji]
      exact hs.owned j hused
  · intro j w howner
    simp only [State.acquire, State.setOp, Function.update_apply] at howner ⊢
    split at howner
    · rename_i hji
      cases howner
      rw [if_pos rfl, hji]
    · rw [if_neg (hother j w howner)]
      exact hs.transaction j w howner
  · intro j w howner
    simp only [State.acquire, State.setOp, Function.update_apply] at howner ⊢
    split at howner
    · cases howner
      rw [if_pos rfl]
      exact hcancelled
    · rw [if_neg (hother j w howner)]
      exact hs.cancelled j w howner
  · intro j w howner hset
    simp only [State.acquire, State.setOp, Function.update_apply] at howner hset
    split at howner
    · cases howner
      rw [if_pos rfl] at hset
      exact absurd hsearch.promise hset
    · rw [if_neg (hother j w howner)] at hset
      exact hs.settled j w howner hset

theorem of_section (hs : Occupied s) (hc : Consistent s) (ht : OnTime s)
    (h : Section range s l s') : Occupied s' := by
  cases h with
  | call hpc => exact hs.start hc (by rw [hpc]; rfl) _ _
  | @found t o i hpc hscan =>
      have hsearch : (s.ops o).Searching := hc.assert hpc
      have hacquired := hs.acquire hsearch (ht.early o hsearch.registered).2 i
      exact hacquired.proceed hpc rfl
  | expired hpc hscan => exact hs.proceed hpc rfl
  | @exhausted t o hpc hscan =>
      have hsearch : (s.ops o).Searching := hc.assert hpc
      exact (hs.setOther hsearch.transaction _).started hpc rfl o none
  | evictTake hpc => exact (hs.clear _).proceed hpc rfl
  | evictNothing hpc => exact (hs.clear _).proceed hpc rfl
  | evictSettle hpc => exact hs.settle hpc rfl rfl (hc.assert hpc).2.transaction _
  | evictRelease hpc => exact hs.released hpc rfl
  | evictReleaseNothing hpc => exact (hs.release _).proceed hpc rfl
  | evictReset hpc => exact (hs.resetError _).proceed hpc rfl
  | @register t o i hpc hfree =>
      have hregistered : Occupied (s.setOp o { s.ops o with registered := true }) := by
        apply hs.setOp
        intro j howner
        exact ⟨rfl, hs.cancelled j o howner, fun h => h⟩
      have hstored : Occupied (s.register o i) := hregistered.congr rfl rfl rfl rfl rfl
      exact hstored.proceed hpc rfl
  | @transmit t o i hpc =>
      have hmoved : Occupied (s.goto t (.sent o i)) := hs.proceed hpc rfl
      exact hmoved.congr rfl rfl rfl rfl rfl
  | sent hpc => exact hs.started hpc rfl _ _
  | failClear hpc hfree => exact (hs.clear _).proceed hpc rfl
  | failSettle hpc => exact hs.settle hpc rfl rfl (hc.assert hpc).transaction _
  | failRelease hpc =>
      apply State.started_cases
      · exact hs.released hpc rfl
      · intro _
        exact hs.released hpc rfl
  | ready hpc hset => exact hs.proceed hpc rfl
  | cancelClear hpc hfree => exact (hs.clear _).proceed hpc rfl
  | @cancelRelease t o i hpc =>
      have hheld : (s.ops o).transaction = some i := (hc.assert hpc).1.transaction
      have hcancel : Occupied ((s.release i).setOp o { s.ops o with cancelled := true }) := by
        apply (hs.release i).setOp
        intro j howner
        obtain ⟨hne, howner⟩ := owner_of_release howner
        rw [hs.transaction j o howner] at hheld
        exact absurd (Option.some.inj hheld) hne
      have hsettled : (s.threads t).settled = none := by
        rw [hpc]
        rfl
      apply State.retry_cases
      · intro kind retries
        exact hcancel.start (hc.cancel hpc) hsettled kind retries
      · exact hcancel.proceed hpc rfl
  | sendFails hpc => exact hs.proceed hpc rfl
  | timeout hpc hunset => exact hs.proceed hpc rfl
  | ignored hpoll => exact hs.congr rfl rfl rfl rfl rfl
  | @dispatched packet cause o i hpoll htype hindex hreply =>
      have hpolled : Occupied { s.clear i with poll := .complete o i packet } := by
        apply (hs.clear i).setPoll
        intro w j h
        rw [State.clear, hpoll] at h
        contradiction
      exact hpolled.congr rfl rfl rfl rfl rfl
  | @complete throws o i packet hpoll hthrows =>
      have hcalled : Occupied (s.setOp o
          { s.ops o with completions := (s.ops o).completions ++ [packet] }) := by
        apply hs.setOp
        intro j howner
        exact ⟨rfl, hs.cancelled j o howner, fun h => h⟩
      apply hcalled.setPoll
      intro w j h
      rw [State.setOp, hpoll] at h
      contradiction
  | @settle throws o i value hpoll =>
      have hmoved : Occupied { s with poll := .release o i } := by
        apply hs.setPoll
        intro w j h
        rw [hpoll] at h
        contradiction
      exact hmoved.setValue (hc.pollAssert hpoll).transaction (.inl rfl) value
  | @pollRelease throws o i hpoll =>
      apply (hs.release i).setPoll
      intro w j h
      have hsettled : s.poll.settled = some (w, j) := h
      rw [hpoll] at hsettled
      cases hsettled
      exact .inr fun howner => (owner_of_release howner).1 rfl
  | pollReset hpoll =>
      apply (hs.resetError _).setPoll
      intro w j h
      rw [State.resetError, hpoll] at h
      contradiction
  | tick => exact hs.congr rfl rfl rfl rfl rfl
  | setTimeout => exact hs.congr rfl rfl rfl rfl rfl
  | lose => exact hs.congr rfl rfl rfl rfl rfl

theorem initial (now : Int) : Occupied { now := now } := by
  refine ⟨?_, ?_, ?_, ?_⟩
  · intro i h
    contradiction
  · intro i v h
    contradiction
  · intro i v h
    contradiction
  · intro i v h
    contradiction

/-- In every interleaving. -/
theorem of_reaches {guard : State → Label → Prop} {now : Int}
    (h : Reaches (step range) guard { now := now } s) : Occupied s := by
  refine h.invariant (.initial now) ?_
  intro t u l hreach _ hstep ht
  exact ht.of_section (.of_reaches hreach) (.of_reaches hreach) (.of_step hstep)

end Occupied

/-- The operation whose start function a thread is in. -/
def Pc.starting : Pc → Option OpId
  | .allocate o | .evictTake o _ | .evictSettle o _ _ | .evictRelease o _ _ | .evictReset o _ _
  | .register o _ | .sending o _ | .sent o _ | .failClear o _ _ | .failSettle o _ _
  | .failRelease o _ => some o
  | _ => none

/-- The promise of the operation is alive: a callback in the table has it, or one that was
taken out and has not set it yet, or the function that started the operation. -/
inductive Held (s : State) (v : OpId) : Prop where
  | reply {i : Nat} (h : s.table.reply_callback_ i = some v) : Held s v
  | error {i : Nat} (h : s.table.reply_error_callback_ i = some v) : Held s v
  | taken (h : Settling s v) : Held s v
  | starting {t : ThreadId} (h : (s.threads t).starting = some v) : Held s v

/-- A future is ready when its promise was given a value, or was destroyed without one
(`broken_promise`). -/
def Ready (s : State) (v : OpId) : Prop := (s.ops v).promise ≠ [] ∨ ¬ Held s v

/-- Every identifier is held by an operation whose future is not ready. -/
def AllPending (range : TransactionRange) (s : State) : Prop :=
  ∀ i < range.total, ∃ v, s.owner i = some v ∧ ¬ Ready s v

/-- The function that started the operation has returned, its callbacks are no longer in the
slot, and no one is about to give the promise a value. -/
structure Dropped (s : State) (v : OpId) (i : Nat) : Prop where
  returned : ∀ t, (s.threads t).starting ≠ some v
  reply : s.table.reply_callback_ i ≠ some v
  error : s.table.reply_error_callback_ i ≠ some v
  unsettling : ¬ Settling s v

/-- No completion path stands between settling the operation that holds an identifier and
releasing the identifier, and no operation that holds one has lost its callbacks. -/
def NoneOver (range : TransactionRange) (s : State) : Prop :=
  ∀ i < range.total, ∀ v, s.owner i = some v → ¬ Settled s v i ∧ ¬ Dropped s v i

open Classical in
/-- The operations whose future is not ready and that were not cancelled. -/
noncomputable def inProgress (s : State) : Finset OpId :=
  (Finset.range s.nextOp).filter fun v => ¬ Ready s v ∧ (s.ops v).cancelled = false

theorem mem_inProgress :
    v ∈ inProgress s ↔ v < s.nextOp ∧ ¬ Ready s v ∧ (s.ops v).cancelled = false := by
  simp only [inProgress, Finset.mem_filter, Finset.mem_range]

/-- A future without a value whose promise is alive. -/
theorem not_ready (hunset : (s.ops v).promise = []) (hheld : Held s v) : ¬ Ready s v := by
  rintro (hset | hbroken)
  · exact hset hunset
  · exact hbroken hheld

/-- A path about to release has settled. -/
theorem Settled.promise (h : Settled s v i) (hc : Consistent s) : (s.ops v).promise ≠ [] := by
  obtain hpoll | ⟨t, hthread⟩ := h
  · cases hpc : s.poll with
    | release o j =>
        rw [hpc] at hpoll
        cases hpoll
        exact (hc.pollAssert hpc).2
    | _ =>
        rw [hpc] at hpoll
        contradiction
  · cases hpc : s.threads t with
    | evictRelease o j w =>
        rw [hpc] at hthread
        cases w with
        | none => contradiction
        | some w =>
            cases hthread
            exact (hc.assert hpc).2.2
    | failRelease o j =>
        rw [hpc] at hthread
        cases hthread
        exact (hc.assert hpc).2
    | _ =>
        rw [hpc] at hthread
        contradiction

/-- The promise of an operation that has lost its callbacks is destroyed. -/
theorem Dropped.not_held (h : Dropped s v i) (hc : Consistent s)
    (hi : (s.ops v).transaction = some i) : ¬ Held s v := by
  have hreply : ∀ j, s.table.reply_callback_ j ≠ some v := by
    intro j hj
    have htransaction := (hc.slot v j hj).transaction
    rw [hi] at htransaction
    cases htransaction
    exact h.reply hj
  intro hheld
  cases hheld with
  | reply hj => exact hreply _ hj
  | error hj => exact hreply _ (hc.error v _ hj)
  | taken hsettling => exact h.unsettling hsettling
  | starting ht => exact h.returned _ ht

theorem Held.of_not_dropped (h : ¬ Dropped s v i) : Held s v := by
  by_contra hheld
  refine h ⟨?_, ?_, ?_, ?_⟩
  · exact fun t ht => hheld (.starting ht)
  · exact fun hi => hheld (.reply hi)
  · exact fun hi => hheld (.error hi)
  · exact fun hsettling => hheld (.taken hsettling)

theorem owned_of_exhausted (hs : Occupied s)
    (hscan : s.table.scan range s.now s.transaction_timeout_ = .exhausted) (hi : i < range.total) :
    ∃ v, s.owner i = some v := by
  apply hs.owned i
  by_contra havailable
  obtain ⟨j, hj⟩ := Table.scan_finds s.table s.now s.transaction_timeout_ hi
    (eq_true_of_ne_false havailable)
  rw [hscan] at hj
  contradiction

/-- The holders of all identifiers and the operation that looks for one are all different. -/
theorem total_lt_inProgress (hs : Occupied s) (hc : Consistent s) (ht : OnTime s)
    (hpc : s.threads t = .allocate o) (hall : AllPending range s) :
    range.total < (inProgress s).card := by
  have hsearch : (s.ops o).Searching := hc.assert hpc
  have hlt : ∀ v, v < s.nextOp ∨ s.ops v = {} := by
    intro v
    exact (Nat.lt_or_ge v s.nextOp).imp_right (hc.fresh v)
  have hown : o ∈ inProgress s := by
    have ho : o < s.nextOp := hc.own_lt t o (by rw [hpc]; rfl)
    have hstarting : (s.threads t).starting = some o := by
      rw [hpc]
      rfl
    have hcancelled := (ht.early o hsearch.registered).2
    exact mem_inProgress.mpr ⟨ho, not_ready hsearch.promise (.starting hstarting), hcancelled⟩
  have hcard : range.total ≤ ((inProgress s).erase o).card := by
    rw [← Finset.card_range range.total]
    refine Finset.card_le_card_of_injOn (fun i => (s.owner i).getD 0) ?_ ?_
    · intro i hi
      obtain ⟨v, howner, hpending⟩ := hall i (Finset.mem_range.mp hi)
      have htransaction := hs.transaction i v howner
      have hne : v ≠ o := by
        rintro rfl
        rw [hsearch.transaction] at htransaction
        contradiction
      have hv : v < s.nextOp := by
        refine (hlt v).resolve_right ?_
        intro hfresh
        rw [hfresh] at htransaction
        contradiction
      simp only [howner, Option.getD_some]
      exact Finset.mem_erase.mpr
        ⟨hne, mem_inProgress.mpr ⟨hv, hpending, hs.cancelled i v howner⟩⟩
    · intro i hi j hj hsame
      obtain ⟨v, howner, -⟩ := hall i (Finset.mem_range.mp hi)
      obtain ⟨w, howner', -⟩ := hall j (Finset.mem_range.mp hj)
      simp only [howner, howner', Option.getD_some] at hsame
      have htransaction := hs.transaction i v howner
      rw [hsame, hs.transaction j w howner'] at htransaction
      exact (Option.some.inj htransaction).symm
  rw [Finset.card_erase_of_mem hown] at hcard
  have hpos := Finset.card_pos.mpr ⟨o, hown⟩
  omega

/-- In orderly runs only a cancellation, between its two sections, has removed the callbacks
of an operation that holds an identifier without settling it. -/
theorem Dropped.cancelling {now : Int} (hdropped : Dropped s v i)
    (h : Reaches (step range) (fun s l => orderly s l) { now := now } s)
    (howner : s.owner i = some v) (hsettled : ¬ Settled s v i) :
    ∃ t, s.threads t = .cancelRelease v i := by
  have hs : Occupied s := .of_reaches h
  have hc : Consistent s := .of_reaches h
  have hi := hs.transaction i v howner
  have hunset : (s.ops v).promise = [] := by
    by_contra hset
    exact hsettled (hs.settled i v howner hset)
  -- The right to release the identifier is somewhere.
  obtain ⟨p, hp⟩ := (Owned.of_reaches h).valid.guarded v i ⟨hunset, hs.cancelled i v howner⟩ hi
  cases p with
  | slot j =>
      have hj := (hc.slot v j hp).transaction
      rw [hi] at hj
      cases hj
      exact absurd hp hdropped.reply
  | poll =>
      obtain hsettling | hset := hc.of_pollToken hp
      · exact absurd hsettling hdropped.unsettling
      · exact absurd hunset hset
  | thread t =>
      have htoken : (s.threads t).token = some v := hp
      cases hpc : s.threads t with
      | cancelRelease o j =>
          rw [hpc] at htoken
          cases htoken
          have hj := (hc.assert hpc).1.transaction
          rw [hi] at hj
          cases hj
          exact ⟨t, hpc⟩
      | evictSettle o j w =>
          rw [hpc] at htoken
          cases htoken
          exact absurd (.inl ⟨t, o, j, hpc⟩) hdropped.unsettling
      | evictRelease o j w =>
          rw [hpc] at htoken
          cases htoken
          exact absurd hunset (hc.assert hpc).2.2
      | register | failSettle | failRelease =>
          have hstarting := hdropped.returned t
          rw [hpc] at hstarting htoken
          exact absurd htoken hstarting
      | _ =>
          rw [hpc] at htoken
          contradiction

/-- In every interleaving: when a scan gives up, all identifiers are held by operations whose
future is not ready, exactly if no completion path stands between settling and releasing and
no holder has lost its callbacks; and then there are more operations in progress than
identifiers. -/
theorem exhausted_iff {now : Int} (h : Reaches (step range) always { now := now } s)
    (hpc : s.threads t = .allocate o) :
    (s.table.scan range s.now s.transaction_timeout_ = .exhausted →
      (AllPending range s ↔ NoneOver range s)) ∧
    (NoneOver range s → (inProgress s).card ≤ range.total →
      s.table.scan range s.now s.transaction_timeout_ ≠ .exhausted) := by
  have hs : Occupied s := .of_reaches h
  have hc : Consistent s := .of_reaches h
  have hall : s.table.scan range s.now s.transaction_timeout_ = .exhausted →
      NoneOver range s → AllPending range s := by
    intro hscan hnone i hi
    obtain ⟨v, howner⟩ := owned_of_exhausted hs hscan hi
    obtain ⟨hsettled, hdropped⟩ := hnone i hi v howner
    refine ⟨v, howner, not_ready ?_ (.of_not_dropped hdropped)⟩
    by_contra hset
    exact hsettled (hs.settled i v howner hset)
  refine ⟨?_, ?_⟩
  · intro hscan
    refine ⟨?_, hall hscan⟩
    intro hpending i hi v howner
    obtain ⟨w, howner', hready⟩ := hpending i hi
    rw [howner] at howner'
    cases howner'
    refine ⟨fun hsettled => hready (.inl (hsettled.promise hc)), fun hdropped => ?_⟩
    exact hready (.inr (hdropped.not_held hc (hs.transaction i v howner)))
  · intro hnone hfew hscan
    have hlt := total_lt_inProgress hs hc (.of_reaches h) hpc (hall hscan hnone)
    omega

/-- The only identifier is taken by a write; another write looks for one. -/
def taken : List Label :=
  [.call 0 .write none, .step 0, .step 0, .step 0, .step 0, .call 1 .write none]

theorem exhausted_iff_taken : ∃ s,
    Reaches (step { transaction_id_min := 0x20, transaction_id_max := 0x21 }) always {} s ∧
      s.threads 1 = .allocate 1 ∧
      s.table.scan { transaction_id_min := 0x20, transaction_id_max := 0x21 } s.now
        s.transaction_timeout_ = .exhausted ∧
      AllPending { transaction_id_min := 0x20, transaction_id_max := 0x21 } s := by
  obtain ⟨s, hrun⟩ : ∃ s,
      run (step { transaction_id_min := 0x20, transaction_id_max := 0x21 }) always {} taken =
        some s := Option.isSome_iff_exists.mp rfl
  have hreach := Reaches.of_run hrun
  have hpc : s.threads 1 = .allocate 1 := eq_of_map_run hrun (fun s => s.threads 1) rfl
  have hscan : s.table.scan { transaction_id_min := 0x20, transaction_id_max := 0x21 } s.now
      s.transaction_timeout_ = .exhausted := eq_of_map_run hrun (fun s => s.table.scan
        { transaction_id_min := 0x20, transaction_id_max := 0x21 } s.now s.transaction_timeout_) rfl
  have hpoll : s.poll.settled = none := eq_of_map_run hrun (fun s => s.poll.settled) rfl
  have hthreads : ∀ t, (s.threads t).settled = none := by
    intro t
    match t with
    | 0 => exact eq_of_map_run hrun (fun s => (s.threads 0).settled) rfl
    | 1 => exact eq_of_map_run hrun (fun s => (s.threads 1).settled) rfl
    | t + 2 => exact eq_of_map_run hrun (fun s => (s.threads (t + 2)).settled) rfl
  have howner : s.owner 0 = some 0 := eq_of_map_run hrun (fun s => s.owner 0) rfl
  have hreply : s.table.reply_callback_ 0 = some 0 :=
    eq_of_map_run hrun (fun s => s.table.reply_callback_ 0) rfl
  have hnone : NoneOver { transaction_id_min := 0x20, transaction_id_max := 0x21 } s := by
    intro i hi v hv
    obtain rfl : i = 0 := Nat.lt_one_iff.mp hi
    rw [howner] at hv
    cases hv
    refine ⟨?_, fun hdropped => hdropped.reply hreply⟩
    rintro (h | ⟨t, h⟩)
    · rw [hpoll] at h
      contradiction
    · rw [hthreads t] at h
      contradiction
  exact ⟨s, hreach, hpc, hscan, ((exhausted_iff hreach hpc).1 hscan).mpr hnone⟩

/-- The write is answered and its future is ready, so the client starts another one before
the poll thread has released the identifier. -/
def earlyRestart : List Label :=
  [.call 0 .write none, .step 0, .step 0, .step 0, .step 0,
    .receive { type := .WriteReply, transactionID := 0x20 } (some 0), .pollStep false,
    .pollStep false, .call 0 .write none]

/-- It is refused, though it is the only operation in progress. -/
theorem earlyRestart_exhausted : ∃ s,
    Reaches (step { transaction_id_min := 0x20, transaction_id_max := 0x21 }) always {} s ∧
      s.threads 0 = .allocate 1 ∧
      s.table.scan { transaction_id_min := 0x20, transaction_id_max := 0x21 } s.now
        s.transaction_timeout_ = .exhausted ∧
      ¬ AllPending { transaction_id_min := 0x20, transaction_id_max := 0x21 } s ∧
      (inProgress s).card ≤
        ({ transaction_id_min := 0x20, transaction_id_max := 0x21 } : TransactionRange).total := by
  obtain ⟨s, hreach, hpc, hscan, howner, hset, hfew⟩ : ∃ s,
      Reaches (step { transaction_id_min := 0x20, transaction_id_max := 0x21 }) always {} s ∧
        s.threads 0 = .allocate 1 ∧
        s.table.scan { transaction_id_min := 0x20, transaction_id_max := 0x21 } s.now
          s.transaction_timeout_ = .exhausted ∧
        s.owner 0 = some 0 ∧ (s.ops 0).promise ≠ [] ∧
        ((Finset.range s.nextOp).filter fun v => (s.ops v).promise = []).card ≤ 1 := by
    apply Reaches.exists_of_run earlyRestart
    decide +kernel
  refine ⟨s, hreach, hpc, hscan, ?_, ?_⟩
  · intro hall
    obtain ⟨v, hv, hready⟩ := hall 0 (by decide)
    rw [howner] at hv
    cases hv
    exact hready (.inl hset)
  · refine Nat.le_trans (Finset.card_le_card ?_) hfew
    intro v hv
    obtain ⟨hlt, hready, -⟩ := mem_inProgress.mp hv
    refine Finset.mem_filter.mpr ⟨Finset.mem_range.mpr hlt, ?_⟩
    by_contra hset
    exact hready (.inl hset)

end SpwRmap.Concurrent
