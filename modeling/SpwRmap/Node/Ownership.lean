import SpwRmap.Lib.Custody
import SpwRmap.Node.Consistent

/-!
# Who may hand an identifier back

A transaction identifier is handed out with the right to release it. The right lies
with the callbacks: it goes from the allocating thread into the slot when they are
registered, and to whoever takes them out again. `ledger` is this reading of a state
as a custody ledger. The source releases by bare index, and three of its sections
act on a slot without looking whether it is still theirs: cancellation and the send
failure path clear it, the eviction of an expired identifier releases it even when
it found no error handler, and the error handler resets `reply_error_callback_` after
the identifier was released. `orderly` is the condition that these sections find what
they expect. In orderly runs the ledger stays valid; from that follows that no
asynchronous operation is abandoned.
-/

namespace SpwRmap.Concurrent

open Transition Custody

variable {range : TransactionRange} {s s' : State} {l : Label} {t : ThreadId} {o v : OpId} {i : Nat}

/-- Where the callbacks of an operation can be. -/
inductive Place where
  | slot (i : Nat)
  | poll
  | thread (t : ThreadId)
  deriving DecidableEq

/-- The operations whose rights are at each place, by what a program counter says of
its thread. -/
def holders (client : Pc → Option OpId) (poll : PollPc → Option OpId) (s : State) :
    Place → Option OpId
  | .slot i => s.table.reply_callback_ i
  | .poll => poll s.poll
  | .thread t => client (s.threads t)

section Holders

variable (client : Pc → Option OpId) (poll : PollPc → Option OpId)

theorem holders_goto (s : State) (t : ThreadId) (pc : Pc) :
    holders client poll (s.goto t pc) =
      Function.update (holders client poll s) (.thread t) (client pc) := by
  funext p
  cases p with
  | slot i => rfl
  | poll => rfl
  | thread t' =>
      by_cases h : t' = t
      · subst h
        simp [holders, State.goto]
      · simp [holders, State.goto, h]

theorem holders_clear (s : State) (i : Nat) :
    holders client poll (s.clear i) =
      Function.update (holders client poll s) (.slot i) none := by
  funext p
  cases p with
  | slot j =>
      by_cases h : j = i
      · subst h
        simp [holders, State.clear, Table.clear]
      · simp [holders, State.clear, Table.clear, h]
  | poll => rfl
  | thread t => rfl

theorem holders_store (s : State) (o : OpId) (i : Nat) :
    holders client poll { s with table := s.table.register i o } =
      Function.update (holders client poll s) (.slot i) (some o) := by
  funext p
  cases p with
  | slot j =>
      by_cases h : j = i
      · subst h
        simp [holders, Table.register]
      · simp [holders, Table.register, h]
  | poll => rfl
  | thread t => rfl

theorem holders_setPoll (s : State) (pc : PollPc) :
    holders client poll { s with poll := pc } =
      Function.update (holders client poll s) .poll (poll pc) := by
  funext p
  cases p with
  | slot i => rfl
  | poll => rfl
  | thread t => rfl

end Holders

/-- The operation for which a thread is about to release. -/
def Pc.token : Pc → Option OpId
  | .register o _ | .failSettle o _ _ | .failRelease o _ | .cancelRelease o _ => some o
  | .evictSettle _ _ v => some v
  | .evictRelease _ _ v => v
  | _ => none

def PollPc.token : PollPc → Option OpId
  | .complete o _ _ | .settle o _ _ | .release o _ => some o
  | _ => none

/-- Where the right to release an identifier is. -/
def token (s : State) : Place → Option OpId := holders Pc.token PollPc.token s

/-- Neither settled nor cancelled. -/
def Unfinished (s : State) (o : OpId) : Prop :=
  (s.ops o).promise = [] ∧ (s.ops o).cancelled = false

def ledger (s : State) : Ledger Place OpId Nat where
  owner := s.owner
  claim := fun o => (s.ops o).transaction
  token := token s
  active := Unfinished s

/-- The sections that act on a slot by bare index find in it what they expect. -/
def orderly (s : State) : Label → Bool
  | .step t =>
      match s.threads t with
      | .evictRelease _ _ none => false
      | .evictReset _ i _ => s.table.reply_error_callback_ i = none
      | .failClear o i _ | .cancelClear o i => s.table.reply_callback_ i = some o
      | _ => true
  | _ => true

structure Owned (s : State) : Prop where
  valid : (ledger s).Valid
  available : ∀ i, s.table.available_transaction_ids_ i = true → s.owner i = none
  paired : ∀ i, s.table.reply_error_callback_ i = s.table.reply_callback_ i

namespace Owned

theorem congr (hs : Owned s) (hledger : ledger s' = ledger s)
    (havailable : s'.table.available_transaction_ids_ = s.table.available_transaction_ids_)
    (hpaired : ∀ i, s'.table.reply_error_callback_ i = s'.table.reply_callback_ i) :
    Owned s' := by
  refine ⟨hledger ▸ hs.valid, ?_, hpaired⟩
  intro i h
  rw [havailable] at h
  have howner : s'.owner = s.owner := congrArg Ledger.owner hledger
  rw [howner]
  exact hs.available i h

/-- A thread goes on without passing a right. -/
theorem goto (hs : Owned s) {pc : Pc} (htoken : pc.token = (s.threads t).token) :
    Owned (s.goto t pc) := by
  refine hs.congr ?_ rfl hs.paired
  have hsame : token (s.goto t pc) = token s := by
    rw [token, holders_goto, htoken]
    exact Function.update_eq_self ..
  rw [ledger, hsame]
  rfl

/-- An operation changes, keeping its identifier and without becoming unfinished
again. -/
theorem setOp (hs : Owned s) {op : Operation}
    (htransaction : op.transaction = (s.ops o).transaction)
    (hactive : op.promise = [] → op.cancelled = false →
      Unfinished s o ∨ (s.ops o).transaction = none) :
    Owned (s.setOp o op) := by
  have hclaim : (fun o' => ((s.setOp o op).ops o').transaction) =
      fun o' => (s.ops o').transaction := by
    funext o'
    by_cases h : o' = o
    · subst h
      simpa [State.setOp] using htransaction
    · simp [State.setOp, h]
  have hledger : ledger (s.setOp o op) =
      { ledger s with active := Unfinished (s.setOp o op) } := by
    rw [ledger, hclaim]
    rfl
  refine ⟨?_, hs.available, hs.paired⟩
  rw [hledger]
  refine hs.valid.reactivate _ ?_
  intro o' h
  by_cases hoo : o' = o
  · subst hoo
    simp only [Unfinished, State.setOp, Function.update_self] at h
    exact hactive h.1 h.2
  · simp only [Unfinished, State.setOp, Function.update_of_ne hoo] at h
    exact .inl h

theorem setValue (hs : Owned s) (o : OpId) (value : Except ErrorCode Unit) :
    Owned (s.setValue o value) := by
  refine hs.setOp rfl ?_
  intro h
  simp at h

/-- Emptying a slot leaves the two callbacks paired. -/
theorem paired_clear (hs : Owned s) (i j : Nat) :
    (s.clear i).table.reply_error_callback_ j = (s.clear i).table.reply_callback_ j := by
  by_cases h : j = i
  · subst h
    simp [State.clear, Table.clear]
  · simpa [State.clear, Table.clear, h] using hs.paired j

/-- A thread takes the callbacks out of a slot. -/
theorem take (hs : Owned s) {pc : Pc} (hreply : s.table.reply_callback_ i = some v)
    (hnone : (s.threads t).token = none) (hpc : pc.token = some v) :
    Owned ((s.clear i).goto t pc) := by
  refine ⟨?_, hs.available, hs.paired_clear i⟩
  have hpass := hs.valid.pass (p := Place.slot i) (q := Place.thread t) hreply hnone
  rw [ledger, token, holders_goto, holders_clear, hpc]
  exact hpass

/-- The poll thread takes the callbacks out of a slot. -/
theorem takePoll (hs : Owned s) {pc : PollPc} (hreply : s.table.reply_callback_ i = some o)
    (hidle : s.poll = .idle) (hpc : pc.token = some o) :
    Owned { s.clear i with poll := pc } := by
  refine ⟨?_, hs.available, hs.paired_clear i⟩
  have hnone : (ledger s).token .poll = none := by
    show s.poll.token = none
    rw [hidle]
    rfl
  have hpass := hs.valid.pass (p := Place.slot i) (q := Place.poll) hreply hnone
  rw [ledger, token, holders_setPoll, holders_clear, hpc]
  exact hpass

/-- After a release the identifier has no owner. -/
theorem available_release (hs : Owned s) (i j : Nat)
    (h : (s.release i).table.available_transaction_ids_ j = true) :
    (s.release i).owner j = none := by
  by_cases hji : j = i
  · subst hji
    exact Function.update_self ..
  · simp only [State.release, Table.release, Function.update_of_ne hji] at h ⊢
    exact hs.available j h

/-- A thread releases an identifier for the operation whose right it has. -/
theorem retire (hs : Owned s) {pc : Pc} (htoken : (s.threads t).token = some o)
    (htransaction : (s.ops o).transaction = some i) (hdone : ¬ Unfinished s o)
    (hpc : pc.token = none) : Owned ((s.release i).goto t pc) := by
  refine ⟨?_, hs.available_release i, hs.paired⟩
  have hretire := hs.valid.retire (p := Place.thread t) htoken htransaction hdone
  rw [ledger, token, holders_goto, hpc]
  exact hretire

/-- The poll thread does. -/
theorem retirePoll (hs : Owned s) {pc : PollPc} (htoken : s.poll.token = some o)
    (htransaction : (s.ops o).transaction = some i) (hdone : ¬ Unfinished s o)
    (hpc : pc.token = none) : Owned { s.release i with poll := pc } := by
  refine ⟨?_, hs.available_release i, hs.paired⟩
  have hretire := hs.valid.retire (p := Place.poll) htoken htransaction hdone
  rw [ledger, token, holders_setPoll, hpc]
  exact hretire

/-- Callbacks enter the slot of the identifier, which is empty because the right to
it is with the thread. -/
theorem store (hs : Owned s) (hc : Consistent s) {pc : Pc}
    (htoken : (s.threads t).token = some o) (htransaction : (s.ops o).transaction = some i)
    (hpc : pc.token = none) :
    Owned ({ s with table := s.table.register i o }.goto t pc) := by
  have hempty : (ledger s).token (.slot i) = none := by
    cases hslot : (ledger s).token (.slot i) with
    | none => rfl
    | some o' =>
        have hclaim : (s.ops o').transaction = some i := (hc.slot o' i hslot).transaction
        have hplace := hs.valid.token_eq hslot hclaim
          (show (ledger s).token (.thread t) = some o from htoken) htransaction
        contradiction
  refine ⟨?_, hs.available, ?_⟩
  · have hpass := hs.valid.pass (p := Place.thread t) (q := Place.slot i) htoken hempty
    rw [Function.update_comm (by simp)] at hpass
    rw [ledger, token, holders_goto, holders_store, hpc]
    exact hpass
  · intro j
    by_cases h : j = i
    · subst h
      simp [State.goto, Table.register]
    · simpa [State.goto, Table.register, h] using hs.paired j

/-- An available identifier is handed to an operation without one. -/
theorem acquire (hs : Owned s) {pc : Pc} (hnone : (s.threads t).token = none)
    (hsearch : (s.ops o).transaction = none)
    (havailable : s.table.available_transaction_ids_ i = true) (hpc : pc.token = some o) :
    Owned ((s.acquire o i).goto t pc) := by
  have hclaim : (fun o' => ((s.acquire o i).ops o').transaction) =
      Function.update (fun o' => (s.ops o').transaction) o (some i) := by
    funext o'
    by_cases h : o' = o
    · subst h
      simp [State.acquire, State.setOp]
    · simp [State.acquire, State.setOp, h]
  have hactive : Unfinished (s.acquire o i) = Unfinished s := by
    funext o'
    by_cases h : o' = o
    · subst h
      simp [Unfinished, State.acquire, State.setOp]
    · simp [Unfinished, State.acquire, State.setOp, h]
  refine ⟨?_, ?_, hs.paired⟩
  · have hacquire :=
      hs.valid.acquire (p := Place.thread t) hsearch (hs.available i havailable) hnone
    have hledger : ledger ((s.acquire o i).goto t pc) =
        { owner := Function.update s.owner i (some o)
          claim := Function.update (fun o' => (s.ops o').transaction) o (some i)
          token := Function.update (token s) (.thread t) (some o)
          active := Unfinished s } := by
      rw [ledger, token, holders_goto, hpc, ← hclaim, ← hactive]
      rfl
    rw [hledger]
    exact hacquire
  · intro j h
    by_cases hji : j = i
    · subst hji
      simp [State.goto, State.acquire, Table.acquire] at h
    · simp only [State.goto, State.acquire, Table.acquire, Function.update_of_ne hji] at h ⊢
      exact hs.available j h

/-- A thread starts a new operation. -/
theorem start (hs : Owned s) (hc : Consistent s) (hnone : (s.threads t).token = none)
    (kind : OpKind) (retries : Option Nat) : Owned (s.start t kind retries) := by
  have hfresh : (s.ops s.nextOp).transaction = none := by
    rw [hc.fresh s.nextOp (Nat.le_refl _)]
  have hop : Owned (s.setOp s.nextOp { kind, retries }) :=
    hs.setOp hfresh.symm fun _ _ => .inr hfresh
  have hmoved : Owned ((s.setOp s.nextOp { kind, retries }).goto t (.allocate s.nextOp)) :=
    hop.goto hnone.symm
  exact hmoved.congr rfl rfl hmoved.paired

theorem started (hs : Owned s) (hnone : (s.threads t).token = none) (index : Option Nat) :
    Owned (s.started t o index) :=
  State.started_cases (hs.goto hnone.symm) fun _ => hs.goto hnone.symm

/-- The reset of an error callback that is empty already. -/
theorem resetError (hs : Owned s) (hempty : s.table.reply_error_callback_ i = none) :
    Owned (s.resetError i) := by
  refine hs.congr rfl rfl ?_
  intro j
  by_cases h : j = i
  · subst h
    simpa [State.resetError, Table.resetError, hempty] using hs.paired j
  · simpa [State.resetError, Table.resetError, h] using hs.paired j

/-- Emptying a slot that has no error callback, hence no callback at all. -/
theorem clearEmpty (hs : Owned s) (hempty : s.table.reply_error_callback_ i = none) :
    Owned (s.clear i) := by
  have hreply : token s (.slot i) = none := (hs.paired i).symm.trans hempty
  have hsame : token (s.clear i) = token s := by
    rw [token, holders_clear, ← hreply]
    exact Function.update_eq_self ..
  refine hs.congr ?_ rfl (hs.paired_clear i)
  rw [ledger, hsame]
  rfl

/-- The poll thread goes on without passing a right. -/
theorem setPoll (hs : Owned s) {pc : PollPc} (htoken : pc.token = s.poll.token) :
    Owned { s with poll := pc } := by
  refine hs.congr ?_ rfl hs.paired
  have hsame : token { s with poll := pc } = token s := by
    rw [token, holders_setPoll, htoken]
    exact Function.update_eq_self ..
  rw [ledger, hsame]
  rfl

theorem not_unfinished (h : (s.ops o).promise ≠ []) : ¬ Unfinished s o :=
  fun hunfinished => h hunfinished.1

/-- The token of the thread that moves. -/
theorem token_of {pc : Pc} (hpc : s.threads t = pc) : (s.threads t).token = pc.token := by
  rw [hpc]

theorem pollToken_of {pc : PollPc} (hpoll : s.poll = pc) : s.poll.token = pc.token := by
  rw [hpoll]

/-- The second section of a cancellation, by the thread that took the callbacks. -/
theorem cancel (hs : Owned s) (hc : Consistent s) (hpc : s.threads t = .cancelRelease o i) :
    Owned (((s.release i).setOp o { s.ops o with cancelled := true }).retry t o) := by
  have hcancelled : Owned (s.setOp o { s.ops o with cancelled := true }) := by
    refine hs.setOp rfl ?_
    intro _ hlive
    contradiction
  have hretired : ∀ pc : Pc, pc.token = none →
      Owned (((s.release i).setOp o { s.ops o with cancelled := true }).goto t pc) := by
    intro pc hnone
    refine hcancelled.retire (token_of hpc) ?_ ?_ hnone
    · simpa [State.setOp] using (hc.assert hpc).1.transaction
    · simp [Unfinished, State.setOp]
  have hconsistent : Consistent
      (((s.release i).setOp o { s.ops o with cancelled := true }).goto t .idle) :=
    (hc.cancel hpc).leave t
  apply State.retry_cases
  · intro kind retries
    rw [← State.start_goto _ t .idle]
    exact (hretired .idle rfl).start hconsistent (by simp [State.goto, Pc.token]) kind retries
  · exact hretired .idle rfl

/-- Every section of an orderly run passes rights on as the protocol has it. -/
theorem of_section (hs : Owned s) (hc : Consistent s) (hguard : orderly s l = true)
    (h : Section range s l s') : Owned s' := by
  cases h with
  | call hpc => exact hs.start hc (token_of hpc) _ _
  | found hpc hscan =>
      have hsearch := hc.assert hpc
      exact hs.acquire (token_of hpc) hsearch.transaction (Table.scan_available hscan).2 rfl
  | expired hpc hscan => exact hs.goto (token_of hpc).symm
  | exhausted hpc hscan => exact (hs.setValue _ _).started (token_of hpc) _
  | evictTake hpc hfree herror => exact hs.take (hc.error _ _ herror) (token_of hpc) rfl
  | evictNothing hpc hfree herror => exact (hs.clearEmpty herror).goto (token_of hpc).symm
  | evictSettle hpc => exact (hs.setValue _ _).goto (token_of hpc).symm
  | evictRelease hpc =>
      obtain ⟨-, hholding, hset⟩ := hc.assert hpc
      exact hs.retire (token_of hpc) hholding.transaction (not_unfinished hset) rfl
  | evictReleaseNothing hpc =>
      simp [orderly, hpc] at hguard
  | evictReset hpc =>
      simp only [orderly, hpc, decide_eq_true_eq] at hguard
      exact (hs.resetError hguard).goto (token_of hpc).symm
  | @register t o i hpc hfree =>
      have hstore : Owned ({ s with table := s.table.register i o }.goto t (.sending o i)) :=
        hs.store hc (token_of hpc) (hc.assert hpc).1 rfl
      have hop : Owned (({ s with table := s.table.register i o }.goto t (.sending o i)).setOp o
          { s.ops o with registered := true }) :=
        hstore.setOp rfl fun hunset hlive => .inl ⟨hunset, hlive⟩
      exact hop
  | @transmit t o i hpc =>
      have hmoved : Owned (s.goto t (.sent o i)) := hs.goto (token_of hpc).symm
      exact hmoved.congr rfl rfl hmoved.paired
  | sent hpc => exact hs.started (token_of hpc) _
  | failClear hpc hfree =>
      simp only [orderly, hpc, decide_eq_true_eq] at hguard
      exact hs.take hguard (token_of hpc) rfl
  | failSettle hpc => exact (hs.setValue _ _).goto (token_of hpc).symm
  | @failRelease t o i hpc =>
      obtain ⟨hholding, hset⟩ := hc.assert hpc
      have hretire : ∀ pc : Pc, pc.token = none → Owned ((s.release i).goto t pc) := by
        intro pc
        exact hs.retire (token_of hpc) hholding.transaction (not_unfinished hset)
      exact State.started_cases (hretire _ rfl) fun _ => hretire _ rfl
  | ready hpc hset => exact hs.goto (token_of hpc).symm
  | cancelClear hpc hfree =>
      simp only [orderly, hpc, decide_eq_true_eq] at hguard
      exact hs.take hguard (token_of hpc) rfl
  | cancelRelease hpc => exact hs.cancel hc hpc
  | sendFails hpc => exact hs.goto (token_of hpc).symm
  | timeout hpc hunset => exact hs.goto (token_of hpc).symm
  | ignored hpoll => exact hs.congr rfl rfl hs.paired
  | @dispatched packet cause o i hpoll htype hindex hreply =>
      have htake : Owned { s.clear i with poll := .complete o i packet } :=
        hs.takePoll hreply hpoll rfl
      exact htake.congr rfl rfl htake.paired
  | @complete throws o i packet hpoll hthrows =>
      have hcalled : Owned (s.setOp o
          { s.ops o with completions := (s.ops o).completions ++ [packet] }) :=
        hs.setOp rfl fun hunset hlive => .inl ⟨hunset, hlive⟩
      exact hcalled.setPoll (pollToken_of hpoll).symm
  | settle hpoll => exact (hs.setValue _ _).setPoll (pollToken_of hpoll).symm
  | pollRelease hpoll =>
      obtain ⟨hholding, hset⟩ := hc.pollAssert hpoll
      exact hs.retirePoll (pollToken_of hpoll) hholding.transaction (not_unfinished hset) rfl
  | @pollReset throws o i hpoll =>
      have hempty : s.table.reply_error_callback_ i = none := by
        rw [hs.paired i]
        exact hc.pollSlot i (by rw [State.locked, hpoll]; rfl)
      exact (hs.resetError hempty).setPoll (pollToken_of hpoll).symm
  | tick => exact hs.congr rfl rfl hs.paired
  | setTimeout => exact hs.congr rfl rfl hs.paired
  | lose => exact hs.congr rfl rfl hs.paired

/-- At the start every identifier is available and every place is empty. -/
theorem initial (now : Int) : Owned { now := now } := by
  refine ⟨⟨?_, ?_, ?_⟩, fun _ _ => rfl, fun _ => rfl⟩
  · intro p q o hp
    cases p <;> contradiction
  · intro p o hp
    cases p <;> contradiction
  · intro o i _ h
    contradiction

theorem of_reaches {now : Int}
    (h : Reaches (step range) (fun s l => orderly s l) { now := now } s) : Owned s := by
  refine h.invariant (initial now) ?_
  intro t u l hreach hguard hstep ht
  exact ht.of_section (Consistent.of_reaches hreach) hguard (.of_step hstep)

/-- The owner of the identifier whose slot holds callbacks. -/
theorem owner_of_slot (hs : Owned s) (hc : Consistent s)
    (h : s.table.reply_callback_ i = some o) : s.owner i = some o :=
  hs.valid.owner_eq (p := Place.slot i) h (hc.slot o i h).transaction

/-- The owner of the identifier whose right a thread has. -/
theorem owner_of_thread (hs : Owned s) (h : (s.threads t).token = some o)
    (htransaction : (s.ops o).transaction = some i) : s.owner i = some o :=
  hs.valid.owner_eq (p := Place.thread t) h htransaction

/-- And whose right the poll thread has. -/
theorem owner_of_poll (hs : Owned s) (h : s.poll.token = some o)
    (htransaction : (s.ops o).transaction = some i) : s.owner i = some o :=
  hs.valid.owner_eq (p := Place.poll) h htransaction

end Owned

/-- Two asynchronous writes, both sent; the first is answered. -/
def twoWrites : List Label :=
  [.call 0 .write none, .step 0, .step 0, .step 0, .step 0,
    .call 1 .write none, .step 1, .step 1, .step 1, .step 1,
    .receive { type := .WriteReply, transactionID := 0x20 } (some 0),
    .pollStep false, .pollStep false, .pollStep false, .pollStep false]

/-- A synchronous write waits in vain; before it cancels, its reply completes it and
an asynchronous write takes the identifier over. The late cancellation removes the
callbacks of the second write and releases its identifier, which a third one gets. -/
def cancelRace : List Label :=
  [.call 0 .write (some 1), .step 0, .step 0, .step 0, .step 0, .timeout 0,
    .receive { type := .WriteReply, transactionID := 0x20 } (some 0),
    .pollStep false, .pollStep false, .pollStep false, .pollStep false,
    .call 1 .write none, .step 1, .step 1, .step 1, .step 1, .step 0, .step 0,
    .call 2 .write none, .step 2]

/-- Some thread is about to give the operation's promise a value. -/
def Settling (s : State) (o : OpId) : Prop :=
  (∃ t w i, s.threads t = .evictSettle w i o) ∨ (∃ t i e, s.threads t = .failSettle o i e) ∨
    (∃ i packet, s.poll = .complete o i packet) ∨ (∃ i value, s.poll = .settle o i value)

/-- The callbacks of the operation are in its slot. -/
def Kept (s : State) (o : OpId) : Prop :=
  ∃ i, (s.ops o).transaction = some i ∧ s.table.reply_callback_ i = some o ∧
    s.table.reply_error_callback_ i = some o

/-- The callbacks of an asynchronous operation left its slot, and its promise neither
has a value nor is about to get one. -/
structure Abandoned (s : State) (o : OpId) : Prop where
  asynchronous : (s.ops o).retries = none
  registered : (s.ops o).registered = true
  removed : ¬ Kept s o
  unset : (s.ops o).promise = []
  unsettling : ¬ Settling s o

/-- An operation whose right the poll thread has is settled or about to be. -/
theorem Consistent.of_pollToken (hc : Consistent s) (h : s.poll.token = some o) :
    Settling s o ∨ (s.ops o).promise ≠ [] := by
  cases hpoll : s.poll with
  | complete o' i packet =>
      rw [hpoll] at h
      cases h
      exact .inl (.inr (.inr (.inl ⟨i, packet, hpoll⟩)))
  | settle o' i value =>
      rw [hpoll] at h
      cases h
      exact .inl (.inr (.inr (.inr ⟨i, value, hpoll⟩)))
  | release o' i =>
      rw [hpoll] at h
      cases h
      exact .inr (hc.pollAssert hpoll).2
  | _ =>
      rw [hpoll] at h
      contradiction

/-- So is one whose right a client thread has, unless it has not been registered yet
or is a synchronous one that is being cancelled. -/
theorem Consistent.of_token (hc : Consistent s) (h : (s.threads t).token = some o) :
    Settling s o ∨ (s.ops o).promise ≠ [] ∨ (s.ops o).registered = false ∨
      (s.ops o).retries ≠ none := by
  cases hpc : s.threads t with
  | evictSettle w i v =>
      rw [hpc] at h
      cases h
      exact .inl (.inl ⟨t, w, i, hpc⟩)
  | evictRelease w i v =>
      rw [hpc] at h
      cases h
      exact .inr (.inl (hc.assert hpc).2.2)
  | register o' i =>
      rw [hpc] at h
      cases h
      exact .inr (.inr (.inl (hc.assert hpc).2.2))
  | failSettle o' i e =>
      rw [hpc] at h
      cases h
      exact .inl (.inr (.inl ⟨t, i, e, hpc⟩))
  | failRelease o' i =>
      rw [hpc] at h
      cases h
      exact .inr (.inl (hc.assert hpc).2)
  | cancelRelease o' i =>
      rw [hpc] at h
      cases h
      exact .inr (.inr (.inr (hc.assert hpc).2))
  | _ =>
      rw [hpc] at h
      contradiction

/-- In orderly runs no asynchronous operation is abandoned. -/
theorem not_abandoned_of_orderly {now : Int}
    (h : Reaches (step range) (fun s l => orderly s l) { now := now } s) (o : OpId) :
    ¬ Abandoned s o := by
  intro habandoned
  have hs : Owned s := .of_reaches h
  have hc : Consistent s := .of_reaches h
  obtain ⟨i, hi⟩ := hc.indexed o habandoned.registered
  have hlive : (s.ops o).cancelled = false := by
    cases hcancelled : (s.ops o).cancelled with
    | false => rfl
    | true => exact absurd habandoned.asynchronous (hc.cancelled o hcancelled)
  -- The right to release its identifier is somewhere, and every place settles first.
  obtain ⟨p, hp⟩ := hs.valid.guarded o i ⟨habandoned.unset, hlive⟩ hi
  cases p with
  | slot j =>
      have hj : (s.ops o).transaction = some j := (hc.slot o j hp).transaction
      exact habandoned.removed ⟨j, hj, hp, (hs.paired j).trans hp⟩
  | poll =>
      obtain hsettling | hset := hc.of_pollToken hp
      · exact habandoned.unsettling hsettling
      · exact hset habandoned.unset
  | thread t =>
      obtain hsettling | hset | hunregistered | hsync := hc.of_token hp
      · exact habandoned.unsettling hsettling
      · exact hset habandoned.unset
      · rw [habandoned.registered] at hunregistered
        contradiction
      · exact hsync habandoned.asynchronous

theorem not_abandoned_of_orderly_twoWrites :
    ∃ s, Reaches (step {}) (fun s l => orderly s l) {} s ∧
      ((s.ops 1).registered = true ∧ (s.ops 1).promise = []) ∧ ¬ Abandoned s 1 := by
  obtain ⟨s, hreach, hs⟩ : ∃ s, Reaches (step {}) (fun s l => orderly s l) {} s ∧
      ((s.ops 1).registered = true ∧ (s.ops 1).promise = []) :=
    Reaches.exists_of_run twoWrites rfl
  exact ⟨s, hreach, hs, not_abandoned_of_orderly hreach 1⟩

/-- The second write of the race is sent, waits for its reply and is never settled. -/
theorem cancelRace_abandons : ∃ s, Reaches (step {}) always {} s ∧ Abandoned s 1 := by
  obtain ⟨s, hrun⟩ : ∃ s, run (step {}) always {} cancelRace = some s :=
    Option.isSome_iff_exists.mp rfl
  have hpoll : s.poll.token = none := eq_of_map_run hrun (fun s => s.poll.token) rfl
  have hthreads : ∀ t, (s.threads t).token = none ∨ (s.threads t).token = some 2 := by
    intro t
    match t with
    | 0 => exact .inl (eq_of_map_run hrun (fun s => (s.threads 0).token) rfl)
    | 1 => exact .inl (eq_of_map_run hrun (fun s => (s.threads 1).token) rfl)
    | 2 => exact .inr (eq_of_map_run hrun (fun s => (s.threads 2).token) rfl)
    | t + 3 => exact .inl (eq_of_map_run hrun (fun s => (s.threads (t + 3)).token) rfl)
  refine ⟨s, .of_run hrun, ?_, ?_, ?_, ?_, ?_⟩
  · exact eq_of_map_run hrun (fun s => (s.ops 1).retries) rfl
  · exact eq_of_map_run hrun (fun s => (s.ops 1).registered) rfl
  · rintro ⟨i, hi, hreply, -⟩
    rw [eq_of_map_run hrun (fun s => (s.ops 1).transaction) rfl] at hi
    cases hi
    rw [eq_of_map_run hrun (fun s => s.table.reply_callback_ 0) rfl] at hreply
    contradiction
  · exact eq_of_map_run hrun (fun s => (s.ops 1).promise) rfl
  · rintro (⟨t, w, i, h⟩ | ⟨t, i, e, h⟩ | ⟨i, packet, h⟩ | ⟨i, value, h⟩)
    · have ht := hthreads t
      simp [h, Pc.token] at ht
    · have ht := hthreads t
      simp [h, Pc.token] at ht
    · simp [h, PollPc.token] at hpoll
    · simp [h, PollPc.token] at hpoll

end SpwRmap.Concurrent
