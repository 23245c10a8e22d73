import SpwRmap.Node.Ownership
import SpwRmap.Packet.Builder
import SpwRmap.Packet.Parser

/-!
# How a promise gets its value

Three paths give a registered operation's promise a value: the poll thread after it
took the reply callback, an evicting thread after it took the error callback, and
the operation's own thread after its send failed. The first two take the callbacks
out of the slot and so exclude each other. The third clears the slot whatever is in
it, and then sets the promise even when one of the others has done so or is about to;
the second value ends the process. `failsUnsettled` is the condition that it does not
come to that.

The value that `poll` gives is success whenever `on_complete` returns, whatever the
type and the status of the reply.
-/

namespace SpwRmap.Concurrent

open Transition Custody

variable {range : TransactionRange} {s s' : State} {l : Label} {t : ThreadId} {o v : OpId} {i : Nat}

/-- The operation to whose promise a thread is about to give a value. -/
def Pc.setter : Pc → Option OpId
  | .evictSettle _ _ v => some v
  | .failSettle o _ _ => some o
  | _ => none

def PollPc.setter : PollPc → Option OpId
  | .complete o _ _ | .settle o _ _ => some o
  | _ => none

/-- Where a value for a registered operation can come from. -/
def setter (s : State) : Place → Option OpId := holders Pc.setter PollPc.setter s

/-- A failed send gets to its error path only while its operation has no value and
neither the poll thread nor an evicting one is about to give it one. -/
def FailsUnsettled (s : State) : Label → Prop
  | .step t =>
      match s.threads t with
      | .failClear o _ _ => (s.ops o).promise = [] ∧ ¬ Settling s o
      | _ => True
  | _ => True

structure SettledOnce (s : State) : Prop where
  unique : Unique (setter s)
  unset : ∀ p o, setter s p = some o → (s.ops o).promise = []
  once : ∀ o, (s.ops o).promise.length ≤ 1

theorem Settling.registered (hc : Consistent s) (h : Settling s o) :
    (s.ops o).registered = true := by
  obtain ⟨t, w, i, hpc⟩ | ⟨t, i, e, hpc⟩ | ⟨i, packet, hpoll⟩ | ⟨i, value, hpoll⟩ := h
  · exact (hc.assert hpc).2.registered
  · exact (hc.assert hpc).registered
  · exact (hc.pollAssert hpoll).registered
  · exact (hc.pollAssert hpoll).registered

namespace SettledOnce

theorem congr (hs : SettledOnce s) (hsetter : setter s' = setter s)
    (hpromise : ∀ o, (s'.ops o).promise = (s.ops o).promise) : SettledOnce s' := by
  refine ⟨hsetter ▸ hs.unique, ?_, ?_⟩
  · intro p o h
    rw [hsetter] at h
    rw [hpromise]
    exact hs.unset p o h
  · intro o
    rw [hpromise]
    exact hs.once o

theorem release (hs : SettledOnce s) (i : Nat) : SettledOnce (s.release i) :=
  hs.congr rfl fun _ => rfl

theorem resetError (hs : SettledOnce s) (i : Nat) : SettledOnce (s.resetError i) :=
  hs.congr rfl fun _ => rfl

/-- A place loses the value it had to give, if it had one. -/
theorem vacate (hs : SettledOnce s) {p : Place}
    (hsetter : setter s' = Function.update (setter s) p none) (hops : s'.ops = s.ops) :
    SettledOnce s' := by
  refine ⟨hsetter ▸ hs.unique.clear p, ?_, ?_⟩
  · intro q o h
    rw [hsetter, Function.update_apply] at h
    rw [hops]
    split at h
    · contradiction
    · exact hs.unset q o h
  · rw [hops]
    exact hs.once

/-- A thread goes on, without a value to give that it had not before. -/
theorem goto (hs : SettledOnce s) {pc : Pc}
    (hpc : pc.setter = none ∨ pc.setter = (s.threads t).setter) : SettledOnce (s.goto t pc) := by
  obtain hnone | hsame := hpc
  · refine hs.vacate (p := .thread t) ?_ rfl
    rw [setter, holders_goto, hnone]
    rfl
  · refine hs.congr ?_ fun _ => rfl
    rw [setter, holders_goto, hsame]
    exact Function.update_eq_self ..

/-- The poll thread goes on, likewise. -/
theorem setPoll (hs : SettledOnce s) {pc : PollPc}
    (hpc : pc.setter = none ∨ pc.setter = s.poll.setter) : SettledOnce { s with poll := pc } := by
  obtain hnone | hsame := hpc
  · refine hs.vacate (p := .poll) ?_ rfl
    rw [setter, holders_setPoll, hnone]
    rfl
  · refine hs.congr ?_ fun _ => rfl
    rw [setter, holders_setPoll, hsame]
    exact Function.update_eq_self ..

/-- The callbacks leave a slot for nobody. -/
theorem clear (hs : SettledOnce s) (i : Nat) : SettledOnce (s.clear i) :=
  hs.vacate (holders_clear ..) rfl

/-- An operation changes without getting a value. -/
theorem setOp (hs : SettledOnce s) {op : Operation} (hpromise : op.promise = (s.ops o).promise) :
    SettledOnce (s.setOp o op) := by
  refine hs.congr rfl ?_
  intro o'
  by_cases h : o' = o
  · subst h
    simpa [State.setOp] using hpromise
  · simp [State.setOp, h]

/-- A promise without a value, and to which nobody else is about to give one, gets
one. -/
theorem setValue (hs : SettledOnce s) (hunset : (s.ops o).promise = [])
    (hnone : ∀ p, setter s p ≠ some o) (value : Except ErrorCode Unit) :
    SettledOnce (s.setValue o value) := by
  refine ⟨hs.unique, ?_, ?_⟩
  · intro p o' h
    have hne : o' ≠ o := by
      rintro rfl
      exact hnone p h
    simp only [State.setValue, State.setOp, Function.update_of_ne hne]
    exact hs.unset p o' h
  · intro o'
    by_cases h : o' = o
    · subst h
      simp [State.setValue, State.setOp, hunset]
    · simp only [State.setValue, State.setOp, Function.update_of_ne h]
      exact hs.once o'

/-- The thread that is about to settle a promise does. -/
theorem settle (hs : SettledOnce s) {pc : Pc} (hsetter : (s.threads t).setter = some o)
    (hpc : pc.setter = none) (value : Except ErrorCode Unit) :
    SettledOnce ((s.setValue o value).goto t pc) := by
  have hmoved : SettledOnce (s.goto t pc) := hs.goto (.inl hpc)
  refine hmoved.setValue (hs.unset (.thread t) o hsetter) ?_ value
  rw [setter, holders_goto, hpc]
  exact hs.unique.absent hsetter

/-- The poll thread does. -/
theorem settlePoll (hs : SettledOnce s) {pc : PollPc} (hsetter : s.poll.setter = some o)
    (hpc : pc.setter = none) (value : Except ErrorCode Unit) :
    SettledOnce { s.setValue o value with poll := pc } := by
  have hmoved : SettledOnce { s with poll := pc } := hs.setPoll (.inl hpc)
  refine hmoved.setValue (hs.unset .poll o hsetter) ?_ value
  rw [setter, holders_setPoll, hpc]
  exact hs.unique.absent hsetter

/-- A value to give turns up at a place, and nowhere else. -/
theorem put (hs : SettledOnce s) {p : Place}
    (hsetter : setter s' = Function.update (setter s) p (some o))
    (hops : s'.ops = s.ops) (hunset : (s.ops o).promise = [])
    (habsent : ∀ q, q ≠ p → setter s q ≠ some o) : SettledOnce s' := by
  refine ⟨hsetter ▸ hs.unique.put habsent, ?_, ?_⟩
  · intro q o' h
    rw [hsetter, Function.update_apply] at h
    rw [hops]
    split at h
    · cases h
      exact hunset
    · exact hs.unset q o' h
  · rw [hops]
    exact hs.once

/-- A value to give outside the slots is one that is about to be given. -/
theorem settling {p : Place} (h : setter s p = some o) (hp : ∀ i, p ≠ .slot i) : Settling s o := by
  cases p with
  | slot i => exact absurd rfl (hp i)
  | poll =>
      have h : s.poll.setter = some o := h
      cases hpoll : s.poll with
      | complete o' i packet =>
          rw [hpoll] at h
          cases h
          exact .inr (.inr (.inl ⟨i, packet, hpoll⟩))
      | settle o' i value =>
          rw [hpoll] at h
          cases h
          exact .inr (.inr (.inr ⟨i, value, hpoll⟩))
      | _ =>
          rw [hpoll] at h
          contradiction
  | thread t =>
      have h : (s.threads t).setter = some o := h
      cases hpc : s.threads t with
      | evictSettle w i v =>
          rw [hpc] at h
          cases h
          exact .inl ⟨t, w, i, hpc⟩
      | failSettle o' i e =>
          rw [hpc] at h
          cases h
          exact .inr (.inl ⟨t, i, e, hpc⟩)
      | _ =>
          rw [hpc] at h
          contradiction

/-- Only registered operations get their values from these places. -/
theorem registered (hc : Consistent s) {p : Place} (h : setter s p = some o) :
    (s.ops o).registered = true := by
  cases p with
  | slot i => exact (hc.slot o i h).registered
  | poll => exact (settling h (by simp)).registered hc
  | thread t => exact (settling h (by simp)).registered hc

/-- The callbacks taken out of a slot were nowhere else. -/
theorem absent_of_taken (hs : SettledOnce s) (hreply : s.table.reply_callback_ i = some o)
    (q : Place) : setter (s.clear i) q ≠ some o := by
  have hslot : setter s (.slot i) = some o := hreply
  rw [setter, holders_clear]
  exact hs.unique.absent hslot q

/-- Clearing the slot of an operation that nobody else is settling leaves no other
place for its value. -/
theorem absent_of_unsettling (hc : Consistent s) (htransaction : (s.ops o).transaction = some i)
    (hunsettling : ¬ Settling s o) (q : Place) : setter (s.clear i) q ≠ some o := by
  intro h
  rw [setter, holders_clear, Function.update_apply] at h
  split at h
  · contradiction
  · rename_i hne
    refine hunsettling (settling h ?_)
    rintro j rfl
    have hj := (hc.slot o j h).transaction
    rw [htransaction] at hj
    cases hj
    exact hne rfl

theorem setter_of {pc : Pc} (hpc : s.threads t = pc) : (s.threads t).setter = pc.setter := by
  rw [hpc]

theorem started (hs : SettledOnce s) (t : ThreadId) (o : OpId) (index : Option Nat) :
    SettledOnce (s.started t o index) :=
  State.started_cases (hs.goto (.inl rfl)) fun _ => hs.goto (.inl rfl)

theorem start (hs : SettledOnce s) (hc : Consistent s) (t : ThreadId) (kind : OpKind)
    (retries : Option Nat) : SettledOnce (s.start t kind retries) := by
  have hop : SettledOnce (s.setOp s.nextOp { kind, retries }) := by
    refine hs.setOp ?_
    rw [hc.fresh s.nextOp (Nat.le_refl _)]
  have hmoved : SettledOnce ((s.setOp s.nextOp { kind, retries }).goto t (.allocate s.nextOp)) :=
    hop.goto (.inl rfl)
  exact hmoved.congr rfl fun _ => rfl

theorem of_section (hs : SettledOnce s) (hc : Consistent s) (hguard : FailsUnsettled s l)
    (h : Section range s l s') : SettledOnce s' := by
  cases h with
  | call hpc => exact hs.start hc _ _ _
  | @found t o i hpc hscan =>
      have hop : SettledOnce (s.setOp o { s.ops o with transaction := some i }) := hs.setOp rfl
      have hmoved : SettledOnce ((s.setOp o { s.ops o with transaction := some i }).goto t
          (.register o i)) := hop.goto (.inl rfl)
      exact hmoved.congr rfl fun _ => rfl
  | expired hpc hscan => exact hs.goto (.inl rfl)
  | exhausted hpc hscan =>
      have hsearch := hc.assert hpc
      refine (hs.setValue hsearch.promise ?_ _).started _ _ _
      intro p h
      have hregistered := registered hc h
      rw [hsearch.registered] at hregistered
      contradiction
  | @evictTake t o v i hpc hfree herror =>
      have hreply := hc.error v i herror
      refine (hs.clear i).put (holders_goto ..) rfl (hs.unset (.slot i) v hreply) ?_
      intro q _
      exact hs.absent_of_taken hreply q
  | evictNothing hpc hfree herror => exact (hs.clear _).goto (.inl rfl)
  | evictSettle hpc => exact hs.settle (setter_of hpc) rfl _
  | evictRelease hpc => exact (hs.release _).goto (.inl rfl)
  | evictReleaseNothing hpc => exact (hs.release _).goto (.inl rfl)
  | evictReset hpc => exact (hs.resetError _).goto (.inl rfl)
  | @register t o i hpc hfree =>
      obtain ⟨-, hunset, hunregistered⟩ : (Pc.register o i).Assert s.ops := hc.assert hpc
      have habsent : ∀ q, setter s q ≠ some o := by
        intro q h
        have hregistered := registered hc h
        rw [hunregistered] at hregistered
        contradiction
      have hstore : SettledOnce { s with table := s.table.register i o } :=
        hs.put (holders_store ..) rfl hunset fun q _ => habsent q
      have hop : SettledOnce ({ s with table := s.table.register i o }.setOp o
          { s.ops o with registered := true }) := hstore.setOp rfl
      exact hop.goto (.inl rfl)
  | @transmit t o i hpc =>
      have hmoved : SettledOnce (s.goto t (.sent o i)) := hs.goto (.inl rfl)
      exact hmoved.congr rfl fun _ => rfl
  | sent hpc => exact hs.started _ _ _
  | @failClear t o i e hpc hfree =>
      simp only [FailsUnsettled, hpc] at hguard
      have hholding : (s.ops o).Holding i := hc.assert hpc
      refine (hs.clear i).put (holders_goto ..) rfl hguard.1 ?_
      intro q _
      exact absent_of_unsettling hc hholding.transaction hguard.2 q
  | failSettle hpc => exact hs.settle (setter_of hpc) rfl _
  | failRelease hpc => exact (hs.release _).started _ _ _
  | ready hpc hset => exact hs.goto (.inl rfl)
  | cancelClear hpc hfree => exact (hs.clear _).goto (.inl rfl)
  | @cancelRelease t o i hpc =>
      have hop : SettledOnce ((s.release i).setOp o { s.ops o with cancelled := true }) :=
        (hs.release i).setOp rfl
      exact State.retry_cases (hop.start (hc.cancel hpc) t) (hop.goto (.inl rfl))
  | sendFails hpc => exact hs.goto (.inl rfl)
  | timeout hpc hunset => exact hs.goto (.inl rfl)
  | ignored hpoll => exact hs.congr rfl fun _ => rfl
  | @dispatched packet cause o i hpoll htype hindex hreply =>
      have htake : SettledOnce { s.clear i with poll := .complete o i packet } := by
        refine (hs.clear i).put (holders_setPoll ..) rfl (hs.unset (.slot i) o hreply) ?_
        intro q _
        exact hs.absent_of_taken hreply q
      exact htake.congr rfl fun _ => rfl
  | @complete throws o i packet hpoll hthrows =>
      have hop : SettledOnce (s.setOp o
          { s.ops o with completions := (s.ops o).completions ++ [packet] }) := hs.setOp rfl
      refine hop.setPoll (.inr ?_)
      show some o = s.poll.setter
      rw [hpoll]
      rfl
  | settle hpoll => exact hs.settlePoll (by rw [hpoll]; rfl) rfl _
  | pollRelease hpoll => exact (hs.release _).setPoll (.inl rfl)
  | pollReset hpoll => exact (hs.resetError _).setPoll (.inl rfl)
  | tick => exact hs.congr rfl fun _ => rfl
  | setTimeout => exact hs.congr rfl fun _ => rfl
  | lose => exact hs.congr rfl fun _ => rfl

theorem initial (now : Int) : SettledOnce { now := now } := by
  refine ⟨?_, ?_, fun _ => Nat.zero_le 1⟩
  · intro p q o hp
    cases p <;> contradiction
  · intro p o hp
    cases p <;> contradiction

end SettledOnce

/-- In runs whose failed sends find their operation unsettled, no promise gets a
second value. -/
theorem settled_once_of_failsUnsettled {now : Int}
    (h : Reaches (step range) FailsUnsettled { now := now } s) (o : OpId) :
    (s.ops o).promise.length ≤ 1 := by
  have hs : SettledOnce s := by
    refine h.invariant (.initial now) ?_
    intro t u l hreach hguard hstep ht
    exact ht.of_section (.of_reaches hreach) hguard (.of_step hstep)
  exact hs.once o

/-- No failed send is in its error path. -/
def sendsSucceed (s : State) : Label → Bool
  | .step t =>
      match s.threads t with
      | .failClear _ _ _ => false
      | _ => true
  | _ => true

theorem FailsUnsettled.of_sendsSucceed (h : sendsSucceed s l = true) : FailsUnsettled s l := by
  cases l with
  | step t =>
      rw [FailsUnsettled]
      split
      · rename_i hpc
        simp [sendsSucceed, hpc] at h
      · trivial
  | _ => trivial

theorem settled_once_of_failsUnsettled_twoWrites :
    ∃ s, Reaches (step {}) FailsUnsettled {} s ∧ (s.ops 0).promise ≠ [] ∧
      (s.ops 0).promise.length ≤ 1 := by
  obtain ⟨s, hreach, hs⟩ : ∃ s, Reaches (step {}) (fun s l => sendsSucceed s l) {} s ∧
      (s.ops 0).promise ≠ [] :=
    Reaches.exists_of_run twoWrites rfl
  have hguarded : Reaches (step {}) FailsUnsettled {} s :=
    hreach.mono fun _ _ => .of_sendsSucceed
  exact ⟨s, hguarded, hs, settled_once_of_failsUnsettled hguarded 0⟩

/-- A synchronous write times out and is cancelled. Its reply arrives while the next
write, which got its identifier, is still being sent, and completes that one; then
the send fails. -/
def lateReply : List Label :=
  [.call 0 .write (some 1), .step 0, .step 0, .step 0, .step 0, .timeout 0, .step 0, .step 0,
    .call 1 .write none, .step 1, .step 1,
    .receive { type := .WriteReply, transactionID := 0x20 } (some 0),
    .pollStep false, .pollStep false, .pollStep false, .pollStep false,
    .sendFails 1 (.errc .timed_out), .step 1, .step 1]

theorem lateReply_settles_twice :
    ∃ s, Reaches (step {}) always {} s ∧ (s.ops 1).promise.length = 2 :=
  Reaches.exists_of_run lateReply rfl

/-- The reply that a command asks for, with the status of success. -/
def Operation.Conforms (op : Operation) (packet : Packet) : Prop :=
  packet.type = op.kind.replyType ∧ packet.status = PacketStatusCode.CommandExecutedSuccessfully

instance (op : Operation) (packet : Packet) : Decidable (op.Conforms packet) :=
  inferInstanceAs (Decidable (_ ∧ _))

/-- The replies on which `on_complete` returns are the ones their commands ask for. -/
def conforming (s : State) : Label → Bool
  | .pollStep false =>
      match s.poll with
      | .complete o _ packet => (s.ops o).Conforms packet
      | _ => true
  | _ => true

/-- An operation with the value success was completed by one packet, which conforms. -/
def Justified (op : Operation) : Prop :=
  .ok () ∈ op.promise → ∃ packet, op.completions = [packet] ∧ op.Conforms packet

/-- `on_complete` is called once: not before the callbacks leave the slot, and while
they are in the slot or about to be run, not yet. -/
structure Completions (s : State) : Prop where
  unregistered : ∀ o, (s.ops o).registered = false → (s.ops o).completions = []
  slot : ∀ o i, s.table.reply_callback_ i = some o → (s.ops o).completions = []
  complete : ∀ o i packet, s.poll = .complete o i packet → (s.ops o).completions = []
  settle : ∀ o i, s.poll = .settle o i (.ok ()) →
    ∃ packet, (s.ops o).completions = [packet] ∧ (s.ops o).Conforms packet
  justified : ∀ o, Justified (s.ops o)

/-- A change of an operation that neither completes it nor gives it success. -/
structure Operation.Quiet (op op' : Operation) : Prop where
  completions : op'.completions = op.completions
  kind : op.completions ≠ [] → op'.kind = op.kind
  registered : op'.registered = false → op.registered = false
  promise : .ok () ∈ op'.promise → .ok () ∈ op.promise

theorem Operation.Quiet.refl (op : Operation) : Quiet op op :=
  ⟨rfl, fun _ => rfl, fun h => h, fun h => h⟩

theorem Operation.Quiet.justification {op op' : Operation} (h : Quiet op op')
    (hop : ∃ packet, op.completions = [packet] ∧ op.Conforms packet) :
    ∃ packet, op'.completions = [packet] ∧ op'.Conforms packet := by
  obtain ⟨packet, hpacket, hconforms⟩ := hop
  have hkind : op'.kind = op.kind := h.kind (by simp [hpacket])
  refine ⟨packet, h.completions.trans hpacket, ?_⟩
  rw [Operation.Conforms, hkind]
  exact hconforms

namespace Completions

/-- The clock, the threads and quiet changes of operations play no part, and
callbacks may leave the slots. -/
theorem frame (hs : Completions s) (hops : ∀ o, (s.ops o).Quiet (s'.ops o))
    (hslot : ∀ o i, s'.table.reply_callback_ i = some o →
      s.table.reply_callback_ i = some o ∨ (s.ops o).registered = false)
    (hpoll : s'.poll = s.poll) : Completions s' := by
  refine ⟨?_, ?_, ?_, ?_, ?_⟩
  · intro o h
    rw [(hops o).completions]
    exact hs.unregistered o ((hops o).registered h)
  · intro o i h
    rw [(hops o).completions]
    obtain hold | hnew := hslot o i h
    · exact hs.slot o i hold
    · exact hs.unregistered o hnew
  · intro o i packet h
    rw [(hops o).completions]
    exact hs.complete o i packet (hpoll ▸ h)
  · intro o i h
    exact (hops o).justification (hs.settle o i (hpoll ▸ h))
  · intro o h
    exact (hops o).justification (hs.justified o ((hops o).promise h))

/-- Nothing changes but the threads, the clock and the identifiers. -/
theorem congr (hs : Completions s) (hops : s'.ops = s.ops)
    (hreply : s'.table.reply_callback_ = s.table.reply_callback_) (hpoll : s'.poll = s.poll) :
    Completions s' := by
  refine hs.frame ?_ ?_ hpoll
  · intro o
    rw [hops]
    exact .refl _
  · intro o i h
    rw [hreply] at h
    exact .inl h

theorem clear (hs : Completions s) (i : Nat) : Completions (s.clear i) := by
  refine hs.frame (fun o => .refl _) ?_ rfl
  intro o j h
  simp only [State.clear, Table.clear, Function.update_apply] at h
  split at h
  · contradiction
  · exact .inl h

theorem setOp (hs : Completions s) {op : Operation} (hquiet : (s.ops o).Quiet op) :
    Completions (s.setOp o op) := by
  refine hs.frame ?_ (fun o i h => .inl h) rfl
  intro o'
  simp only [State.setOp, Function.update_apply]
  split
  · rename_i hoo
    rw [hoo]
    exact hquiet
  · exact .refl _

theorem setError (hs : Completions s) (o : OpId) (e : ErrorCode) :
    Completions (s.setValue o (.error e)) := by
  refine hs.setOp ⟨rfl, fun _ => rfl, fun h => h, ?_⟩
  intro h
  simpa using h

theorem goto (hs : Completions s) (t : ThreadId) (pc : Pc) : Completions (s.goto t pc) :=
  hs.congr rfl rfl rfl

theorem started (hs : Completions s) (t : ThreadId) (o : OpId) (index : Option Nat) :
    Completions (s.started t o index) :=
  State.started_cases (hs.goto t _) fun _ => hs.goto t _

theorem start (hs : Completions s) (hc : Consistent s) (t : ThreadId) (kind : OpKind)
    (retries : Option Nat) : Completions (s.start t kind retries) := by
  have hop : Completions (s.setOp s.nextOp { kind, retries }) := by
    refine hs.setOp ?_
    rw [hc.fresh s.nextOp (Nat.le_refl _)]
    exact ⟨rfl, fun h => absurd rfl h, fun _ => rfl, fun h => h⟩
  exact hop.congr rfl rfl rfl

/-- The poll thread leaves the callback behind. -/
theorem leave (hs : Completions s) {pc : PollPc} (hpc : pc.setter = none) :
    Completions { s with poll := pc } := by
  refine ⟨hs.unregistered, hs.slot, ?_, ?_, hs.justified⟩
  · rintro o i packet rfl
    contradiction
  · rintro o i rfl
    contradiction

/-- `on_complete` is called on a packet, and returns only if the packet conforms. -/
theorem called (hs : Completions s) (hc : Consistent s) {packet : Packet} {throws : Bool}
    (hpoll : s.poll = .complete o i packet)
    (hconforms : throws = false → (s.ops o).Conforms packet) :
    Completions { s.setOp o { s.ops o with completions := (s.ops o).completions ++ [packet] } with
      poll := .settle o i (if throws then .error (.errc .operation_canceled) else .ok ()) } := by
  have hholding : (s.ops o).Holding i := hc.pollAssert hpoll
  have hnone : (s.ops o).completions = [] := hs.complete o i packet hpoll
  -- No other slot has its callbacks, and this one is empty.
  have hnotin : ∀ j, s.table.reply_callback_ j ≠ some o := by
    intro j h
    have hj := (hc.slot o j h).transaction
    rw [hholding.transaction] at hj
    cases hj
    have hempty := hc.pollSlot i (by rw [State.locked, hpoll]; rfl)
    rw [hempty] at h
    contradiction
  refine ⟨?_, ?_, ?_, ?_, ?_⟩
  · intro o' h
    by_cases hoo : o' = o
    · subst hoo
      simp only [State.setOp, Function.update_self] at h
      rw [hholding.registered] at h
      contradiction
    · simp only [State.setOp, Function.update_of_ne hoo] at h ⊢
      exact hs.unregistered o' h
  · intro o' j h
    have hoo : o' ≠ o := by
      rintro rfl
      exact hnotin j h
    simp only [State.setOp, Function.update_of_ne hoo]
    exact hs.slot o' j h
  · intro o' j packet' h
    contradiction
  · intro o' j h
    simp only [PollPc.settle.injEq] at h
    obtain ⟨rfl, -, hvalue⟩ := h
    cases throws with
    | true => contradiction
    | false =>
        refine ⟨packet, ?_, ?_⟩
        · simp [State.setOp, hnone]
        · rw [Operation.Conforms]
          simp only [State.setOp, Function.update_self]
          exact hconforms rfl
  · intro o' h
    by_cases hoo : o' = o
    · subst hoo
      simp only [State.setOp, Function.update_self] at h
      obtain ⟨packet', hpacket', -⟩ := hs.justified o' h
      rw [hnone] at hpacket'
      contradiction
    · simp only [State.setOp, Function.update_of_ne hoo] at h ⊢
      exact hs.justified o' h

/-- Success is given with a justification. -/
theorem setSuccess (hs : Completions s)
    (hjustified : ∃ packet, (s.ops o).completions = [packet] ∧ (s.ops o).Conforms packet) :
    Completions (s.setValue o (.ok ())) := by
  have hsame : ∀ o', ((s.setValue o (.ok ())).ops o').completions = (s.ops o').completions ∧
      ((s.setValue o (.ok ())).ops o').kind = (s.ops o').kind ∧
      ((s.setValue o (.ok ())).ops o').registered = (s.ops o').registered := by
    intro o'
    by_cases hoo : o' = o
    · subst hoo
      simp [State.setValue, State.setOp]
    · simp [State.setValue, State.setOp, hoo]
  have hconforms : ∀ o' packet, ((s.setValue o (.ok ())).ops o').Conforms packet ↔
      (s.ops o').Conforms packet := by
    intro o' packet
    rw [Operation.Conforms, Operation.Conforms, (hsame o').2.1]
  refine ⟨?_, ?_, ?_, ?_, ?_⟩
  · intro o' h
    rw [(hsame o').2.2] at h
    rw [(hsame o').1]
    exact hs.unregistered o' h
  · intro o' j h
    rw [(hsame o').1]
    exact hs.slot o' j h
  · intro o' j packet h
    rw [(hsame o').1]
    exact hs.complete o' j packet h
  · intro o' j h
    simp only [(hsame o').1, hconforms]
    exact hs.settle o' j h
  · intro o' h
    simp only [(hsame o').1, hconforms]
    by_cases hoo : o' = o
    · subst hoo
      exact hjustified
    · simp only [State.setValue, State.setOp, Function.update_of_ne hoo] at h
      exact hs.justified o' h

theorem of_section (hs : Completions s) (hc : Consistent s) (hguard : conforming s l = true)
    (h : Section range s l s') : Completions s' := by
  cases h with
  | call hpc => exact hs.start hc _ _ _
  | @found t o i hpc hscan =>
      have hop : Completions (s.setOp o { s.ops o with transaction := some i }) :=
        hs.setOp ⟨rfl, fun _ => rfl, fun h => h, fun h => h⟩
      exact hop.congr rfl rfl rfl
  | expired hpc hscan => exact hs.goto _ _
  | exhausted hpc hscan => exact (hs.setError _ _).started _ _ _
  | evictTake hpc hfree herror => exact (hs.clear _).goto _ _
  | evictNothing hpc hfree herror => exact (hs.clear _).goto _ _
  | evictSettle hpc => exact (hs.setError _ _).goto _ _
  | evictRelease hpc => exact hs.congr rfl rfl rfl
  | evictReleaseNothing hpc => exact hs.congr rfl rfl rfl
  | evictReset hpc => exact hs.congr rfl rfl rfl
  | @register t o i hpc hfree =>
      have hunregistered := (hc.assert hpc).2.2
      have hstore : Completions { s with table := s.table.register i o } := by
        refine hs.frame (fun _ => .refl _) ?_ rfl
        intro o' j h
        simp only [Table.register, Function.update_apply] at h
        split at h
        · cases h
          exact .inr hunregistered
        · exact .inl h
      have hop : Completions ({ s with table := s.table.register i o }.setOp o
          { s.ops o with registered := true }) :=
        hstore.setOp ⟨rfl, fun _ => rfl, fun _ => hunregistered, fun h => h⟩
      exact hop.goto _ _
  | transmit hpc => exact hs.congr rfl rfl rfl
  | sent hpc => exact hs.started _ _ _
  | failClear hpc hfree => exact (hs.clear _).goto _ _
  | failSettle hpc => exact (hs.setError _ _).goto _ _
  | @failRelease t o i hpc =>
      have hreleased : Completions (s.release i) := hs.congr rfl rfl rfl
      exact hreleased.started _ _ _
  | ready hpc hset => exact hs.goto _ _
  | cancelClear hpc hfree => exact (hs.clear _).goto _ _
  | @cancelRelease t o i hpc =>
      have hreleased : Completions (s.release i) := hs.congr rfl rfl rfl
      have hop : Completions ((s.release i).setOp o { s.ops o with cancelled := true }) :=
        hreleased.setOp ⟨rfl, fun _ => rfl, fun h => h, fun h => h⟩
      exact State.retry_cases (hop.start (hc.cancel hpc) t) (hop.goto t _)
  | sendFails hpc => exact hs.goto _ _
  | timeout hpc hunset => exact hs.goto _ _
  | ignored hpoll => exact hs.congr rfl rfl rfl
  | @dispatched packet cause o i hpoll htype hindex hreply =>
      have hcleared := hs.clear i
      refine ⟨hcleared.unregistered, hcleared.slot, ?_, ?_, hcleared.justified⟩
      · intro o' j packet' h
        cases h
        exact hs.slot o i hreply
      · intro o' j h
        contradiction
  | @complete throws o i packet hpoll hthrows =>
      refine hs.called hc hpoll ?_
      rintro rfl
      simpa [conforming, hpoll] using hguard
  | @settle throws o i value hpoll =>
      have hset : Completions (s.setValue o value) := by
        cases value with
        | error e => exact hs.setError o e
        | ok _ => exact hs.setSuccess (hs.settle o i hpoll)
      exact hset.leave rfl
  | @pollRelease throws o i hpoll =>
      have hreleased : Completions (s.release i) := hs.congr rfl rfl rfl
      exact hreleased.leave rfl
  | @pollReset throws o i hpoll =>
      have hreset : Completions (s.resetError i) := hs.congr rfl rfl rfl
      exact hreset.leave rfl
  | tick => exact hs.congr rfl rfl rfl
  | setTimeout => exact hs.congr rfl rfl rfl
  | lose => exact hs.congr rfl rfl rfl

theorem initial (now : Int) : Completions { now := now } := by
  refine ⟨fun _ _ => rfl, fun _ _ _ => rfl, fun _ _ _ _ => rfl, ?_, ?_⟩
  · intro o i h
    contradiction
  · intro o h
    contradiction

end Completions

/-- When the replies on which `on_complete` returns are the ones asked for, an
operation that succeeded was completed by a reply of its type with the status of
success. -/
theorem success_of_conforming {now : Int}
    (h : Reaches (step range) (fun s l => conforming s l) { now := now } s) (o : OpId) :
    Justified (s.ops o) := by
  have hs : Completions s := by
    refine h.invariant (.initial now) ?_
    intro t u l hreach hguard hstep ht
    exact ht.of_section (.of_reaches hreach) hguard (.of_step hstep)
  exact hs.justified o

theorem success_of_conforming_twoWrites :
    ∃ s, Reaches (step {}) (fun s l => conforming s l) {} s ∧ (s.ops 0).promise ≠ [] ∧
      Justified (s.ops 0) := by
  obtain ⟨s, hreach, hs⟩ : ∃ s, Reaches (step {}) (fun s l => conforming s l) {} s ∧
      (s.ops 0).promise ≠ [] :=
    Reaches.exists_of_run twoWrites rfl
  exact ⟨s, hreach, hs, success_of_conforming hreach 0⟩

/-- A write reply whose status is the general error code. -/
def refusal : Packet where
  initiatorLogicalAddress := 0xFE
  instruction := 0x3C
  status := 0x01
  targetLogicalAddress := 0x34
  transactionID := 0x20
  type := .WriteReply

/-- An asynchronous write is answered by the refusal. -/
def refusedWrite : List Label :=
  [.call 0 .write none, .step 0, .step 0, .step 0, .step 0,
    .receive refusal (some 0), .pollStep false, .pollStep false]

/-- The parser accepts the refusal, and the write that it answers succeeds. -/
theorem refusedWrite_succeeds :
    PacketParser.parse {} (WriteReplyPacketBuilder.wire
        { status := 0x01, targetLogicalAddress := 0x34, transactionID := 0x20 }) =
      .ok (.Success, ⟨refusal⟩) ∧
    ∃ s, Reaches (step {}) always {} s ∧ ¬ Justified (s.ops 0) := by
  refine ⟨by decide +kernel, ?_⟩
  obtain ⟨s, hrun⟩ : ∃ s, run (step {}) always {} refusedWrite = some s :=
    Option.isSome_iff_exists.mp rfl
  refine ⟨s, .of_run hrun, ?_⟩
  intro hjustified
  have hpromise : (s.ops 0).promise = [.ok ()] :=
    eq_of_map_run hrun (fun s => (s.ops 0).promise) rfl
  have hcompletions : (s.ops 0).completions = [refusal] :=
    eq_of_map_run hrun (fun s => (s.ops 0).completions) rfl
  obtain ⟨packet, hpacket, -, hstatus⟩ := hjustified (by simp [hpromise])
  rw [hcompletions] at hpacket
  cases hpacket
  contradiction

end SpwRmap.Concurrent
