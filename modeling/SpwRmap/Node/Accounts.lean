import SpwRmap.Node.Allocation
import SpwRmap.Node.Derived
import SpwRmap.Node.Session

/-!
# The transaction table over a session

Between the calls of a session every operation is accounted for: it waits in one slot,
under the identifier of that slot and with its promise unset, or it is in no slot and
its promise has its one value, unless it was an attempt that timed out and was
cancelled. A slot without an operation has no callbacks and its identifier is
available.

Seven paths of the source end at four transitions of the accounts: an operation enters
an available slot, is refused one, leaves its slot with a value, or leaves it without
one. Each of them keeps the accounts, and so does whatever touches neither the table
nor a promise.
-/

namespace SpwRmap

open Span Outcome Transition

/-- Whether the event gives the promise of `operation` a value. -/
def Event.settles (operation : Nat) (event : Event) : Bool := (event.valueOf operation).isSome

namespace Node

variable {self node : Node} {cancelled : List Nat}

/-- How often the promise of an operation was given a value. -/
def settled (self : Node) (operation : Nat) : Nat := self.events.countP (Event.settles operation)

structure Accounted (node : Node) (cancelled : List Nat) : Prop where
  available_iff : ∀ i < node.range.total,
    node.table.available_transaction_ids_ i = true ↔ node.table.reply_callback_ i = none
  /-- Both callbacks are empty, or both are those of one operation. -/
  paired : ∀ i < node.range.total,
    node.table.reply_error_callback_ i = node.table.reply_callback_ i
  occupied : ∀ i < node.range.total, ∀ callback, node.table.reply_callback_ i = some callback →
    callback.transaction_id = node.range.identifier i ∧ callback.operation < node.operations ∧
      node.settled callback.operation = 0 ∧ callback.operation ∉ cancelled
  distinct : ∀ i < node.range.total, ∀ j < node.range.total, ∀ callback callback',
    node.table.reply_callback_ i = some callback → node.table.reply_callback_ j = some callback' →
      callback.operation = callback'.operation → i = j
  concluded : ∀ operation < node.operations,
    (∀ i < node.range.total, ∀ callback,
      node.table.reply_callback_ i = some callback → callback.operation ≠ operation) →
    node.settled operation = 1 ∧ operation ∉ cancelled ∨
      node.settled operation = 0 ∧ operation ∈ cancelled
  fresh : ∀ operation ≥ node.operations, node.settled operation = 0 ∧ operation ∉ cancelled

theorem settled_append (events : List Event) (operation o : Nat)
    (value : Except ErrorCode Unit) :
    (events ++ [Event.setValue o value]).countP (Event.settles operation) =
      events.countP (Event.settles operation) + if o = operation then 1 else 0 := by
  rw [List.countP_append, List.countP_singleton, Event.settles, Event.valueOf]
  by_cases h : o = operation
  · simp [h]
  · simp [h]

theorem settled_append_ne_zero (events : List Event) (operation : Nat)
    (value : Except ErrorCode Unit) :
    (events ++ [Event.setValue operation value]).countP (Event.settles operation) ≠ 0 := by
  rw [settled_append, if_pos rfl]
  exact Nat.succ_ne_zero _

theorem value_eq_none_iff (operation : Nat) :
    self.value operation = none ↔ self.settled operation = 0 := by
  rw [value, settled, List.findSome?_eq_none_iff, List.countP_eq_zero]
  simp [Event.settles]

namespace Accounted

/-- Nothing but the table, its range, the events and the number of operations matters. -/
theorem congr (h : self.Accounted cancelled) (hrange : node.range = self.range)
    (htable : node.table = self.table) (hoperations : node.operations = self.operations)
    (hsettled : ∀ operation, node.settled operation = self.settled operation) :
    node.Accounted cancelled := by
  constructor
  · rw [hrange, htable]
    exact h.available_iff
  · rw [hrange, htable]
    exact h.paired
  · rw [hrange, htable, hoperations]
    simpa only [hsettled] using h.occupied
  · rw [hrange, htable]
    exact h.distinct
  · rw [hrange, htable, hoperations]
    simpa only [hsettled] using h.concluded
  · rw [hoperations]
    simpa only [hsettled] using h.fresh

theorem transmits (h : self.Accounted cancelled) (hsend : Transmits self node) :
    node.Accounted cancelled := by
  obtain ⟨buf, handed, sent, rfl⟩ := hsend
  exact h.congr rfl rfl rfl fun _ => rfl

/-- A slot whose identifier is not available holds both callbacks of an operation. -/
theorem callback (h : self.Accounted cancelled) {i : Nat} (hi : i < self.range.total)
    (hused : self.table.available_transaction_ids_ i = false) :
    ∃ operation, self.table.reply_callback_ i = some ⟨operation, self.range.identifier i⟩ := by
  cases hslot : self.table.reply_callback_ i with
  | none =>
      have havailable := (h.available_iff i hi).mpr hslot
      rw [hused] at havailable
      contradiction
  | some callback =>
      obtain ⟨hid, -⟩ := h.occupied i hi callback hslot
      obtain ⟨operation, transaction_id⟩ := callback
      exact ⟨operation, by rw [← hid]⟩

/-- An operation enters a slot. -/
theorem registered (h : self.Accounted cancelled) {i : Nat} (hi : i < self.range.total)
    (havailable : self.table.available_transaction_ids_ i = true) (now : Int) :
    (self.registered i now).Accounted cancelled := by
  have hself : (self.registered i now).table.reply_callback_ i =
      some ⟨self.operations, self.range.identifier i⟩ := Function.update_self ..
  have hother : ∀ j, j ≠ i →
      (self.registered i now).table.reply_callback_ j = self.table.reply_callback_ j :=
    fun j hne => Function.update_of_ne hne ..
  have holder : ∀ j < self.range.total, ∀ callback,
      self.table.reply_callback_ j = some callback → callback.operation ≠ self.operations :=
    fun j hj callback hslot => (h.occupied j hj callback hslot).2.1.ne
  constructor
  case available_iff =>
    intro j hj
    by_cases hji : j = i
    · subst hji
      simp [Node.registered, Table.acquire, Table.register]
    · rw [hother j hji, ← h.available_iff j hj]
      simp [Node.registered, Table.acquire, Table.register, hji]
  case paired =>
    intro j hj
    by_cases hji : j = i
    · subst hji
      rw [hself]
      exact Function.update_self ..
    · rw [hother j hji, ← h.paired j hj]
      exact Function.update_of_ne hji ..
  case occupied =>
    intro j hj callback hslot
    by_cases hji : j = i
    · subst hji
      cases hself.symm.trans hslot
      exact ⟨rfl, Nat.lt_succ_self _, h.fresh _ (Nat.le_refl _)⟩
    · rw [hother j hji] at hslot
      obtain ⟨hid, hlt, hunset⟩ := h.occupied j hj callback hslot
      exact ⟨hid, Nat.lt_succ_of_lt hlt, hunset⟩
  case distinct =>
    intro j hj k hk callback callback' hslot hslot' heq
    by_cases hji : j = i
    · by_cases hki : k = i
      · rw [hji, hki]
      · subst hji
        rw [hother k hki] at hslot'
        cases hself.symm.trans hslot
        exact absurd heq.symm (holder k hk callback' hslot')
    · rw [hother j hji] at hslot
      by_cases hki : k = i
      · subst hki
        cases hself.symm.trans hslot'
        exact absurd heq (holder j hj callback hslot)
      · rw [hother k hki] at hslot'
        exact h.distinct j hj k hk callback callback' hslot hslot' heq
  case concluded =>
    intro operation hlt hnone
    have hne : operation ≠ self.operations := fun heq => hnone i hi _ hself heq.symm
    refine h.concluded operation (Nat.lt_of_le_of_ne (Nat.le_of_lt_succ hlt) hne) ?_
    intro j hj callback hslot
    by_cases hji : j = i
    · subst hji
      rw [(h.available_iff j hj).mp havailable] at hslot
      contradiction
    · rw [← hother j hji] at hslot
      exact hnone j hj callback hslot
  case fresh =>
    intro operation hle
    exact h.fresh operation (Nat.le_of_succ_le hle)

/-- An operation is refused a slot. -/
theorem refused (h : self.Accounted cancelled) (value : Except ErrorCode Unit) :
    Accounted { self with
      operations := self.operations + 1
      events := self.events ++ [.setValue self.operations value] } cancelled := by
  have hsettled : ∀ operation, operation ≠ self.operations →
      settled { self with
        operations := self.operations + 1
        events := self.events ++ [.setValue self.operations value] } operation =
          self.settled operation := by
    intro operation hne
    rw [settled, settled_append, if_neg hne.symm]
    rfl
  constructor
  case available_iff => exact h.available_iff
  case paired => exact h.paired
  case occupied =>
    intro i hi callback hslot
    obtain ⟨hid, hlt, hunset⟩ := h.occupied i hi callback hslot
    refine ⟨hid, Nat.lt_succ_of_lt hlt, ?_⟩
    rw [hsettled _ hlt.ne]
    exact hunset
  case distinct => exact h.distinct
  case concluded =>
    intro operation hlt hnone
    by_cases hnew : operation = self.operations
    · subst hnew
      obtain ⟨hunset, huncancelled⟩ := h.fresh _ (Nat.le_refl _)
      refine .inl ⟨?_, huncancelled⟩
      rw [settled, settled_append, if_pos rfl]
      exact congrArg (· + 1) hunset
    · rw [hsettled _ hnew]
      exact h.concluded operation (Nat.lt_of_le_of_ne (Nat.le_of_lt_succ hlt) hnew) hnone
  case fresh =>
    intro operation hle
    rw [hsettled _ (Nat.ne_of_gt hle)]
    exact h.fresh operation (Nat.le_of_succ_le hle)

/-- An operation leaves its slot, with a value or as a cancelled one. -/
theorem freed (h : self.Accounted cancelled) {i : Nat} (hi : i < self.range.total)
    {callback : Callback} (hslot : self.table.reply_callback_ i = some callback)
    {events : List Event} {cancelled' : List Nat}
    (hothers : ∀ operation, operation ≠ callback.operation →
      events.countP (Event.settles operation) = self.settled operation ∧
        (operation ∈ cancelled' ↔ operation ∈ cancelled))
    (hown : events.countP (Event.settles callback.operation) = 1 ∧
        callback.operation ∉ cancelled' ∨
      events.countP (Event.settles callback.operation) = 0 ∧ callback.operation ∈ cancelled') :
    Accounted { self with
      table := (self.table.clear i).release i
      events := events } cancelled' := by
  have hself : ((self.table.clear i).release i).reply_callback_ i = none :=
    Function.update_self ..
  have hother : ∀ j, j ≠ i →
      ((self.table.clear i).release i).reply_callback_ j = self.table.reply_callback_ j :=
    fun j hne => Function.update_of_ne hne ..
  have hslots : ∀ j callback', ((self.table.clear i).release i).reply_callback_ j = some callback' →
      j ≠ i ∧ self.table.reply_callback_ j = some callback' := by
    intro j callback' hslot'
    by_cases hji : j = i
    · subst hji
      rw [hself] at hslot'
      contradiction
    · rw [hother j hji] at hslot'
      exact ⟨hji, hslot'⟩
  constructor
  case available_iff =>
    intro j hj
    by_cases hji : j = i
    · subst hji
      simp [Table.clear, Table.release]
    · simp only [hother j hji, ← h.available_iff j hj]
      simp [Table.clear, Table.release, hji]
  case paired =>
    intro j hj
    by_cases hji : j = i
    · subst hji
      simp [Table.clear, Table.release]
    · simp only [hother j hji, ← h.paired j hj]
      exact Function.update_of_ne hji ..
  case occupied =>
    intro j hj callback' hslot'
    obtain ⟨hji, hslot'⟩ := hslots j callback' hslot'
    obtain ⟨hid, hlt, hunset, huncancelled⟩ := h.occupied j hj callback' hslot'
    have hne : callback'.operation ≠ callback.operation :=
      fun heq => hji (h.distinct j hj i hi callback' callback hslot' hslot heq)
    obtain ⟨hcount, hmem⟩ := hothers _ hne
    exact ⟨hid, hlt, hcount.trans hunset, fun hin => huncancelled (hmem.mp hin)⟩
  case distinct =>
    intro j hj k hk callback₁ callback₂ hslot₁ hslot₂ heq
    exact h.distinct j hj k hk callback₁ callback₂ (hslots j _ hslot₁).2 (hslots k _ hslot₂).2 heq
  case concluded =>
    intro operation hlt hnone
    by_cases hleft : operation = callback.operation
    · subst hleft
      exact hown
    · obtain ⟨hcount, hmem⟩ := hothers _ hleft
      have hconcluded := h.concluded operation hlt ?_
      · rw [← hcount, ← hmem] at hconcluded
        exact hconcluded
      · intro j hj callback' hslot'
        by_cases hji : j = i
        · subst hji
          cases hslot.symm.trans hslot'
          exact Ne.symm hleft
        · exact hnone j hj callback' ((hother j hji).trans hslot')
  case fresh =>
    intro operation hle
    have hne : operation ≠ callback.operation :=
      (Nat.lt_of_lt_of_le (h.occupied i hi callback hslot).2.1 hle).ne'
    obtain ⟨hcount, hmem⟩ := hothers _ hne
    obtain ⟨hunset, huncancelled⟩ := h.fresh operation hle
    exact ⟨hcount.trans hunset, fun hin => huncancelled (hmem.mp hin)⟩

/-- An operation leaves its slot with a value; other events than this one settle nothing. -/
theorem settle (h : self.Accounted cancelled) {i : Nat} (hi : i < self.range.total)
    {callback : Callback} (hslot : self.table.reply_callback_ i = some callback)
    {events : List Event}
    (hevents : ∀ operation, events.countP (Event.settles operation) = self.settled operation)
    (value : Except ErrorCode Unit) :
    Accounted { self with
      table := (self.table.clear i).release i
      events := events ++ [.setValue callback.operation value] } cancelled := by
  obtain ⟨-, -, hunset, huncancelled⟩ := h.occupied i hi callback hslot
  apply h.freed hi hslot
  · intro operation hne
    rw [settled_append, if_neg hne.symm]
    exact ⟨hevents operation, Iff.rfl⟩
  · refine .inl ⟨?_, huncancelled⟩
    rw [settled_append, if_pos rfl, hevents, hunset]

/-- An operation leaves its slot as a cancelled one. -/
theorem cancel (h : self.Accounted cancelled) {i : Nat} (hi : i < self.range.total)
    {callback : Callback} (hslot : self.table.reply_callback_ i = some callback) :
    Accounted { self with table := (self.table.clear i).release i }
      (cancelled ++ [callback.operation]) := by
  obtain ⟨-, -, hunset, -⟩ := h.occupied i hi callback hslot
  apply h.freed hi hslot
  · intro operation hne
    simp [hne, settled]
  · exact .inr ⟨hunset, List.mem_concat_self⟩

end Accounted

theorem Accounted.filled (h : self.Accounted cancelled) (operations : Nat) :
    Filled (self.counting operations) := by
  intro i hi hused
  obtain ⟨operation, hslot⟩ := h.callback hi hused
  exact ⟨operation, hslot, (h.paired i hi).trans hslot⟩

/-- What `getAvailableTransactionID_` returns and leaves, by the accounts before it. -/
inductive Allocated (self : Node) (cancelled : List Nat) :
    Except ErrorCode UInt16 × Node → Prop where
  | exhausted (e : ErrorCode) : Allocated self cancelled (.error e, self)
  /-- An identifier was available, perhaps after a transaction had expired. -/
  | acquired (node : Node) (i : Nat) (now : Int) (haccounted : node.Accounted cancelled)
      (hrange : node.range = self.range) (hoperations : node.operations = self.operations)
      (hreceiver : node.receiver = self.receiver)
      (hi : i < self.range.total) (havailable : node.table.available_transaction_ids_ i = true) :
      Allocated self cancelled (.ok (self.range.identifier i),
        { node with table := node.table.acquire i now })

/-- Two rounds are enough: a forced release leaves an identifier for the second. The call
is made after the number of operations was raised for the new one. -/
theorem getAvailableTransactionID_allocated (h : self.Accounted cancelled) (ndebug : Bool)
    (env : Environment) (operations : Nat) :
    ∃ res node, Allocated self cancelled (res, node) ∧
      getAvailableTransactionID_ ndebug { self with operations := operations } env =
        .ok (res, { node with operations := operations }) := by
  obtain ⟨r, hselects, hloop⟩ := allocateLoop_selects (h.filled operations) ndebug env.now
  have heq : getAvailableTransactionID_ ndebug { self with operations := operations } env =
      .ok r := hloop 0
  rw [heq]
  by_cases havailable : (self.counting operations).availableSlots.Nonempty
  · obtain ⟨i, ⟨⟨hi, hfound⟩, -⟩, rfl⟩ := hselects.available havailable
    exact ⟨_, _, .acquired self i (env.now 0) h rfl rfl rfl hi hfound, rfl⟩
  have hempty := Set.not_nonempty_iff_eq_empty.mp havailable
  by_cases hlate : ((self.counting operations).lateSlots (env.now 0)).Nonempty
  · obtain ⟨i, callback, ⟨⟨hi, -⟩, -⟩, hslot, rfl⟩ := hselects.overdue hempty hlate
    have hnode := h.settle hi hslot (fun _ => rfl) (.error (.errc .timed_out))
    exact ⟨_, _, .acquired _ i (env.now 1) hnode rfl rfl rfl hi (Function.update_self ..), rfl⟩
  · rw [hselects.exhausted hempty (Set.not_nonempty_iff_eq_empty.mp hlate)]
    exact ⟨_, _, .exhausted _, rfl⟩

/-- A started operation is settled, or waits in the slot of its identifier. -/
def Pending (node : Node) (async_op : AsyncOperation) : Prop :=
  ∃ i < node.range.total, async_op.transaction_id = some (node.range.identifier i) ∧
    node.table.reply_callback_ i = some ⟨async_op.future, node.range.identifier i⟩

theorem start_accounted (h : self.Accounted cancelled) (ndebug : Bool) (env : Environment)
    (target_node : TargetNode) (command : Command) :
    Yields Fault.OfData
      (fun r => r.2.Accounted cancelled ∧ r.2.receiver = self.receiver ∧
        (r.2.settled r.1.future = 0 → Pending r.2 r.1))
      (self.start ndebug target_node env command) := by
  obtain ⟨res, node, hallocated, heq⟩ :=
    getAvailableTransactionID_allocated h ndebug env (self.operations + 1)
  rw [start_eq, startAsyncOperation_]
  dsimp only
  rw [heq, ok_bind]
  cases hallocated with
  | exhausted e =>
      refine ⟨h.refused (.error e), rfl, fun hunset => ?_⟩
      exact absurd hunset (settled_append_ne_zero self.events self.operations (.error e))
  | acquired node i now haccounted hrange hoperations hreceiver hi havailable =>
      rw [← hrange] at hi ⊢
      have hindex : (node.range.identifier i).toNat - node.range.transaction_id_min.toNat = i := by
        rw [node.range.identifier_toNat hi, Nat.add_sub_cancel_left]
      have hregistered := haccounted.registered hi havailable now
      have hslot : (node.registered i now).table.reply_callback_ i =
          some ⟨node.operations, node.range.identifier i⟩ := Function.update_self ..
      dsimp only
      rw [hindex, ← hoperations]
      apply ((node.registered i now).sendCommand_yields ndebug env target_node _ command).bind
      rintro ⟨res, sent⟩ ⟨⟨buf, calls, bytes, rfl⟩, -⟩
      have hsent : Accounted
          { node.registered i now with send_buf_ := buf, handed := calls, sent := bytes }
          cancelled := hregistered.transmits ⟨buf, calls, bytes, rfl⟩
      cases res with
      | ok _ => exact ⟨hsent, hreceiver, fun _ => ⟨i, hi, rfl, hslot⟩⟩
      | error e =>
          dsimp only
          rw [releaseTransactionID_eq ndebug (i := i)]
          · refine ⟨hsent.settle hi hslot (fun _ => rfl) (.error e), hreceiver, fun hunset => ?_⟩
            exact absurd hunset (settled_append_ne_zero node.events node.operations (.error e))
          · exact node.range.index_identifier hi

theorem cancelTransaction_eq (ndebug : Bool) {i : Nat} (hi : i < self.range.total) :
    self.cancelTransaction_ ndebug (self.range.identifier i) =
      .ok { self with table := (self.table.clear i).release i } := by
  have hindex := self.range.index_identifier hi
  rw [cancelTransaction_, hindex]
  exact releaseTransactionID_eq ndebug hindex

/-- By induction on the attempts: one that is not settled waits in its slot, and is
cancelled there before the next. -/
theorem attemptLoop_accounted (ndebug : Bool) (target_node : TargetNode) (command : Command)
    (attempts : Nat) (h : self.Accounted cancelled) (env : Nat → Environment) :
    Yields Fault.OfData
      (fun r => r.2.2.Accounted (cancelled ++ r.2.1) ∧ r.2.2.receiver = self.receiver)
      (attemptLoop ndebug target_node command attempts self env) := by
  induction attempts generalizing self cancelled env with
  | zero =>
      have hnone : self.Accounted (cancelled ++ []) := by rwa [List.append_nil]
      exact ⟨hnone, rfl⟩
  | succ attempts ih =>
      rw [attemptLoop]
      apply (start_accounted h ndebug (env 0) target_node command).bind
      rintro ⟨async_op, node⟩ ⟨hnode, hreceiver, hpending⟩
      dsimp only at hnode hreceiver hpending ⊢
      cases hvalue : node.value async_op.future with
      | some res =>
          have hnone : node.Accounted (cancelled ++ []) := by rwa [List.append_nil]
          exact ⟨hnone, hreceiver⟩
      | none =>
          obtain ⟨i, hi, hid, hslot⟩ := hpending ((value_eq_none_iff _).mp hvalue)
          dsimp only
          rw [hid]
          dsimp only
          rw [cancelTransaction_eq ndebug hi, ok_bind]
          apply (ih (hnode.cancel hi hslot) fun attempt => env (attempt + 1)).bind
          rintro ⟨res, rest, last⟩ ⟨hlast, hsame⟩
          dsimp only at hlast
          rw [List.append_assoc, List.singleton_append] at hlast
          exact ⟨hlast, hsame.trans hreceiver⟩

theorem Accounted.receiver (h : self.Accounted cancelled) (receiver : Receiver) :
    Accounted { self with receiver := receiver } cancelled :=
  h.congr rfl rfl rfl fun _ => rfl

/-- An unsolicited reply changes nothing, any other settles the operation of its slot. -/
theorem pollReply_accounted (h : self.Accounted cancelled) (ndebug : Bool) (env : Environment)
    (packet : Packet) :
    Yields Fault.OfData (fun r => r.2.Accounted cancelled ∧ r.2.receiver = self.receiver)
      (self.pollReply ndebug env packet) := by
  cases hindex : self.range.index packet.transactionID with
  | none =>
      rw [pollReply, hindex]
      exact ⟨h, rfl⟩
  | some i =>
      cases hslot : self.table.reply_callback_ i with
      | none =>
          rw [pollReply, hindex]
          dsimp only
          rw [hslot]
          exact ⟨h, rfl⟩
      | some callback =>
          have hi : i < self.range.total := self.range.lt_total_of_index hindex
          obtain ⟨hid, -⟩ := h.occupied i hi callback hslot
          have hown := hid ▸ self.range.index_identifier hi
          obtain ⟨value, heq⟩ := pollReply_eq ndebug env hindex hslot hown
          rw [heq, Table.resetError_release_clear]
          refine ⟨h.settle hi hslot ?_ value, rfl⟩
          intro operation
          rw [List.countP_append]
          rfl

/-- What survives the ways through the `switch` of `poll`: sending, records of what the user
was shown, and the handling of a reply. -/
structure KeptByPacket (E : Fault → Prop) (ndebug : Bool) (env : Environment) (P : Node → Prop) :
    Prop where
  faults : ∀ fault : Fault, fault.OfData → E fault
  transmits : ∀ {self node}, Transmits self node → P self → P node
  record : ∀ {self} event, (∀ operation, event.settles operation = false) →
    P self → P (self.record event)
  reply : ∀ {self} packet, P self →
    Yields E (fun r => P r.2) (self.pollReply ndebug env packet)

section Rules

variable {E : Fault → Prop} {ndebug : Bool} {env : Environment} {P : Node → Prop}

theorem sendReply_keeps (hP : KeptByPacket E ndebug env P) (h : P self)
    (hbackend : self.receiver.tcp_backend_.isSome) (total_size : Nat)
    {build : List UInt8 → Checked BuildResult} (hbuild : ∀ out, Contained (build out)) :
    Yields E (fun r => P r.2) (self.sendReply env total_size build) := by
  apply ((self.sendReply_yields env hbackend total_size hbuild).weaken hP.faults).mono
  intro r hsend
  exact hP.transmits hsend.transmits h

theorem pollPacket_keeps (hP : KeptByPacket E ndebug env P) (h : P self)
    (hbackend : self.receiver.tcp_backend_.isSome) (packet : Packet) :
    Yields E (fun r => P r.2) (self.pollPacket ndebug env packet) := by
  rw [pollPacket]
  cases packet.type with
  | ReadReply => exact hP.reply packet h
  | WriteReply => exact hP.reply packet h
  | Undefined => exact h
  | Read =>
      dsimp only
      rw [pollRead]
      dsimp only
      have hbuild := fun data =>
        ReadReplyPacketBuilder.build_contained (readReplyConfig packet data)
      cases env.on_read with
      | none => exact sendReply_keeps hP h hbackend _ (hbuild [])
      | some on_read =>
          dsimp only
          cases on_read packet with
          | none => exact h
          | some data =>
              exact sendReply_keeps hP (hP.record _ (fun _ => rfl) h) hbackend _ (hbuild data)
  | Write =>
      dsimp only
      rw [pollWrite]
      dsimp only
      have hbuild := WriteReplyPacketBuilder.build_contained (writeReplyConfig packet)
      cases env.on_write with
      | none => exact sendReply_keeps hP h hbackend _ hbuild
      | some on_write =>
          dsimp only
          split
          · exact sendReply_keeps hP (hP.record _ (fun _ => rfl) h) hbackend _ hbuild
          · exact hP.record _ (fun _ => rfl) h

theorem shutdown_keeps (hreceiver : ∀ {self} receiver, P self → P { self with receiver })
    (h : P self) (role : Role) (shutdowned_ : Bool) (res : Except ErrorCode Unit) :
    P ((role.derived shutdowned_ res).shutdown self).2 := by
  rw [Role.derived]
  dsimp only
  split
  · exact h
  · split
    · exact h
    · exact hreceiver _ h
    · exact h

/-- `poll` in addition replaces the receiver. -/
theorem poll_keeps (hP : KeptByPacket E ndebug env P)
    (hreceiver : ∀ {self} receiver, P self → P { self with receiver }) (h : P self) (role : Role)
    (shutdowned_ : Bool) (res : Except ErrorCode Unit) :
    Yields E (fun r => P r.2) (self.poll ndebug (role.derived shutdowned_ res) env) := by
  apply Impl.poll_yields hP.faults
  · exact fun receiver _ => hreceiver receiver h
  · exact fun node hnode => shutdown_keeps hreceiver hnode role shutdowned_ res
  · exact fun node packet hnode hbackend => pollPacket_keeps hP hnode hbackend packet

end Rules

theorem Accounted.record (h : self.Accounted cancelled) (event : Event)
    (hevent : ∀ operation, event.settles operation = false) :
    (self.record event).Accounted cancelled := by
  refine h.congr rfl rfl rfl fun operation => ?_
  rw [settled, Node.record, List.countP_append, List.countP_singleton, hevent]
  rfl

theorem pollPacket_accounted (h : self.Accounted cancelled) (ndebug : Bool) (env : Environment)
    (hbackend : self.receiver.tcp_backend_.isSome) (packet : Packet) :
    Yields Fault.OfData (fun r => r.2.Accounted cancelled ∧ r.2.receiver = self.receiver)
      (self.pollPacket ndebug env packet) := by
  have hkept : KeptByPacket Fault.OfData ndebug env
      fun node => node.Accounted cancelled ∧ node.receiver = self.receiver := by
    constructor
    case faults => exact fun _ hfault => hfault
    case transmits => exact fun hsend h => ⟨h.1.transmits hsend, hsend.receiver_eq.trans h.2⟩
    case record => exact fun event hevent h => ⟨h.1.record event hevent, h.2⟩
    case reply =>
      intro node packet h
      apply (pollReply_accounted h.1 ndebug env packet).mono
      exact fun r hr => ⟨hr.1, hr.2.trans h.2⟩
  exact pollPacket_keeps hkept ⟨h, rfl⟩ hbackend packet

theorem poll_accounted (h : self.Accounted cancelled) (ndebug : Bool) (role : Role)
    (shutdowned_ : Bool) (res : Except ErrorCode Unit) (env : Environment) :
    Yields Fault.OfData (fun r => r.2.Accounted cancelled)
      (self.poll ndebug (role.derived shutdowned_ res) env) := by
  have hkept : KeptByPacket Fault.OfData ndebug env fun node => node.Accounted cancelled := by
    constructor
    case faults => exact fun _ hfault => hfault
    case transmits => exact fun hsend h => h.transmits hsend
    case record => exact fun event hevent h => h.record event hevent
    case reply =>
      intro node packet h
      exact (pollReply_accounted h ndebug env packet).mono fun r hr => hr.1
  exact poll_keeps hkept (fun receiver h => h.receiver receiver) h role shutdowned_ res

/-- The constructor leaves every slot empty and no operation started. -/
theorem ofConfig_accounted (config : SpwRmapTCPNodeConfig) (backend : Backend) :
    (ofConfig config backend).Accounted [] := by
  constructor
  case available_iff => exact fun i _ => ⟨fun _ => rfl, fun _ => rfl⟩
  case paired => exact fun i _ => rfl
  case occupied => exact fun i _ callback hslot => nomatch hslot
  case distinct => exact fun i _ j _ callback callback' hslot => nomatch hslot
  case concluded => exact fun operation hlt => absurd hlt (Nat.not_lt_zero operation)
  case fresh => exact fun operation _ => ⟨rfl, List.not_mem_nil⟩

end Node

namespace Session

theorem call_accounted (ndebug : Bool) (role : Role) {s : Session}
    (h : s.node.Accounted s.cancelled) (call : Call) :
    Yields Fault.OfData (fun t => t.node.Accounted t.cancelled) (s.call ndebug role call) := by
  cases call with
  | writeAsync target_node memory_address data env =>
      apply (Node.start_accounted h ndebug env target_node (.write memory_address data)).bind
      exact fun r hr => hr.1
  | readAsync target_node memory_address data_length env =>
      apply (Node.start_accounted h ndebug env target_node (.read memory_address data_length)).bind
      exact fun r hr => hr.1
  | write target_node memory_address data retry_count env =>
      apply (Node.attemptLoop_accounted ndebug target_node (.write memory_address data)
        (Node.attempts retry_count) h env).bind
      exact fun r hr => hr.1
  | read target_node memory_address size retry_count env =>
      apply (Node.attemptLoop_accounted ndebug target_node
        (.read memory_address (UInt32.ofNat size)) (Node.attempts retry_count) h env).bind
      exact fun r hr => hr.1
  | setTimeout timeout => exact h.congr rfl rfl rfl fun _ => rfl
  | poll source shutdown shutdowned_ env =>
      apply (Node.poll_accounted (h.receiver _) ndebug role shutdowned_ shutdown env).bind
      exact fun r hr => hr

theorem accounted_of_run (ndebug : Bool) (role : Role) (config : SpwRmapTCPNodeConfig)
    (backend : Backend) {guard : Session → Call → Prop} {s : Session}
    (h : Reaches (step ndebug role) guard ⟨Node.ofConfig config backend, []⟩ s) :
    s.node.Accounted s.cancelled := by
  apply h.invariant (P := fun s => s.node.Accounted s.cancelled)
  · exact Node.ofConfig_accounted config backend
  · intro t u call _ _ hstep ht
    exact (call_accounted ndebug role ht call).toOption hstep

/-- For every configuration and every sequence of calls, the table is in order after each
of them, and the next call returns, unless it stops at an access out of range or at an
assertion in the code that handles packets. -/
theorem accounted_of_reaches (ndebug : Bool) (role : Role) (config : SpwRmapTCPNodeConfig)
    (backend : Backend) {s : Session}
    (h : Reaches (step ndebug role) always ⟨Node.ofConfig config backend, []⟩ s) :
    s.node.Accounted s.cancelled ∧
      ∀ call fault, s.call ndebug role call = .error fault → fault.OfData := by
  have haccounted := accounted_of_run ndebug role config backend h
  refine ⟨haccounted, ?_⟩
  intro call fault hcall
  have hyields := call_accounted ndebug role haccounted call
  rw [hcall] at hyields
  exact hyields

/-- Reached: one write waits in its slot, the two attempts of another were cancelled and a
third was refused by the socket. -/
theorem accounted_of_reaches_pending : ∃ s : Session,
    (s.node.table.reply_callback_ 0 = some ⟨0, 0x20⟩ ∧ s.cancelled = [1, 2] ∧
      s.node.operations = 4 ∧ s.node.settled 3 = 1) ∧ s.node.Accounted s.cancelled := by
  let target_node : TargetNode := ⟨[], [], 0xFE⟩
  have hreached : ∃ s : Session, Reaches (step true .client) always
      ⟨Node.ofConfig { send_buffer_size := 0 } { incoming := [] }, []⟩ s ∧
        (s.node.table.reply_callback_ 0 = some ⟨0, 0x20⟩ ∧ s.cancelled = [1, 2] ∧
          s.node.operations = 4 ∧ s.node.settled 3 = 1) := by
    apply Reaches.exists_of_run
      [.writeAsync target_node 0 [0x01] {}, .write target_node 0 [0x02] 2 fun _ => {},
        .setTimeout 0, .writeAsync target_node 0 [0x03] { sendAll := .failed (.errc .timed_out) 5 },
        .poll { incoming := [] } (.ok ()) false {}]
    decide +kernel
  obtain ⟨s, hreach, hs⟩ := hreached
  exact ⟨s, hs, (accounted_of_reaches true .client _ _ hreach).1⟩

end Session

end SpwRmap
