import SpwRmap.Bindings.Python

/-!
# The client under the Python node

What the calls of the client leave that the Python node makes: starting an operation, receiving
and dispatching. The thread and the user's side take turns between the halves of `poll`, so that
the backend may be gone when a packet is dispatched. With the callbacks of the bindings a
dispatch transmits something, or it runs one callback and gives its operation a value.
-/

namespace SpwRmap

open Span Outcome Transition

namespace Node

variable {self node : Node} {cancelled : List Nat}

theorem sendAll_transmits (self : Node) (env : Environment) (data : List UInt8) :
    Yields (fun _ => True) (fun r => Transmits self r.2) (self.sendAll env data) := by
  rw [sendAll]
  split
  · trivial
  · split
    · exact ⟨_, _, _, rfl⟩
    · exact ⟨_, _, _, rfl⟩

/-- Unlike `sendReply_yields`, this needs no backend. -/
theorem sendReply_transmits (self : Node) (env : Environment) (total_size : Nat)
    {build : List UInt8 → Checked BuildResult} (hbuild : ∀ out, Contained (build out)) :
    Yields (fun _ => True) (fun r => Transmits self r.2)
      (self.sendReply env total_size build) := by
  have hsend : ∀ buf : List UInt8, Yields (fun _ => True) (fun r => Transmits self r.2)
      ((self.withBuffer buf).send_ env total_size) := by
    intro buf
    rw [send_]
    iterate 13
      apply Yields.any.bind
      intro _ _
    apply (sendAll_transmits _ env _).mono
    rintro r ⟨buf', handed, sent, hr⟩
    exact ⟨buf', handed, sent, hr⟩
  rw [sendReply]
  split
  · exact ⟨_, _, _, rfl⟩
  · rename_i node hroom
    obtain ⟨buf, rfl⟩ := ensureSendRoom_buffer hroom
    apply ((buildPacket_yields hbuild).weaken fun _ _ => trivial).bind
    rintro ⟨res, built⟩ ⟨buf', rfl⟩
    cases res with
    | error e => exact ⟨_, _, _, rfl⟩
    | ok size =>
        apply (hsend buf').bind
        rintro ⟨res, sent⟩ hsent
        cases res with
        | error e => exact hsent
        | ok _ => exact hsent

/-- What comes to these events is that operations have failed. -/
def Failures (before after : List Event) : Prop :=
  ∃ failed : List (Nat × ErrorCode),
    after = before ++ failed.map fun failure => .setValue failure.1 (.error failure.2)

theorem Failures.refl (events : List Event) : Failures events events :=
  ⟨[], (List.append_nil _).symm⟩

theorem Failures.snoc {before after : List Event} (h : Failures before after) (operation : Nat)
    (e : ErrorCode) : Failures before (after ++ [.setValue operation (.error e)]) := by
  obtain ⟨failed, rfl⟩ := h
  refine ⟨failed ++ [(operation, e)], ?_⟩
  rw [List.map_append, List.append_assoc]
  rfl

theorem Failures.trans {a b c : List Event} (h : Failures a b) (h' : Failures b c) :
    Failures a c := by
  obtain ⟨failed, rfl⟩ := h
  obtain ⟨failed', rfl⟩ := h'
  refine ⟨failed ++ failed', ?_⟩
  rw [List.map_append, List.append_assoc]

theorem Failures.kept {before after : List Event} (h : Failures before after) :
    before <+: after := by
  obtain ⟨failed, rfl⟩ := h
  exact List.prefix_append ..

/-- An operation without a value does not succeed that way. -/
theorem value_of_failures (h : Failures self.events node.events) {operation : Nat}
    (hnone : self.value operation = none) : node.value operation ≠ some (.ok ()) := by
  obtain ⟨failed, hevents⟩ := h
  rw [value, hevents, List.findSome?_append]
  rw [value] at hnone
  rw [hnone, Option.none_or, List.findSome?_map]
  intro hvalue
  obtain ⟨failure, -, hfound⟩ := List.exists_of_findSome?_eq_some hvalue
  simp only [Function.comp_apply, Event.valueOf] at hfound
  split at hfound
  · cases hfound
  · contradiction

/-- The operations are those of before, some of which may have failed. -/
structure Grows (before after : Node) : Prop where
  events : Failures before.events after.events
  operations : after.operations = before.operations

namespace Grows

theorem refl (node : Node) : Grows node node := ⟨.refl _, rfl⟩

theorem trans {a b c : Node} (h : Grows a b) (h' : Grows b c) : Grows a c :=
  ⟨h.events.trans h'.events, h'.operations.trans h.operations⟩

theorem record (node : Node) (operation : Nat) (e : ErrorCode) :
    Grows node (node.record (.setValue operation (.error e))) :=
  ⟨(Failures.refl _).snoc operation e, rfl⟩

theorem transmits (h : Transmits self node) : Grows self node := by
  obtain ⟨buf, handed, sent, rfl⟩ := h
  exact ⟨.refl _, rfl⟩

theorem table (node : Node) (table : Table Callback) : Grows node { node with table } :=
  ⟨.refl _, rfl⟩

end Grows

theorem releaseTransactionID_grows (ndebug : Bool) (self : Node) (transaction_id : UInt16) :
    Yields (fun _ => True) (Grows self) (self.releaseTransactionID_ ndebug transaction_id) := by
  rw [releaseTransactionID_]
  split
  · apply Yields.any.bind
    exact fun _ _ => .refl self
  · exact .table self _

theorem forceReleaseTransaction_grows (ndebug : Bool) (self : Node) (index : Nat) :
    Yields (fun _ => True) (Grows self) (self.forceReleaseTransaction_ ndebug index) := by
  rw [forceReleaseTransaction_]
  dsimp only
  split
  · rename_i callback _
    rw [runErrorCallback, finish]
    apply (releaseTransactionID_grows ndebug _ _).bind
    intro node hnode
    exact ⟨((Failures.refl _).snoc _ _).trans hnode.events, hnode.operations⟩
  · apply (releaseTransactionID_grows ndebug _ _).mono
    exact fun node hnode => (Grows.table self _).trans hnode

theorem allocateLoop_grows (ndebug : Bool) (fuel : Nat) (self : Node) (now : Nat → Int) :
    Yields (fun _ => True) (fun r => Grows self r.2) (allocateLoop ndebug fuel self now) := by
  induction fuel generalizing self now with
  | zero => trivial
  | succ fuel ih =>
      rw [allocateLoop]
      split
      · exact .table self _
      · exact .refl self
      · apply (forceReleaseTransaction_grows ndebug self _).bind
        intro node hnode
        exact (ih node _).mono fun r hr => hnode.trans hr

/-- Starting an operation counts it. Others may fail, and so may itself. -/
theorem start_grows (ndebug : Bool) (self : Node) (target_node : TargetNode) (env : Environment)
    (command : Command) :
    Yields (fun _ => True)
      (fun r => Failures self.events r.2.events ∧ r.2.operations = self.operations + 1)
      (self.start ndebug target_node env command) := by
  rw [start_eq, startAsyncOperation_]
  dsimp only
  apply (allocateLoop_grows ndebug 2 _ env.now).bind
  rintro ⟨res, node⟩ hallocated
  cases res with
  | error e =>
      have hrefused := hallocated.trans (.record node self.operations e)
      exact ⟨hrefused.events, hrefused.operations⟩
  | ok transaction_id =>
      apply ((sendCommand_yields _ ndebug env target_node transaction_id command).weaken
        fun _ _ => trivial).bind
      rintro ⟨res, sent⟩ hsends
      have hsent := (hallocated.trans (.table node _)).trans (.transmits hsends.transmits)
      cases res with
      | ok _ => exact ⟨hsent.events, hsent.operations⟩
      | error e =>
          apply (releaseTransactionID_grows ndebug _ transaction_id).bind
          intro released hreleased
          have hfailed := hsent.trans (.record sent self.operations e)
          exact ⟨hfailed.events.trans hreleased.events,
            hreleased.operations.trans hfailed.operations⟩

/-- The node after the callback of an operation was run and did not throw. -/
def completed (self : Node) (i operation : Nat) (packet : Packet) : Node :=
  { self with
    table := (self.table.clear i).release i
    events := self.events ++ [.onComplete operation packet] ++ [.setValue operation (.ok ())] }

/-- Without callbacks for commands, a packet leads to a transmission or completes the
operation of one slot. -/
theorem pollPacket_cases (h : self.Accounted cancelled) (ndebug : Bool) {env : Environment}
    (hwrite : env.on_write = none) (hread : env.on_read = none)
    (hcomplete : ∀ operation packet, env.on_complete operation packet = true) (packet : Packet) :
    Yields (fun _ => True)
      (fun r => Transmits self r.2 ∨
        ∃ i < self.range.total, ∃ callback, self.table.reply_callback_ i = some callback ∧
          r.2 = self.completed i callback.operation packet)
      (self.pollPacket ndebug env packet) := by
  have hreply : Yields (fun _ => True)
      (fun r => Transmits self r.2 ∨
        ∃ i < self.range.total, ∃ callback, self.table.reply_callback_ i = some callback ∧
          r.2 = self.completed i callback.operation packet)
      (self.pollReply ndebug env packet) := by
    rw [pollReply]
    split
    · exact .inl ⟨_, _, _, rfl⟩
    · rename_i i hindex
      split
      · exact .inl ⟨_, _, _, rfl⟩
      · rename_i callback hslot
        have hi : i < self.range.total := self.range.lt_total_of_index hindex
        obtain ⟨hid, -⟩ := h.occupied i hi callback hslot
        have hown := hid ▸ self.range.index_identifier hi
        simp only [runReplyCallback, hcomplete, if_true]
        rw [finish_eq ndebug (i := i)]
        · refine .inr ⟨i, hi, callback, hslot, ?_⟩
          rw [completed, ← Table.resetError_release_clear]
          rfl
        · exact hown
  rw [pollPacket]
  cases packet.type with
  | ReadReply => exact hreply
  | WriteReply => exact hreply
  | Undefined => exact .inl ⟨_, _, _, rfl⟩
  | Read =>
      dsimp only
      rw [pollRead, hread]
      apply (sendReply_transmits self env _ (ReadReplyPacketBuilder.build_contained _)).mono
      exact fun r hr => .inl hr
  | Write =>
      dsimp only
      rw [pollWrite, hwrite]
      apply (sendReply_transmits self env _ (WriteReplyPacketBuilder.build_contained _)).mono
      exact fun r hr => .inl hr

end Node

namespace Client

variable {self client : Client}

/-- The operations are accounted for, none of them cancelled, and a client without a backend was
shut down. -/
structure Served (client : Client) : Prop where
  accounted : client.node.Accounted []
  ended : client.hasBackend = false → client.shutdowned_ = true

/-- Receiving changes the receiver alone. Without a backend it fails. -/
theorem receive_cases {sockets : Sockets} {res : Except ErrorCode Nat}
    (h : self.receive sockets = .ok (res, client)) :
    (∃ receiver, client = { self with node := { self.node with receiver } }) ∧
      client.hasBackend = self.hasBackend ∧
      (self.hasBackend = false → res = .error (.errc .not_connected)) := by
  have hyields := Receiver.recvAndParseOnePacket_yields
    (self.node.receiving (TCPClient.source self.fd_ sockets)).receiver
  rw [receive] at h
  obtain ⟨⟨res', receiver⟩, hreceived, h⟩ := bind_eq_ok_iff.mp h
  cases h
  rw [hreceived] at hyields
  obtain ⟨hbackend, hnone⟩ := hyields
  refine ⟨⟨receiver, rfl⟩, hbackend.trans (hasBackend_receiving self _), fun hmissing => ?_⟩
  rw [← hasBackend_receiving self (TCPClient.source self.fd_ sockets),
    Option.isSome_eq_false_iff, Option.isNone_iff_eq_none] at hmissing
  exact congrArg Prod.fst (hnone hmissing)

theorem Served.receive (hs : self.Served) {sockets : Sockets} {res : Except ErrorCode Nat}
    (h : self.receive sockets = .ok (res, client)) : client.Served := by
  obtain ⟨⟨receiver, rfl⟩, hbackend, -⟩ := receive_cases h
  refine ⟨hs.accounted.receiver receiver, fun hnone => hs.ended ?_⟩
  rw [← hbackend]
  exact hnone

theorem Served.shutdown (hs : self.Served) (sockets : Sockets) :
    (self.shutdown sockets).2.Served := by
  rw [Client.shutdown]
  split
  · dsimp only
    split
    · exact ⟨hs.accounted, fun _ => rfl⟩
    · exact ⟨hs.accounted.receiver _, fun _ => rfl⟩
  · exact hs

theorem Served.connect (hs : self.Served) {sockets : Sockets} {res : Except ErrorCode Unit}
    (h : self.connect sockets = .ok (res, client)) : client.Served ∧ client.node = self.node := by
  rw [Client.connect] at h
  split at h
  · rename_i hbackend
    have hkept : ∀ fd_ : Bool, Served { self with fd_ := fd_, shutdowned_ := false } := by
      refine fun fd_ => ⟨hs.accounted, fun hnone => ?_⟩
      exact absurd hbackend (ne_of_eq_of_ne hnone Bool.false_ne_true)
    dsimp only at h
    split at h
    · cases h
      exact ⟨hkept _, rfl⟩
    · split at h
      · cases h
        exact ⟨hkept _, rfl⟩
      · cases h
        exact ⟨hkept _, rfl⟩
  · contradiction

theorem Served.async (hs : self.Served) {ndebug : Bool} {target_node : TargetNode}
    {command : Command} {env : Environment} {answer : Answer}
    (h : self.async ndebug target_node command env = .ok (answer, client)) :
    client.Served ∧ client.hasBackend = self.hasBackend ∧
      Node.Failures self.node.events client.node.events ∧
      client.node.operations = self.node.operations + 1 := by
  have haccounted := Node.start_accounted hs.accounted ndebug (self.environment env) target_node
    command
  have hgrows := self.node.start_grows ndebug target_node (self.environment env) command
  rw [Client.async] at h
  obtain ⟨⟨async_op, node⟩, hstart, h⟩ := bind_eq_ok_iff.mp h
  cases h
  rw [hstart] at haccounted hgrows
  obtain ⟨hnode, hreceiver, -⟩ := haccounted
  have hbackend : hasBackend { self with node := node } = self.hasBackend := by
    rw [hasBackend, hreceiver, hasBackend]
  exact ⟨⟨hnode, fun hnone => hs.ended (hbackend.symm.trans hnone)⟩, hbackend, hgrows⟩

/-- What a dispatch leaves. The callback it may have run is that of an operation without a
value, which has one then. -/
structure Dispatched (before after : Client) : Prop where
  served : after.Served
  operations : after.node.operations = before.node.operations
  dropped : before.hasBackend = false → after.hasBackend = false
  events : after.node.events = before.node.events ∨
    ∃ operation packet, before.node.value operation = none ∧
      operation < before.node.operations ∧
      after.node.events = before.node.events ++
        [.onComplete operation packet, .setValue operation (.ok ())]

theorem shutdown_events (self : Client) (sockets : Sockets) :
    (self.shutdown sockets).2.node.events = self.node.events ∧
      (self.shutdown sockets).2.node.operations = self.node.operations := by
  rw [shutdown]
  split
  · cases TCPClient.shutdown self.fd_ sockets with
    | error e => exact ⟨rfl, rfl⟩
    | ok _ => exact ⟨rfl, rfl⟩
  · exact ⟨rfl, rfl⟩

namespace Dispatched

theorem refl (hs : self.Served) : Dispatched self self := ⟨hs, rfl, id, .inl rfl⟩

theorem shutdown (hs : self.Served) (sockets : Sockets) :
    Dispatched self (self.shutdown sockets).2 := by
  have hserved := hs.shutdown sockets
  rw [Client.shutdown] at hserved ⊢
  split
  · rename_i hbackend
    rw [if_pos hbackend] at hserved
    have hnot : self.hasBackend = false → False := fun hnone =>
      Bool.false_ne_true (hnone.symm.trans hbackend)
    dsimp only at hserved ⊢
    cases hended : TCPClient.shutdown self.fd_ sockets with
    | error e =>
        rw [hended] at hserved
        exact ⟨hserved, rfl, fun hnone => (hnot hnone).elim, .inl rfl⟩
    | ok _ =>
        rw [hended] at hserved
        exact ⟨hserved, rfl, fun hnone => (hnot hnone).elim, .inl rfl⟩
  · exact refl hs

theorem pollPacket (hs : self.Served) {node : Node} {packet : Packet}
    (h : Node.Transmits self.node node ∨
      ∃ i < self.node.range.total, ∃ callback, self.node.table.reply_callback_ i = some callback ∧
        node = self.node.completed i callback.operation packet) :
    Dispatched self { self with node } := by
  obtain ⟨buf, handed, sent, rfl⟩ | ⟨i, hi, callback, hslot, rfl⟩ := h
  · exact ⟨⟨hs.accounted.transmits ⟨buf, handed, sent, rfl⟩, hs.ended⟩, rfl, id, .inl rfl⟩
  · obtain ⟨-, hstarted, hunsettled, -⟩ := hs.accounted.occupied i hi callback hslot
    have hsettled : (self.node.completed i callback.operation packet).Accounted [] := by
      refine hs.accounted.settle hi hslot ?_ (.ok ())
      intro operation
      rw [List.countP_append]
      rfl
    refine ⟨⟨hsettled, hs.ended⟩, rfl, id, .inr ⟨callback.operation, packet, ?_, hstarted, ?_⟩⟩
    · exact (Node.value_eq_none_iff _).mpr hunsettled
    · exact List.append_assoc ..

end Dispatched

theorem Served.dispatch (hs : self.Served) {ndebug : Bool} {sockets : Sockets} {env : Environment}
    {res : Except ErrorCode Nat} {out : Except ErrorCode Bool}
    (h : self.dispatch ndebug sockets (Python.callbacks env) res = .ok (out, client)) :
    Dispatched self client := by
  cases res with
  | error e =>
      rw [Client.dispatch] at h
      split at h
      · cases h
        exact .refl hs
      · cases h
        exact .refl hs
  | ok size =>
      cases size with
      | zero =>
          have hended := Dispatched.shutdown hs sockets
          rw [Client.dispatch] at h
          revert h hended
          generalize self.shutdown sockets = ended
          obtain ⟨res, client'⟩ := ended
          intro h hended
          cases res with
          | error e =>
              cases h
              exact hended
          | ok _ =>
              cases h
              exact hended
      | succ size =>
          have hfacts : (self.environment (Python.callbacks env)).on_write = none ∧
              (self.environment (Python.callbacks env)).on_read = none ∧
              ∀ operation packet,
                (self.environment (Python.callbacks env)).on_complete operation packet = true := by
            rw [environment]
            split
            · exact ⟨rfl, rfl, fun _ _ => rfl⟩
            · exact ⟨rfl, rfl, fun _ _ => rfl⟩
          have hcases := Node.pollPacket_cases hs.accounted ndebug hfacts.1 hfacts.2.1 hfacts.2.2
            self.node.receiver.packet_parser_.packet_
          rw [Client.dispatch] at h
          · obtain ⟨⟨out', node⟩, hpoll, h⟩ := bind_eq_ok_iff.mp h
            cases h
            rw [hpoll] at hcases
            exact .pollPacket hs hcases
          · rintro ⟨⟩

/-- A shutdown that succeeds leaves no backend. -/
theorem hasBackend_shutdown {sockets : Sockets} (h : (self.shutdown sockets).1 = .ok ()) :
    (self.shutdown sockets).2.hasBackend = false := by
  rw [shutdown] at h ⊢
  split
  · rename_i hbackend
    rw [if_pos hbackend] at h
    dsimp only at h ⊢
    cases hended : TCPClient.shutdown self.fd_ sockets with
    | error e =>
        rw [hended] at h
        cases h
    | ok _ => rfl
  · rename_i hnone
    exact eq_false_of_ne_true hnone

end Client

end SpwRmap
