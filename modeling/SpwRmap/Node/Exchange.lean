import SpwRmap.Lib.Relational
import SpwRmap.Node.Commands

/-!
# Nodes with different receivers

Whatever a node does but receiving, it asks two things of its receiver: whether there is a
backend, and the buffer policy. So two nodes that differ in their receivers only, and agree on
these two, make every such call alike: the same results and faults, and nodes afterwards that
again differ in their receivers only.
-/

namespace SpwRmap

open Span Relational

/-- A receiver can stand in for another where nothing is received. -/
structure Receiver.StandsFor (r s : Receiver) : Prop where
  backend : s.tcp_backend_.isSome = r.tcp_backend_.isSome
  policy : s.buffer_policy_ = r.buffer_policy_

namespace Node

/-- The nodes differ in their receivers only, which are related by `R`. -/
def Mirrors (R : Receiver → Receiver → Prop) (self other : Node) : Prop :=
  ∃ receiver, R self.receiver receiver ∧ self.receiver.StandsFor receiver ∧
    other = { self with receiver }

variable {R : Receiver → Receiver → Prop} {self other : Node}

section Sending

variable (h : Mirrors R self other) (env : Environment)
include h

theorem Mirrors.isNone :
    other.receiver.tcp_backend_.isNone = self.receiver.tcp_backend_.isNone := by
  obtain ⟨receiver, -, hstands, rfl⟩ := h
  rw [← Option.not_isSome, ← Option.not_isSome, hstands.backend]

theorem Mirrors.value (operation : Nat) : other.value operation = self.value operation := by
  obtain ⟨receiver, -, -, rfl⟩ := h
  rfl

theorem sendAll_parallel (data : List UInt8) :
    Parallel (Mirrors R) (self.sendAll env data) (other.sendAll env data) := by
  have hnone := h.isNone
  obtain ⟨receiver, hr, hstands, rfl⟩ := h
  rw [sendAll, sendAll]
  cases hself : self.receiver.tcp_backend_ with
  | none =>
      have hother : receiver.tcp_backend_ = none := by simpa [hself] using hnone
      rw [hother]
      exact .error _
  | some backend =>
      have hother : receiver.tcp_backend_.isSome = true := by simp [hstands.backend, hself]
      obtain ⟨backend', hother⟩ := Option.isSome_iff_exists.mp hother
      rw [hother]
      dsimp only
      split
      · refine .ok ?_ _
        exact ⟨receiver, hr, hstands, rfl⟩
      · refine .ok ?_ _
        exact ⟨receiver, hr, hstands, rfl⟩

theorem send_parallel (total_size : Nat) :
    Parallel (Mirrors R) (self.send_ env total_size) (other.send_ env total_size) := by
  obtain ⟨receiver, hr, hstands, rfl⟩ := h
  rw [send_, send_]
  iterate 13 refine .after _ fun _ => ?_
  apply sendAll_parallel
  exact ⟨receiver, hr, hstands, rfl⟩

/-- The same room in both buffers, or the same refusal. -/
theorem ensureSendRoom_mirrors (size : Nat) :
    (∃ e, self.ensureSendRoom size = .error e ∧ other.ensureSendRoom size = .error e) ∨
      ∃ node node', self.ensureSendRoom size = .ok node ∧ other.ensureSendRoom size = .ok node' ∧
        Mirrors R node node' := by
  obtain ⟨receiver, hr, hstands, rfl⟩ := h
  rw [ensureSendRoom, ensureSendRoom, hstands.policy]
  by_cases hroom : size > self.send_buf_.length
  · by_cases hpolicy : self.receiver.buffer_policy_ = .Fixed
    · exact .inl ⟨_, by rw [if_pos hroom, if_pos hpolicy], by rw [if_pos hroom, if_pos hpolicy]⟩
    · refine .inr ⟨_, _, by rw [if_pos hroom, if_neg hpolicy], by rw [if_pos hroom, if_neg hpolicy],
        ?_⟩
      exact ⟨receiver, hr, hstands, rfl⟩
  · exact .inr ⟨_, _, by rw [if_neg hroom], by rw [if_neg hroom], receiver, hr, hstands, rfl⟩

theorem buildPacket_parallel (build : List UInt8 → Checked BuildResult) :
    Parallel (Mirrors R) (self.buildPacket build) (other.buildPacket build) := by
  obtain ⟨receiver, hr, hstands, rfl⟩ := h
  rw [buildPacket, buildPacket]
  refine .after _ fun out => .after _ fun result => ?_
  refine .ok ?_ _
  exact ⟨receiver, hr, hstands, rfl⟩

theorem Mirrors.readConfig (target_node : TargetNode) (transaction_id : UInt16)
    (memory_address data_length : UInt32) :
    other.readConfig target_node transaction_id memory_address data_length =
      self.readConfig target_node transaction_id memory_address data_length := by
  obtain ⟨receiver, -, -, rfl⟩ := h
  rfl

theorem Mirrors.writeConfig (target_node : TargetNode) (transaction_id : UInt16)
    (memory_address : UInt32) (data : List UInt8) :
    other.writeConfig target_node transaction_id memory_address data =
      self.writeConfig target_node transaction_id memory_address data := by
  obtain ⟨receiver, -, -, rfl⟩ := h
  rfl

theorem sendReadPacket_parallel (ndebug : Bool) (target_node : TargetNode)
    (transaction_id : UInt16) (memory_address data_length : UInt32) :
    Parallel (Mirrors R)
      (self.sendReadPacket_ ndebug env target_node transaction_id memory_address data_length)
      (other.sendReadPacket_ ndebug env target_node transaction_id memory_address data_length) := by
  rw [sendReadPacket_, sendReadPacket_, h.isNone]
  split
  · exact .ok h _
  dsimp only
  obtain ⟨e, hself, hother⟩ | ⟨node, node', hself, hother, hroom⟩ := ensureSendRoom_mirrors h
    (target_node.targetSpaceWireAddress.length + (target_node.replyAddress.length + 3) / 4 * 4 +
      4 + 12 + 1)
  · rw [hself, hother]
    exact .ok h _
  rw [hself, hother]
  dsimp only
  rw [hroom.readConfig]
  apply (buildPacket_parallel hroom _).bind
  intro res node node' hbuilt
  cases res with
  | error e => exact .ok hbuilt _
  | ok size =>
      dsimp only
      obtain ⟨e, hself, hother⟩ | ⟨node, node', hself, hother, hroom'⟩ :=
        ensureSendRoom_mirrors hbuilt (ReadPacketBuilder.getTotalSize _ + 12)
      · rw [hself, hother]
        exact .ok hbuilt _
      · rw [hself, hother]
        exact send_parallel hroom' env _

theorem sendWritePacket_parallel (ndebug : Bool) (target_node : TargetNode)
    (transaction_id : UInt16) (memory_address : UInt32) (data : List UInt8) :
    Parallel (Mirrors R)
      (self.sendWritePacket_ ndebug env target_node transaction_id memory_address data)
      (other.sendWritePacket_ ndebug env target_node transaction_id memory_address data) := by
  rw [sendWritePacket_, sendWritePacket_, h.isNone]
  split
  · exact .ok h _
  dsimp only
  obtain ⟨e, hself, hother⟩ | ⟨node, node', hself, hother, hroom⟩ := ensureSendRoom_mirrors h
    (target_node.targetSpaceWireAddress.length + (target_node.replyAddress.length + 3) / 4 * 4 +
      4 + 12 + 1 + data.length + 12)
  · rw [hself, hother]
    exact .ok h _
  rw [hself, hother]
  dsimp only
  rw [hroom.writeConfig]
  apply (buildPacket_parallel hroom _).bind
  intro res node node' hbuilt
  cases res with
  | error e => exact .ok hbuilt _
  | ok size => exact send_parallel hbuilt env _

/-- The commands of an initiator. -/
theorem sendCommand_parallel (ndebug : Bool) (target_node : TargetNode) (transaction_id : UInt16)
    (command : Command) :
    Parallel (Mirrors R) (self.sendCommand ndebug target_node transaction_id env command)
      (other.sendCommand ndebug target_node transaction_id env command) := by
  cases command with
  | read memory_address data_length => exact sendReadPacket_parallel h env ..
  | write memory_address data => exact sendWritePacket_parallel h env ..

/-- The replies of a target. -/
theorem sendReply_parallel (total_size : Nat) (build : List UInt8 → Checked BuildResult) :
    Parallel (Mirrors R) (self.sendReply env total_size build)
      (other.sendReply env total_size build) := by
  rw [sendReply, sendReply]
  obtain ⟨e, hself, hother⟩ | ⟨node, node', hself, hother, hroom⟩ :=
    ensureSendRoom_mirrors h (total_size + 12)
  · rw [hself, hother]
    exact .ok h _
  rw [hself, hother]
  apply (buildPacket_parallel hroom _).bind
  intro res node node' hbuilt
  cases res with
  | error e => exact .ok hbuilt _
  | ok size =>
      apply (send_parallel hbuilt env total_size).bind
      intro res node node' hsent
      cases res with
      | error e => exact .ok hsent _
      | ok _ => exact .ok hsent _

end Sending

section Transactions

variable (h : Mirrors R self other) (ndebug : Bool)
include h

theorem Mirrors.record (event : Event) : Mirrors R (self.record event) (other.record event) := by
  obtain ⟨receiver, hr, hstands, rfl⟩ := h
  exact ⟨receiver, hr, hstands, rfl⟩

theorem releaseTransactionID_mirrors (transaction_id : UInt16) :
    Agree (fun _ => True) (Mirrors R) (self.releaseTransactionID_ ndebug transaction_id)
      (other.releaseTransactionID_ ndebug transaction_id) := by
  obtain ⟨receiver, hr, hstands, rfl⟩ := h
  rw [releaseTransactionID_, releaseTransactionID_]
  dsimp only
  split
  · apply (Agree.of_eq rfl fun _ _ => trivial).bind
    rintro _ _ -
    exact .ok ⟨receiver, hr, hstands, rfl⟩
  · exact .ok ⟨receiver, hr, hstands, rfl⟩

theorem finish_mirrors (callback : Callback) :
    Agree (fun _ => True) (Mirrors R) (self.finish ndebug callback)
      (other.finish ndebug callback) := by
  apply (releaseTransactionID_mirrors h ndebug callback.transaction_id).bind
  rintro node _ ⟨receiver, hr, hstands, rfl⟩
  exact .ok ⟨receiver, hr, hstands, rfl⟩

theorem runErrorCallback_mirrors (callback : Callback) (ec : ErrorCode) :
    Agree (fun _ => True) (Mirrors R) (self.runErrorCallback ndebug callback ec)
      (other.runErrorCallback ndebug callback ec) :=
  finish_mirrors (h.record _) ndebug callback

theorem runReplyCallback_mirrors (env : Environment) (callback : Callback) (packet : Packet) :
    Agree (fun _ => True) (Mirrors R) (self.runReplyCallback ndebug env callback packet)
      (other.runReplyCallback ndebug env callback packet) := by
  rw [runReplyCallback, runReplyCallback]
  split
  · exact finish_mirrors ((h.record _).record _) ndebug callback
  · exact finish_mirrors ((h.record _).record _) ndebug callback

theorem forceReleaseTransaction_mirrors (index : Nat) :
    Agree (fun _ => True) (Mirrors R) (self.forceReleaseTransaction_ ndebug index)
      (other.forceReleaseTransaction_ ndebug index) := by
  obtain ⟨receiver, hr, hstands, rfl⟩ := h
  have hcleared : Mirrors R { self with table := self.table.clear index }
      { self with receiver, table := self.table.clear index } := ⟨receiver, hr, hstands, rfl⟩
  rw [forceReleaseTransaction_, forceReleaseTransaction_]
  dsimp only
  split
  · exact runErrorCallback_mirrors hcleared ndebug _ _
  · exact releaseTransactionID_mirrors hcleared ndebug _

/-- The search for an identifier, by induction on its rounds. -/
theorem allocateLoop_parallel (fuel : Nat) (now : Nat → Int) :
    Parallel (Mirrors R) (allocateLoop ndebug fuel self now)
      (allocateLoop ndebug fuel other now) := by
  induction fuel generalizing self other now with
  | zero => exact .error _
  | succ fuel ih =>
      have hmirrors := h
      obtain ⟨receiver, hr, hstands, rfl⟩ := h
      rw [allocateLoop, allocateLoop]
      dsimp only
      split
      · exact .ok ⟨receiver, hr, hstands, rfl⟩ _
      · exact .ok hmirrors _
      · apply (forceReleaseTransaction_mirrors hmirrors ndebug _).andThen
        intro node node' hnode
        exact ih hnode _

theorem startAsyncOperation_parallel (env : Environment)
    {sendPacket_ : Node → UInt16 → Checked (Except ErrorCode Unit × Node)}
    (hsend : ∀ self other transaction_id, Mirrors R self other →
      Parallel (Mirrors R) (sendPacket_ self transaction_id) (sendPacket_ other transaction_id)) :
    Parallel (Mirrors R) (self.startAsyncOperation_ ndebug env sendPacket_)
      (other.startAsyncOperation_ ndebug env sendPacket_) := by
  obtain ⟨receiver, hr, hstands, rfl⟩ := h
  have hnext : Mirrors R { self with operations := self.operations + 1 }
      { self with receiver, operations := self.operations + 1 } := ⟨receiver, hr, hstands, rfl⟩
  rw [startAsyncOperation_, startAsyncOperation_]
  apply (allocateLoop_parallel hnext ndebug 2 env.now).bind
  rintro res node _ ⟨receiver, hr, hstands, rfl⟩
  cases res with
  | error e => exact .ok ⟨receiver, hr, hstands, rfl⟩ _
  | ok transaction_id =>
      have hregistered (table : Table Callback) : Mirrors R { node with table }
          { node with receiver, table } := ⟨receiver, hr, hstands, rfl⟩
      dsimp only
      apply (hsend _ _ transaction_id (hregistered _)).bind
      intro res sender sender' hsent
      cases res with
      | ok _ => exact .ok hsent _
      | error e =>
          obtain ⟨receiver, hr, hstands, rfl⟩ := hsent
          have hcleared (table : Table Callback) (event : Event) :
              Mirrors R (record { sender with table } event)
                (record { sender with receiver, table } event) := ⟨receiver, hr, hstands, rfl⟩
          apply (releaseTransactionID_mirrors (hcleared _ _) ndebug transaction_id).andThen
          intro node node' hreleased
          exact .ok hreleased _

theorem start_parallel (target_node : TargetNode) (env : Environment) (command : Command) :
    Parallel (Mirrors R) (self.start ndebug target_node env command)
      (other.start ndebug target_node env command) := by
  rw [start_eq, start_eq]
  apply startAsyncOperation_parallel h
  intro self other transaction_id hmirrors
  exact sendCommand_parallel hmirrors env ndebug target_node transaction_id command

theorem cancelTransaction_mirrors (transaction_id : UInt16) :
    Agree (fun _ => True) (Mirrors R) (self.cancelTransaction_ ndebug transaction_id)
      (other.cancelTransaction_ ndebug transaction_id) := by
  obtain ⟨receiver, hr, hstands, rfl⟩ := h
  rw [cancelTransaction_, cancelTransaction_]
  dsimp only
  split
  · exact .ok ⟨receiver, hr, hstands, rfl⟩
  · apply releaseTransactionID_mirrors
    exact ⟨receiver, hr, hstands, rfl⟩

/-- The attempts of `read` and `write`, by induction on those that are left. -/
theorem attemptLoop_parallel (target_node : TargetNode) (command : Command) (attempts : Nat)
    (env : Nat → Environment) :
    Parallel (fun s t : List Nat × Node => s.1 = t.1 ∧ Mirrors R s.2 t.2)
      (attemptLoop ndebug target_node command attempts self env)
      (attemptLoop ndebug target_node command attempts other env) := by
  induction attempts generalizing self other env with
  | zero => exact .ok ⟨rfl, h⟩ _
  | succ attempts ih =>
      rw [attemptLoop, attemptLoop]
      apply (start_parallel h ndebug target_node (env 0) command).bind
      intro async_op node node' hstarted
      have hvalue := Mirrors.value hstarted async_op.future
      dsimp only at hvalue ⊢
      rw [hvalue]
      split
      · exact .ok ⟨rfl, hstarted⟩ _
      · split
        · apply (cancelTransaction_mirrors hstarted ndebug _).andThen
          intro node node' hcancelled
          apply (ih hcancelled _).bind
          rintro res s t ⟨hattempts, hrest⟩
          exact .ok ⟨congrArg (async_op.future :: ·) hattempts, hrest⟩ _
        · rw [ok_bind, ok_bind]
          apply (ih hstarted _).bind
          rintro res s t ⟨hattempts, hrest⟩
          exact .ok ⟨congrArg (async_op.future :: ·) hattempts, hrest⟩ _

end Transactions

section Calls

variable (h : Mirrors R self other) (ndebug : Bool)
include h

theorem pollReply_parallel (env : Environment) (packet : Packet) :
    Parallel (Mirrors R) (self.pollReply ndebug env packet)
      (other.pollReply ndebug env packet) := by
  have hmirrors := h
  obtain ⟨receiver, hr, hstands, rfl⟩ := h
  rw [pollReply, pollReply]
  dsimp only
  split
  · exact .ok hmirrors _
  · split
    · exact .ok hmirrors _
    · have hcleared (table : Table Callback) : Mirrors R { self with table }
          { self with receiver, table } := ⟨receiver, hr, hstands, rfl⟩
      apply (runReplyCallback_mirrors (hcleared _) ndebug env _ packet).andThen
      intro node node' hnode
      exact .ok hnode _

theorem pollRead_parallel (env : Environment) (packet : Packet) :
    Parallel (Mirrors R) (self.pollRead env packet) (other.pollRead env packet) := by
  rw [pollRead, pollRead]
  dsimp only
  split
  · exact sendReply_parallel h env _ _
  · split
    · exact .ok h _
    · exact sendReply_parallel (h.record _) env _ _

theorem pollWrite_parallel (env : Environment) (packet : Packet) :
    Parallel (Mirrors R) (self.pollWrite env packet) (other.pollWrite env packet) := by
  rw [pollWrite, pollWrite]
  dsimp only
  split
  · exact sendReply_parallel h env _ _
  · split
    · exact sendReply_parallel (h.record _) env _ _
    · exact .ok (h.record _) _

/-- The `switch` of `poll`, after the packet was received. -/
theorem pollPacket_parallel (env : Environment) (packet : Packet) :
    Parallel (Mirrors R) (self.pollPacket ndebug env packet)
      (other.pollPacket ndebug env packet) := by
  rw [pollPacket, pollPacket]
  cases packet.type with
  | ReadReply => exact pollReply_parallel h ndebug env packet
  | WriteReply => exact pollReply_parallel h ndebug env packet
  | Read => exact pollRead_parallel h env packet
  | Write => exact pollWrite_parallel h env packet
  | Undefined => exact .ok h _

theorem emitTimeCode_parallel (env : Environment) (timecode : UInt8) :
    Parallel (Mirrors R) (self.emitTimeCode env timecode) (other.emitTimeCode env timecode) := by
  rw [emitTimeCode, emitTimeCode, h.isNone]
  split
  · exact .ok h _
  · exact sendAll_parallel h env _

theorem async_parallel (target_node : TargetNode) (command : Command) (env : Environment) :
    Parallel (Mirrors R) (self.async ndebug target_node command env)
      (other.async ndebug target_node command env) := by
  apply (start_parallel h ndebug target_node env command).bind
  intro async_op node node' hstarted
  dsimp only
  rw [hstarted.value]
  exact .ok hstarted _

theorem sync_parallel (target_node : TargetNode) (command : Command) (retry_count : Nat)
    (env : Nat → Environment) :
    Parallel (Mirrors R) (self.sync ndebug target_node command retry_count env)
      (other.sync ndebug target_node command retry_count env) := by
  apply (attemptLoop_parallel h ndebug target_node command (attempts retry_count) env).bind
  rintro res s t ⟨-, hnode⟩
  exact .ok hnode _

/-- Every call that sends. -/
theorem sendCall_parallel (backend : Environment → Environment) (call : SendCall) :
    Parallel (Mirrors R) (self.sendCall ndebug backend call)
      (other.sendCall ndebug backend call) := by
  cases call with
  | read target_node memory_address size retry_count env => exact sync_parallel h ndebug ..
  | write target_node memory_address data retry_count env => exact sync_parallel h ndebug ..
  | readAsync target_node memory_address data_length env => exact async_parallel h ndebug ..
  | writeAsync target_node memory_address data env => exact async_parallel h ndebug ..
  | emitTimeCode timecode env =>
      apply (emitTimeCode_parallel h (backend env) timecode).bind
      intro res node node' hnode
      exact .ok hnode _

end Calls

end Node

end SpwRmap
