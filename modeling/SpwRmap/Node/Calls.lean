import SpwRmap.Node.Send
import SpwRmap.Packet.RoundTrip

/-!
# The calls of a connected node

One lemma for each call that an initiator and a target make on each other's behalf:
`readAsync` and `writeAsync`, `poll` on a command and `poll` on a reply. The node is
connected and grows its buffers, the socket takes all bytes, no transaction has
expired, and the next frame in the stream holds a packet that parses.
-/

namespace SpwRmap

open Span Stream

/-- The arguments of `readAsync` and `writeAsync` apart from the target node. -/
inductive Command where
  | read (memory_address data_length : UInt32)
  | write (memory_address : UInt32) (data : List UInt8)
  deriving DecidableEq, Repr

/-- The number of bytes that a command transfers. -/
def Command.dataLength : Command → Nat
  | .read _ data_length => data_length.toNat
  | .write _ data => data.length

/-- Addresses that survive the wire: path bytes below `0x20`, a logical address from
`0x20` on, and a reply address that the header has room for. -/
structure TargetNode.Addressable (target_node : TargetNode) : Prop where
  path : ∀ b ∈ target_node.targetSpaceWireAddress, b < 0x20
  path_length : target_node.targetSpaceWireAddress.length < 2 ^ 24
  logical : 0x20 ≤ target_node.targetLogicalAddress
  reply : ∀ b ∈ target_node.replyAddress, b < 0x20
  reply_length : target_node.replyAddress.length ≤ 12

/-- The callback of the target was given exactly what the initiator asked for. -/
def Executes : Command → Event → Prop
  | .read memory_address data_length, .onRead packet _ =>
      packet.type = .Read ∧ packet.extendedAddress = 0 ∧ packet.address = memory_address ∧
        packet.dataLength = data_length
  | .write memory_address data, .onWrite packet =>
      packet.type = .Write ∧ packet.extendedAddress = 0 ∧ packet.address = memory_address ∧
        packet.dataLength.toNat = data.length ∧ packet.data = data
  | _, _ => False

/-- The packet that `on_complete` was given reports what the target's callback did. -/
def Reports (packet : Packet) : Event → Prop
  | .onRead _ data => packet.type = .ReadReply ∧ packet.status = 0 ∧ packet.data = data
  | .onWrite _ => packet.type = .WriteReply ∧ packet.status = 0
  | _ => False

/-- The callbacks of a target are registered, return normally, and supply as many
bytes as are asked for. -/
structure Environment.Serves (env : Environment) : Prop where
  on_write : ∃ on_write, env.on_write = some on_write ∧ ∀ packet, on_write packet = true
  on_read : ∃ on_read, env.on_read = some on_read ∧
    ∀ packet, ∃ data, on_read packet = some data ∧ data.length = packet.dataLength.toNat

namespace Table

variable {table : Table Callback} {i j : Nat} {callback callback' : Callback} {now : Int}

/-- An identifier in use, with the callback its reply will find. -/
def Holds (table : Table Callback) (i : Nat) (callback : Callback) : Prop :=
  table.available_transaction_ids_ i = false ∧ table.reply_callback_ i = some callback

theorem Holds.ne_of_available (h : table.Holds i callback)
    (havailable : table.available_transaction_ids_ j = true) : i ≠ j := by
  rintro rfl
  exact Bool.false_ne_true (h.1.symm.trans havailable)

theorem Holds.acquire (h : table.Holds i callback) (hne : i ≠ j) :
    (table.acquire j now).Holds i callback :=
  ⟨(Function.update_of_ne hne _ _).trans h.1, h.2⟩

theorem Holds.release (h : table.Holds i callback) (hne : i ≠ j) :
    (table.release j).Holds i callback :=
  ⟨(Function.update_of_ne hne _ _).trans h.1, h.2⟩

theorem Holds.register (h : table.Holds i callback) (hne : i ≠ j) :
    (table.register j callback').Holds i callback :=
  ⟨h.1, (Function.update_of_ne hne _ _).trans h.2⟩

theorem Holds.clear (h : table.Holds i callback) (hne : i ≠ j) :
    (table.clear j).Holds i callback :=
  ⟨h.1, (Function.update_of_ne hne _ _).trans h.2⟩

theorem Holds.resetError (h : table.Holds i callback) : (table.resetError j).Holds i callback := h

/-- The slot of a new operation. -/
theorem holds_register : ((table.acquire i now).register i callback).Holds i callback :=
  ⟨Function.update_self .., Function.update_self ..⟩

end Table

namespace Node

variable {self : Node} {env : Environment}

/-- The bytes that are still to be received. -/
def incoming (self : Node) : List UInt8 :=
  match self.receiver.tcp_backend_ with
  | none => []
  | some backend => backend.incoming

section Start

variable (ndebug : Bool) (target_node : TargetNode) (transaction_id : UInt16)

/-- `sendReadPacket_` or `sendWritePacket_`. -/
def sendCommand (self : Node) (env : Environment) :
    Command → Checked (Except ErrorCode Unit × Node)
  | .read memory_address data_length =>
      self.sendReadPacket_ ndebug env target_node transaction_id memory_address data_length
  | .write memory_address data =>
      self.sendWritePacket_ ndebug env target_node transaction_id memory_address data

/-- `readAsync` or `writeAsync`. -/
def start (self : Node) (env : Environment) : Command → Checked (AsyncOperation × Node)
  | .read memory_address data_length =>
      self.startReadAsyncOperation_ ndebug env target_node memory_address data_length
  | .write memory_address data =>
      self.startWriteAsyncOperation_ ndebug env target_node memory_address data

/-- The packet of a command. -/
def commandPacket (self : Node) : Command → List UInt8
  | .read memory_address data_length => ReadPacketBuilder.wire
      (self.readConfig target_node transaction_id memory_address data_length)
  | .write memory_address data => WritePacketBuilder.wire
      (self.writeConfig target_node transaction_id memory_address data)

end Start

theorem start_eq (ndebug : Bool) (target_node : TargetNode) (command : Command) :
    self.start ndebug target_node env command =
      self.startAsyncOperation_ ndebug env fun self transaction_id =>
        self.sendCommand ndebug target_node transaction_id env command := by
  cases command with
  | read memory_address data_length => rfl
  | write memory_address data => rfl

/-- The command is sent, or, for a read that does not fit the buffer, refused. -/
theorem sendCommand_cases (ndebug : Bool) (hready : Ready self) (hsend : env.sendAll = .sent)
    {target_node : TargetNode} (htarget : target_node.Addressable)
    (transaction_id : UInt16) {command : Command} (hlength : command.dataLength < 2 ^ 24) :
    (∃ buf, self.sendCommand ndebug target_node transaction_id env command =
      .ok (.ok (), self.transmitted (self.commandPacket target_node transaction_id command) buf)) ∨
    (∃ e buf, self.sendCommand ndebug target_node transaction_id env command =
      .ok (.error e, self.withBuffer buf)) := by
  have hreply := htarget.reply_length
  have hpath := htarget.path_length
  have hmax := INT_MAX_eq
  cases command with
  | read memory_address data_length =>
      have hint : ReadPacketBuilder.getTotalSize (self.readConfig target_node transaction_id
          memory_address data_length) ≤ INT_MAX := by
        simp only [ReadPacketBuilder.getTotalSize, readConfig]
        omega
      by_cases hroom : ReadPacketBuilder.getTotalSize (self.readConfig target_node transaction_id
          memory_address data_length) + 12 ≤ self.send_buf_.length
      · exact .inl (sendReadPacket_eq ndebug hready hreply transaction_id memory_address hsend
          data_length hroom hint)
      · obtain ⟨buf, hshort, -⟩ := sendReadPacket_short ndebug hready transaction_id
          memory_address env data_length (Nat.lt_of_not_le hroom)
        exact .inr ⟨_, buf, hshort⟩
  | write memory_address data =>
      have hint : WritePacketBuilder.getTotalSize (self.writeConfig target_node transaction_id
          memory_address data) ≤ INT_MAX := by
        have hdata : data.length < 2 ^ 24 := hlength
        simp only [WritePacketBuilder.getTotalSize, writeConfig]
        omega
      exact .inl (sendWritePacket_eq ndebug hready hreply transaction_id memory_address hsend data
        hint)

/-- The packet depends on nothing that a call changes. -/
theorem commandPacket_congr {node : Node}
    (haddress : node.initiator_logical_address_ = self.initiator_logical_address_)
    (hverify : node.verify_mode_ = self.verify_mode_) (target_node : TargetNode)
    (transaction_id : UInt16) (command : Command) :
    node.commandPacket target_node transaction_id command =
      self.commandPacket target_node transaction_id command := by
  cases command with
  | read memory_address data_length => simp only [commandPacket, readConfig, haddress]
  | write memory_address data => simp only [commandPacket, writeConfig, haddress, hverify]

theorem releaseTransactionID_eq (ndebug : Bool) {transaction_id : UInt16} {i : Nat}
    (hindex : self.range.index transaction_id = some i) :
    self.releaseTransactionID_ ndebug transaction_id =
      .ok { self with table := self.table.release i } := by
  rw [releaseTransactionID_, hindex]

/-- The node after an operation was given an identifier and stored its callbacks. -/
def registered (self : Node) (i : Nat) (now : Int) : Node :=
  { self with
    operations := self.operations + 1
    table := (self.table.acquire i now).register i ⟨self.operations, self.range.identifier i⟩ }

/-- What a call of `readAsync` or `writeAsync` returns and leaves. -/
inductive Started (self : Node) (target_node : TargetNode) (command : Command) :
    AsyncOperation → Node → Prop where
  /-- Nothing was sent and the promise has its error. -/
  | refused (table : Table Callback) (buf : List UInt8) (e : ErrorCode)
      (hkeeps : ∀ i callback, self.table.Holds i callback → table.Holds i callback) :
      Started self target_node command ⟨self.operations, none⟩
        { self with
          operations := self.operations + 1
          table := table
          send_buf_ := buf
          events := self.events ++ [.setValue self.operations (.error e)] }
  /-- The command was sent under an identifier that was available. -/
  | issued (i : Nat) (now : Int) (buf : List UInt8) (hi : i < self.range.total)
      (havailable : self.table.available_transaction_ids_ i = true) :
      Started self target_node command ⟨self.operations, some (self.range.identifier i)⟩
        ((self.registered i now).transmitted
          (self.commandPacket target_node (self.range.identifier i) command) buf)

/-- No pending transaction has expired. -/
def Unexpired (self : Node) (env : Environment) : Prop :=
  ∀ i, self.table.scan self.range (env.now 0) self.transaction_timeout_ ≠ .expired i

theorem start_started (ndebug : Bool) (hready : Ready self) (hsend : env.sendAll = .sent)
    {target_node : TargetNode} (htarget : target_node.Addressable)
    (hunexpired : self.Unexpired env) {command : Command}
    (hlength : command.dataLength < 2 ^ 24) :
    ∃ operation node, self.start ndebug target_node env command = .ok (operation, node) ∧
      Started self target_node command operation node := by
  rw [start_eq, startAsyncOperation_, getAvailableTransactionID_, allocateLoop]
  simp only
  cases hscan : self.table.scan self.range (env.now 0) self.transaction_timeout_ with
  | expired i => exact absurd hscan (hunexpired i)
  | exhausted => exact ⟨_, _, rfl, .refused self.table self.send_buf_ _ fun _ _ h => h⟩
  | available i =>
      obtain ⟨hi, havailable⟩ := Table.scan_available hscan
      have hindex : (self.range.identifier i).toNat - self.range.transaction_id_min.toNat = i := by
        rw [self.range.identifier_toNat hi, Nat.add_sub_cancel_left]
      have hready' : Ready (self.registered i (env.now 0)) :=
        ⟨hready.connected, hready.autoResize⟩
      have hpacket : (self.registered i (env.now 0)).commandPacket target_node
          (self.range.identifier i) command =
            self.commandPacket target_node (self.range.identifier i) command :=
        commandPacket_congr rfl rfl target_node (self.range.identifier i) command
      simp only [ok_bind, hindex]
      rcases sendCommand_cases ndebug hready' hsend htarget (self.range.identifier i) hlength with
        ⟨buf, hsent⟩ | ⟨e, buf, hrefused⟩
      · rw [hpacket] at hsent
        exact ⟨_, _, congrArg (· >>= _) hsent, .issued i (env.now 0) buf hi havailable⟩
      · refine ⟨_, _, (congrArg (· >>= _) hrefused).trans ?_,
          .refused (((self.registered i (env.now 0)).table.clear i).release i) buf e ?_⟩
        · simp only [ok_bind]
          rw [releaseTransactionID_eq ndebug (i := i)]
          · rfl
          · exact self.range.index_identifier hi
        · intro j callback hholds
          have hne := hholds.ne_of_available havailable
          exact (((hholds.acquire hne).register hne).clear hne).release hne

end Node

/-- A packet in one frame is received by one round of the loop. -/
theorem Receiver.recvAndParseOnePacket_single (self : Receiver) (backend : Backend)
    (hpolicy : self.buffer_policy_ = .AutoResize) (hbackend : self.tcp_backend_ = some backend)
    {packet rest : List UInt8} (hne : packet ≠ []) (hlength : packet.length < 2 ^ 63)
    (hin : backend.incoming = (Frame.single packet).encode ++ rest) :
    ∃ calls, Delivers self packet { backend with incoming := rest, calls := calls }
      self.recvAndParseOnePacket_ := by
  have hbound : ([] : List UInt8).length + (Frame.single packet).payload.length ≤ max_size := by
    rw [List.length_nil, Nat.zero_add]
    exact Nat.le_sub_one_of_lt hlength
  obtain ⟨calls, buf, hloop, hstored⟩ := receiveLoop_last hbackend (Holds.whole self) rfl hne
    (Nat.lt_trans hlength (by decide)) (.inr ⟨hpolicy, hbound⟩) hin backend.incoming.length
  have hrest : backend.skip (Frame.single packet).encode.length calls =
      { backend with incoming := rest, calls := calls } := by
    rw [Source.skip, hin, List.drop_left]
  rw [hrest] at hloop
  refine ⟨calls, ?_⟩
  rw [recvAndParseOnePacket_, hbackend]
  refine (congrArg (Delivers self packet _) hloop).mpr ?_
  exact parseReceived_eq hne hstored

namespace Node

variable {self : Node} {env : Environment}

/-- `after` is `before` with a packet received and `rest` still in the stream. -/
structure Received (before after : Node) (rest : List UInt8) : Prop where
  others : after = { before with receiver := after.receiver }
  ready : Ready after
  incoming : after.incoming = rest

/-- `poll` receives a packet that parses and goes on to the `switch`. -/
theorem poll_eq (ndebug : Bool) (derived : Derived) (env : Environment) (hready : Ready self)
    {packet rest : List UInt8} {next : PacketParser} (hne : packet ≠ [])
    (hlength : packet.length < 2 ^ 63)
    (hin : self.incoming = (Frame.single packet).encode ++ rest)
    (hparse : self.receiver.packet_parser_.parse packet = .ok (.Success, next)) :
    ∃ node, Received self node rest ∧
      self.poll ndebug derived env = node.pollPacket ndebug env next.packet_ := by
  obtain ⟨backend, hbackend⟩ := Option.isSome_iff_exists.mp hready.connected
  rw [incoming, hbackend] at hin
  obtain ⟨calls, status, next', buf, hparse', hout⟩ :=
    self.receiver.recvAndParseOnePacket_single backend hready.autoResize hbackend hne hlength hin
  rw [hparse] at hparse'
  cases hparse'
  let receiver : Receiver :=
    { self.receiver with
      tcp_backend_ := some { backend with incoming := rest, calls := calls }
      recv_buf_ := buf
      packet_parser_ := next
      parsed := self.receiver.parsed ++ [packet] }
  refine ⟨{ self with receiver := receiver }, ⟨rfl, ⟨rfl, hready.autoResize⟩, rfl⟩, ?_⟩
  exact poll_received ndebug derived env (List.length_pos_iff.mpr hne).ne' hout

theorem pollRead_eq (hready : Ready self) (hsend : env.sendAll = .sent) (hserves : env.Serves)
    {packet : Packet} (hreply : packet.replyAddress.length ≤ 12)
    (hdataLength : packet.dataLength.toNat < 2 ^ 24) :
    ∃ data buf, data.length = packet.dataLength.toNat ∧
      self.pollRead env packet = .ok (.ok true,
        (self.record (.onRead packet data)).transmitted
          (ReadReplyPacketBuilder.wire (readReplyConfig packet data)) buf) := by
  obtain ⟨on_read, hcallback, hreturns⟩ := hserves.on_read
  obtain ⟨data, hdata, hlength⟩ := hreturns packet
  have hready' : Ready (self.record (.onRead packet data)) := ⟨hready.connected, hready.autoResize⟩
  have hlen := ReadReplyPacketBuilder.wire_length (readReplyConfig packet data)
  have hint : (ReadReplyPacketBuilder.wire (readReplyConfig packet data)).length ≤ INT_MAX := by
    have hmax := INT_MAX_eq
    rw [hlen]
    simp only [ReadReplyPacketBuilder.getTotalSize, readReplyConfig]
    omega
  obtain ⟨buf, hsent⟩ := sendReply_eq hready' hsend
    (ReadReplyPacketBuilder.builds (readReplyConfig packet data)) hint
  refine ⟨data, buf, hlength, ?_⟩
  rw [hlen] at hsent
  simp only [pollRead, hcallback, hdata]
  exact hsent

theorem pollWrite_eq (hready : Ready self) (hsend : env.sendAll = .sent) (hserves : env.Serves)
    {packet : Packet} (hreply : packet.replyAddress.length ≤ 12) :
    ∃ buf, self.pollWrite env packet = .ok (.ok true,
      (self.record (.onWrite packet)).transmitted
        (WriteReplyPacketBuilder.wire (writeReplyConfig packet)) buf) := by
  obtain ⟨on_write, hcallback, hreturns⟩ := hserves.on_write
  have hready' : Ready (self.record (.onWrite packet)) := ⟨hready.connected, hready.autoResize⟩
  have hlen := WriteReplyPacketBuilder.wire_length (writeReplyConfig packet)
  have hint : (WriteReplyPacketBuilder.wire (writeReplyConfig packet)).length ≤ INT_MAX := by
    have hmax := INT_MAX_eq
    rw [hlen]
    simp only [WriteReplyPacketBuilder.getTotalSize, writeReplyConfig]
    omega
  obtain ⟨buf, hsent⟩ := sendReply_eq hready' hsend
    (WriteReplyPacketBuilder.builds (writeReplyConfig packet)) hint
  refine ⟨buf, ?_⟩
  rw [hlen] at hsent
  simp only [pollWrite, hcallback, hreturns packet, if_true]
  exact hsent

/-- The last lines of a callback free its slot. -/
theorem finish_eq (ndebug : Bool) {callback : Callback} {i : Nat}
    (hindex : self.range.index callback.transaction_id = some i) :
    self.finish ndebug callback =
      .ok { self with table := (self.table.release i).resetError i } := by
  rw [finish, releaseTransactionID_eq ndebug hindex, ok_bind, pure_eq_ok,
    self.range.toNat_sub_of_index hindex]

/-- A reply whose slot holds a callback completes that operation and frees the slot. -/
theorem pollReply_eq (ndebug : Bool) (env : Environment) {packet : Packet} {i : Nat}
    {callback : Callback} (hindex : self.range.index packet.transactionID = some i)
    (hcallback : self.table.reply_callback_ i = some callback)
    (hid : self.range.index callback.transaction_id = some i) :
    ∃ value, self.pollReply ndebug env packet = .ok (.ok true,
      { self with
        table := ((self.table.clear i).release i).resetError i
        events := self.events ++ [.onComplete callback.operation packet] ++
          [.setValue callback.operation value] }) := by
  simp only [pollReply, hindex, hcallback, runReplyCallback]
  split
  · rw [finish_eq ndebug (i := i)]
    · exact ⟨_, rfl⟩
    · exact hid
  · rw [finish_eq ndebug (i := i)]
    · exact ⟨_, rfl⟩
    · exact hid

/-- The packet with which `poll` answers a command, by what it did for it. -/
def replyPacket : Event → List UInt8
  | .onRead packet data => ReadReplyPacketBuilder.wire (readReplyConfig packet data)
  | .onWrite packet => WriteReplyPacketBuilder.wire (writeReplyConfig packet)
  | _ => []

/-- A received command whose reply will be accepted. -/
structure Accepted (transaction_id : UInt16) (packet : Packet) : Prop where
  transactionID : packet.transactionID = transaction_id
  reply : ∀ b ∈ packet.replyAddress, b < 0x20
  reply_length : packet.replyAddress.length ≤ 12
  logical : 0x20 ≤ packet.targetLogicalAddress

/-- The same for what was done for the command. -/
def Answerable (transaction_id : UInt16) : Event → Prop
  | .onRead packet data => Accepted transaction_id packet ∧ data.length < 2 ^ 24
  | .onWrite packet => Accepted transaction_id packet
  | _ => False

theorem accepted_of_trimZeros {target_node : TargetNode} (htarget : target_node.Addressable)
    {transaction_id : UInt16} {packet : Packet} (hid : packet.transactionID = transaction_id)
    (hreply : packet.replyAddress = trimZeros target_node.replyAddress)
    (hlogical : packet.targetLogicalAddress = target_node.targetLogicalAddress) :
    Accepted transaction_id packet := by
  refine ⟨hid, ?_, ?_, ?_⟩
  · intro b hb
    rw [hreply] at hb
    exact htarget.reply b ((List.dropWhile_sublist _).subset hb)
  · rw [hreply]
    exact (List.dropWhile_sublist _).length_le.trans htarget.reply_length
  · rw [hlogical]
    exact htarget.logical

/-- A target after it has done `event` for a command. -/
structure Served (before after : Node) (rest : List UInt8) (event : Event) : Prop where
  ready : Ready after
  incoming : after.incoming = rest
  events : after.events = before.events ++ [event]
  sent : after.sent = before.sent ++ (Frame.single (replyPacket event)).encode

theorem Received.served {node : Node} {rest : List UInt8} (h : Received self node rest)
    (event : Event) (buf : List UInt8) :
    Served self ((node.record event).transmitted (replyPacket event) buf) rest event := by
  refine ⟨⟨h.ready.connected, h.ready.autoResize⟩, h.incoming, ?_, ?_⟩
  · change node.events ++ [event] = _
    rw [h.others]
  · change node.sent ++ _ = _
    rw [h.others]

/-- `poll` of the target on a command: the callback runs once, on the command's own
arguments, and one frame answers it. -/
theorem poll_command (ndebug : Bool) (derived : Derived) (hready : Ready self)
    (hsend : env.sendAll = .sent) (hserves : env.Serves) (initiator : Node)
    {target_node : TargetNode} (htarget : target_node.Addressable) (transaction_id : UInt16)
    {command : Command} (hlength : command.dataLength < 2 ^ 24) {rest : List UInt8}
    (hin : self.incoming = (Frame.single
      (initiator.commandPacket target_node transaction_id command)).encode ++ rest) :
    ∃ node event, self.poll ndebug derived env = .ok (.ok true, node) ∧
      Served self node rest event ∧ Executes command event ∧ Answerable transaction_id event := by
  have hpath := htarget.path_length
  have hreply := htarget.reply_length
  cases command with
  | read memory_address data_length =>
      let config := initiator.readConfig target_node transaction_id memory_address data_length
      obtain ⟨next, hparse, hcommand⟩ := ReadPacketBuilder.parse_wire config
        self.receiver.packet_parser_ htarget.path htarget.logical hreply hlength
      have hsize : (ReadPacketBuilder.wire config).length =
          target_node.targetSpaceWireAddress.length + 4 +
            (target_node.replyAddress.length + 3) / 4 * 4 + 12 :=
        ReadPacketBuilder.wire_length config hreply
      have hne : ReadPacketBuilder.wire config ≠ [] := List.ne_nil_of_length_pos (by omega)
      obtain ⟨received, hreceived, hpoll⟩ :=
        poll_eq ndebug derived env hready hne (by omega) hin hparse
      have haccepted := accepted_of_trimZeros htarget hcommand.transactionID hcommand.replyAddress
        hcommand.targetLogicalAddress
      have hdataLength : next.packet_.dataLength.toNat < 2 ^ 24 := by
        rw [hcommand.dataLength]
        exact hlength
      obtain ⟨data, buf, hdata, hanswer⟩ :=
        pollRead_eq hreceived.ready hsend hserves haccepted.reply_length hdataLength
      rw [pollPacket, hcommand.type] at hpoll
      refine ⟨_, .onRead next.packet_ data, hpoll.trans hanswer, hreceived.served _ buf, ?_, ?_⟩
      · exact ⟨hcommand.type, hcommand.extendedAddress, hcommand.address, hcommand.dataLength⟩
      · rw [hcommand.dataLength] at hdata
        exact ⟨haccepted, hdata.trans_lt hlength⟩
  | write memory_address data =>
      let config := initiator.writeConfig target_node transaction_id memory_address data
      obtain ⟨next, hparse, hcommand⟩ := WritePacketBuilder.parse_wire config
        self.receiver.packet_parser_ htarget.path htarget.logical hreply hlength
      have hsize : (WritePacketBuilder.wire config).length =
          target_node.targetSpaceWireAddress.length + 4 +
            (target_node.replyAddress.length + 3) / 4 * 4 + 12 + data.length + 1 :=
        WritePacketBuilder.wire_length config hreply
      have hdata : data.length < 2 ^ 24 := hlength
      have hne : WritePacketBuilder.wire config ≠ [] := List.ne_nil_of_length_pos (by omega)
      obtain ⟨received, hreceived, hpoll⟩ :=
        poll_eq ndebug derived env hready hne (by omega) hin hparse
      have haccepted := accepted_of_trimZeros htarget hcommand.transactionID hcommand.replyAddress
        hcommand.targetLogicalAddress
      obtain ⟨buf, hanswer⟩ := pollWrite_eq hreceived.ready hsend hserves haccepted.reply_length
      rw [pollPacket, hcommand.type] at hpoll
      refine ⟨_, .onWrite next.packet_, hpoll.trans hanswer, hreceived.served _ buf, ?_, haccepted⟩
      exact ⟨hcommand.type, hcommand.extendedAddress, hcommand.address, hcommand.dataLength,
        hcommand.data⟩

/-- An initiator after a reply has completed the operation in slot `i`. -/
structure Completed (before after : Node) (rest : List UInt8) (i operation : Nat)
    (packet : Packet) : Prop where
  others : ∃ value, after =
    { before with
      receiver := after.receiver
      table := ((before.table.clear i).release i).resetError i
      events := before.events ++ [.onComplete operation packet] ++ [.setValue operation value] }
  ready : Ready after
  incoming : after.incoming = rest

theorem Received.completed (ndebug : Bool) (env : Environment) {node : Node} {rest : List UInt8}
    (h : Received self node rest) {packet : Packet} {i operation : Nat}
    (hindex : self.range.index packet.transactionID = some i)
    (hcallback : self.table.reply_callback_ i = some ⟨operation, packet.transactionID⟩) :
    ∃ after, node.pollReply ndebug env packet = .ok (.ok true, after) ∧
      Completed self after rest i operation packet := by
  obtain ⟨receiver, rfl⟩ : ∃ receiver, node = { self with receiver := receiver } :=
    ⟨_, h.others⟩
  have hindex' : ({ self with receiver := receiver } : Node).range.index packet.transactionID =
      some i := hindex
  obtain ⟨value, hpoll⟩ := pollReply_eq ndebug env hindex' hcallback hindex'
  exact ⟨_, hpoll, ⟨⟨value, rfl⟩, ⟨h.ready.connected, h.ready.autoResize⟩, h.incoming⟩⟩

/-- `poll` of the initiator on a reply: it reaches the operation whose callback is in
the slot, and reports what the target did. -/
theorem poll_answer (ndebug : Bool) (derived : Derived) (env : Environment) (hready : Ready self)
    {transaction_id : UInt16} {event : Event} (hanswerable : Answerable transaction_id event)
    {i operation : Nat} (hindex : self.range.index transaction_id = some i)
    (hcallback : self.table.reply_callback_ i = some ⟨operation, transaction_id⟩)
    {rest : List UInt8} (hin : self.incoming = (Frame.single (replyPacket event)).encode ++ rest) :
    ∃ node packet, self.poll ndebug derived env = .ok (.ok true, node) ∧
      Completed self node rest i operation packet ∧ packet.transactionID = transaction_id ∧
      Reports packet event := by
  cases event with
  | onRead command data =>
      obtain ⟨haccepted, hdata⟩ := hanswerable
      let config := readReplyConfig command data
      obtain ⟨next, hparse, hreply⟩ := ReadReplyPacketBuilder.parse_wire config
        self.receiver.packet_parser_ haccepted.reply haccepted.logical hdata
      have hsize : (ReadReplyPacketBuilder.wire config).length =
          command.replyAddress.length + 12 + data.length + 1 :=
        ReadReplyPacketBuilder.wire_length config
      have hlength := haccepted.reply_length
      have hne : ReadReplyPacketBuilder.wire config ≠ [] := List.ne_nil_of_length_pos (by omega)
      obtain ⟨received, hreceived, hpoll⟩ :=
        poll_eq ndebug derived env hready hne (by omega) hin hparse
      have hid : next.packet_.transactionID = transaction_id :=
        hreply.transactionID.trans haccepted.transactionID
      rw [← hid] at hindex hcallback
      obtain ⟨after, hdispatch, hcompleted⟩ := hreceived.completed ndebug env hindex hcallback
      rw [pollPacket, hreply.type] at hpoll
      exact ⟨after, next.packet_, hpoll.trans hdispatch, hcompleted, hid, hreply.type,
        hreply.status, hreply.data⟩
  | onWrite command =>
      let config := writeReplyConfig command
      obtain ⟨next, hparse, hreply⟩ := WriteReplyPacketBuilder.parse_wire config
        self.receiver.packet_parser_ hanswerable.reply hanswerable.logical
      have hsize : (WriteReplyPacketBuilder.wire config).length =
          command.replyAddress.length + 8 :=
        WriteReplyPacketBuilder.wire_length config
      have hlength := hanswerable.reply_length
      have hne : WriteReplyPacketBuilder.wire config ≠ [] := List.ne_nil_of_length_pos (by omega)
      obtain ⟨received, hreceived, hpoll⟩ :=
        poll_eq ndebug derived env hready hne (by omega) hin hparse
      have hid : next.packet_.transactionID = transaction_id :=
        hreply.transactionID.trans hanswerable.transactionID
      rw [← hid] at hindex hcallback
      obtain ⟨after, hdispatch, hcompleted⟩ := hreceived.completed ndebug env hindex hcallback
      rw [pollPacket, hreply.type] at hpoll
      exact ⟨after, next.packet_, hpoll.trans hdispatch, hcompleted, hid, hreply.type,
        hreply.status⟩
  | onComplete operation packet => exact hanswerable.elim
  | setValue operation value => exact hanswerable.elim

end Node

end SpwRmap
