import SpwRmap.Node.Receive
import SpwRmap.Node.Table
import SpwRmap.Packet.Builder

/-!
# One node, one call at a time

The members of `SpwRmapTCPNodeImpl` and its calls as state transformers:
`send_`, `sendReadPacket_`, `sendWritePacket_`, the allocation of transaction
identifiers, `readAsync`, `writeAsync` and `poll`. A call runs to its end before
the next one starts, so locks play no part here.

What a call cannot decide by itself is its `Environment`: the readings of the
steady clock, the outcome of `sendAll` and the behaviour of the user's callbacks.
`shutdown` and `isShutdowned` are virtual and left to the derived class.

`sent`, `events` and `operations` are no members of the source. They record the
bytes handed to the socket, what the user's callbacks and the promises were given,
and how many operations were started; the number of an operation names its promise.
-/

namespace SpwRmap

open Span Bytes

/-- The getters of a `TargetNodeBase`. -/
structure TargetNode where
  targetSpaceWireAddress : List UInt8 := []
  replyAddress : List UInt8 := []
  targetLogicalAddress : UInt8
  deriving DecidableEq, Repr

/-- The captures shared by the two callbacks of an operation. -/
structure Callback where
  operation : Nat
  transaction_id : UInt16
  deriving DecidableEq, Repr

/-- `sendAll` succeeds, or fails after the socket has taken some of the bytes. -/
inductive SendOutcome where
  | sent
  | failed (error : ErrorCode) (accepted : Nat)
  deriving DecidableEq, Repr

/-- A call of `sendAll`: the span and how the call ended. -/
structure SendAllCall where
  data : List UInt8
  outcome : SendOutcome
  deriving DecidableEq, Repr

/-- The bytes that the socket has taken. -/
def SendAllCall.taken (call : SendAllCall) : List UInt8 :=
  match call.outcome with
  | .sent => call.data
  | .failed _ accepted => call.data.take accepted

structure Environment where
  /-- The reading of the clock in each round of `getAvailableTransactionID_`. -/
  now : Nat → Int := fun _ => 0
  sendAll : SendOutcome := .sent
  /-- Whether `on_complete` returns normally, by operation and packet. -/
  on_complete : Nat → Packet → Bool := fun _ _ => true
  /-- Whether `on_write_callback_` returns normally, if there is one. -/
  on_write : Option (Packet → Bool) := none
  /-- What `on_read_callback_` returns, if there is one; no value if it throws. -/
  on_read : Option (Packet → Option (List UInt8)) := none

inductive Event where
  | onWrite (packet : Packet)
  | onRead (packet : Packet) (data : List UInt8)
  | onComplete (operation : Nat) (packet : Packet)
  | setValue (operation : Nat) (value : Except ErrorCode Unit)

structure Node where
  receiver : Receiver
  send_buf_ : List UInt8
  table : Table Callback := {}
  range : TransactionRange := {}
  initiator_logical_address_ : UInt8 := 0xFE
  verify_mode_ : Bool := true
  /-- In milliseconds. -/
  transaction_timeout_ : Int := 1000
  /-- The calls of `sendAll`. -/
  handed : List SendAllCall := []
  /-- The bytes that the socket has taken and the other side has not been given yet. -/
  sent : List UInt8 := []
  events : List Event := []
  operations : Nat := 0

/-- The two virtual functions that `poll` calls. -/
structure Derived where
  isShutdowned : Node → Bool
  shutdown : Node → Except ErrorCode Unit × Node

/-- What `poll` uses of a class derived from the node: the node in an object, and the two
virtual functions. -/
structure Impl (σ : Type) where
  node : σ → Node
  withNode : σ → Node → σ
  isShutdowned : σ → Bool
  shutdown : σ → Except ErrorCode Unit × σ
  node_withNode : ∀ self polled, node (withNode self polled) = polled := by exact fun _ _ => rfl

/-- A node without more. -/
def Derived.impl (derived : Derived) : Impl Node where
  node := id
  withNode := fun _ node => node
  isShutdowned := derived.isShutdowned
  shutdown := derived.shutdown

structure AsyncOperation where
  /-- The operation whose promise the future belongs to. -/
  future : Nat
  transaction_id : Option UInt16
  deriving DecidableEq, Repr

namespace Node

def record (self : Node) (event : Event) : Node :=
  { self with events := self.events ++ [event] }

/-- `tcp_backend_->sendAll(data)`. -/
def sendAll (self : Node) (env : Environment) (data : List UInt8) :
    Checked (Except ErrorCode Unit × Node) :=
  match self.receiver.tcp_backend_ with
  | none => .error .nullPointer
  | some _ =>
      let self : Node := { self with handed := self.handed ++ [⟨data, env.sendAll⟩] }
      match env.sendAll with
      | .sent => .ok (.ok (), { self with sent := self.sent ++ data })
      | .failed e accepted => .ok (.error e, { self with sent := self.sent ++ data.take accepted })

def send_ (self : Node) (env : Environment) (total_size : Nat) :
    Checked (Except ErrorCode Unit × Node) := do
  let c := Cursor.start self.send_buf_
  let c ← c.put 0x00
  let c ← c.put 0x00
  let c ← c.put 0x00
  let c ← c.put 0x00
  let c ← c.put (byteAt total_size 7)
  let c ← c.put (byteAt total_size 6)
  let c ← c.put (byteAt total_size 5)
  let c ← c.put (byteAt total_size 4)
  let c ← c.put (byteAt total_size 3)
  let c ← c.put (byteAt total_size 2)
  let c ← c.put (byteAt total_size 1)
  let c ← c.put (byteAt total_size 0)
  let data ← subspan c.out 0 (total_size + 12)
  sendAll { self with send_buf_ := c.out } env data

/-- The check of a size against the send buffer. All send paths make it, each with
its own size. -/
def ensureSendRoom (self : Node) (size : Nat) : Except ErrorCode Node :=
  if size > self.send_buf_.length then
    if self.receiver.buffer_policy_ = .Fixed then
      .error (.errc .no_buffer_space)
    else
      .ok { self with send_buf_ := resize 0 self.send_buf_ size }
  else
    .ok self

/-- `build(config, send_buffer.subspan(12))`. -/
def buildPacket (self : Node) (build : List UInt8 → Checked BuildResult) :
    Checked (Except ErrorCode Nat × Node) := do
  let out ← dropFront self.send_buf_ 12
  let (res, out) ← build out
  return (res, { self with send_buf_ := self.send_buf_.take 12 ++ out })

/-- The configuration of a read command. -/
def readConfig (self : Node) (target_node : TargetNode) (transaction_id : UInt16)
    (memory_address data_length : UInt32) : ReadPacketConfig where
  targetSpaceWireAddress := target_node.targetSpaceWireAddress
  replyAddress := target_node.replyAddress
  targetLogicalAddress := target_node.targetLogicalAddress
  initiatorLogicalAddress := self.initiator_logical_address_
  transactionID := transaction_id
  extendedAddress := 0x00
  address := memory_address
  dataLength := data_length

/-- The configuration of a write command. -/
def writeConfig (self : Node) (target_node : TargetNode) (transaction_id : UInt16)
    (memory_address : UInt32) (data : List UInt8) : WritePacketConfig where
  targetSpaceWireAddress := target_node.targetSpaceWireAddress
  replyAddress := target_node.replyAddress
  targetLogicalAddress := target_node.targetLogicalAddress
  initiatorLogicalAddress := self.initiator_logical_address_
  transactionID := transaction_id
  extendedAddress := 0x00
  address := memory_address
  verifyMode := self.verify_mode_
  data := data

def sendReadPacket_ (ndebug : Bool) (self : Node) (env : Environment) (target_node : TargetNode)
    (transaction_id : UInt16) (memory_address data_length : UInt32) :
    Checked (Except ErrorCode Unit × Node) := do
  if self.receiver.tcp_backend_.isNone then
    return (.error (.errc .not_connected), self)
  -- The frame header is not part of this first estimate.
  let expected_length := target_node.targetSpaceWireAddress.length +
    (target_node.replyAddress.length + 3) / 4 * 4 + 4 + 12 + 1
  match self.ensureSendRoom expected_length with
  | .error e => return (.error e, self)
  | .ok self =>
      let config := self.readConfig target_node transaction_id memory_address data_length
      let (res, self) ← self.buildPacket (ReadPacketBuilder.build ndebug config)
      match res with
      | .error e => return (.error e, self)
      | .ok _ =>
          match self.ensureSendRoom (ReadPacketBuilder.getTotalSize config + 12) with
          | .error e => return (.error e, self)
          | .ok self => self.send_ env (ReadPacketBuilder.getTotalSize config)

def sendWritePacket_ (ndebug : Bool) (self : Node) (env : Environment) (target_node : TargetNode)
    (transaction_id : UInt16) (memory_address : UInt32) (data : List UInt8) :
    Checked (Except ErrorCode Unit × Node) := do
  if self.receiver.tcp_backend_.isNone then
    return (.error (.errc .not_connected), self)
  let expected_length := target_node.targetSpaceWireAddress.length +
    (target_node.replyAddress.length + 3) / 4 * 4 + 4 + 12 + 1 + data.length
  match self.ensureSendRoom (expected_length + 12) with
  | .error e => return (.error e, self)
  | .ok self =>
      let config := self.writeConfig target_node transaction_id memory_address data
      let (res, self) ← self.buildPacket (WritePacketBuilder.build ndebug config)
      match res with
      | .error e => return (.error e, self)
      | .ok _ => self.send_ env (WritePacketBuilder.getTotalSize config)

def releaseTransactionID_ (ndebug : Bool) (self : Node) (transaction_id : UInt16) :
    Checked Node :=
  match self.range.index transaction_id with
  | none => do
      check ndebug False
      return self
  | some index => .ok { self with table := self.table.release index }

/-- The last two lines of every callback. -/
def finish (ndebug : Bool) (self : Node) (callback : Callback) : Checked Node := do
  let self ← self.releaseTransactionID_ ndebug callback.transaction_id
  return { self with
    table := self.table.resetError
      (callback.transaction_id.toNat - self.range.transaction_id_min.toNat) }

/-- The callback stored in `reply_error_callback_`. -/
def runErrorCallback (ndebug : Bool) (self : Node) (callback : Callback) (ec : ErrorCode) :
    Checked Node :=
  (self.record (.setValue callback.operation (.error ec))).finish ndebug callback

/-- The callback stored in `reply_callback_`. -/
def runReplyCallback (ndebug : Bool) (self : Node) (env : Environment) (callback : Callback)
    (packet : Packet) : Checked Node :=
  let self := self.record (.onComplete callback.operation packet)
  if env.on_complete callback.operation packet then
    (self.record (.setValue callback.operation (.ok ()))).finish ndebug callback
  else
    (self.record (.setValue callback.operation (.error (.errc .operation_canceled)))).finish
      ndebug callback

def forceReleaseTransaction_ (ndebug : Bool) (self : Node) (index : Nat) : Checked Node :=
  let error_handler := self.table.reply_error_callback_ index
  let self := { self with table := self.table.clear index }
  match error_handler with
  | some callback => self.runErrorCallback ndebug callback (.errc .timed_out)
  | none => self.releaseTransactionID_ ndebug (self.range.identifier index)

/-- The loop of `getAvailableTransactionID_`. A forced release makes its identifier
available, so two rounds are enough. -/
def allocateLoop (ndebug : Bool) : Nat → Node → (Nat → Int) →
    Checked (Except ErrorCode UInt16 × Node)
  | 0, _, _ => .error .outOfFuel
  | fuel + 1, self, now =>
      match self.table.scan self.range (now 0) self.transaction_timeout_ with
      | .available index =>
          .ok (.ok (self.range.identifier index),
            { self with table := self.table.acquire index (now 0) })
      | .exhausted => .ok (.error (.errc .resource_unavailable_try_again), self)
      | .expired index => do
          let self ← self.forceReleaseTransaction_ ndebug index
          allocateLoop ndebug fuel self fun round => now (round + 1)

def getAvailableTransactionID_ (ndebug : Bool) (self : Node) (env : Environment) :
    Checked (Except ErrorCode UInt16 × Node) :=
  allocateLoop ndebug 2 self env.now

/-- `startWriteAsyncOperation_` and `startReadAsyncOperation_`, which differ in the
packet they send. -/
def startAsyncOperation_ (ndebug : Bool) (self : Node) (env : Environment)
    (sendPacket_ : Node → UInt16 → Checked (Except ErrorCode Unit × Node)) :
    Checked (AsyncOperation × Node) := do
  let operation := self.operations
  let self := { self with operations := operation + 1 }
  let (transaction_id_res, self) ← self.getAvailableTransactionID_ ndebug env
  match transaction_id_res with
  | .error e => return (⟨operation, none⟩, self.record (.setValue operation (.error e)))
  | .ok transaction_id =>
      let tx_index := transaction_id.toNat - self.range.transaction_id_min.toNat
      let callback := ⟨operation, transaction_id⟩
      let self := { self with table := self.table.register tx_index callback }
      let (res, self) ← sendPacket_ self transaction_id
      match res with
      | .ok _ => return (⟨operation, some transaction_id⟩, self)
      | .error e =>
          let self := { self with table := self.table.clear tx_index }
          let self := self.record (.setValue operation (.error e))
          let self ← self.releaseTransactionID_ ndebug transaction_id
          return (⟨operation, none⟩, self)

def startWriteAsyncOperation_ (ndebug : Bool) (self : Node) (env : Environment)
    (target_node : TargetNode) (memory_address : UInt32) (data : List UInt8) :
    Checked (AsyncOperation × Node) :=
  self.startAsyncOperation_ ndebug env fun self transaction_id =>
    self.sendWritePacket_ ndebug env target_node transaction_id memory_address data

def startReadAsyncOperation_ (ndebug : Bool) (self : Node) (env : Environment)
    (target_node : TargetNode) (memory_address data_length : UInt32) :
    Checked (AsyncOperation × Node) :=
  self.startAsyncOperation_ ndebug env fun self transaction_id =>
    self.sendReadPacket_ ndebug env target_node transaction_id memory_address data_length

/-- The `ReadReply` and `WriteReply` cases of `poll`. -/
def pollReply (ndebug : Bool) (self : Node) (env : Environment) (packet : Packet) :
    Checked (Except ErrorCode Bool × Node) :=
  match self.range.index packet.transactionID with
  | none => .ok (.error (.errc .bad_message), self)
  | some idx =>
      match self.table.reply_callback_ idx with
      | none => .ok (.ok true, self)
      | some callback => do
          let self := { self with table := self.table.clear idx }
          let self ← self.runReplyCallback ndebug env callback packet
          return (.ok true, self)

/-- The reply to a read command. -/
def readReplyConfig (packet : Packet) (data : List UInt8) : ReadReplyPacketConfig where
  replyAddress := packet.replyAddress
  initiatorLogicalAddress := packet.targetLogicalAddress
  status := PacketStatusCode.CommandExecutedSuccessfully
  targetLogicalAddress := packet.initiatorLogicalAddress
  transactionID := packet.transactionID
  data := data
  incrementMode := true

/-- The reply to a write command. -/
def writeReplyConfig (packet : Packet) : WriteReplyPacketConfig where
  replyAddress := packet.replyAddress
  initiatorLogicalAddress := packet.targetLogicalAddress
  status := PacketStatusCode.CommandExecutedSuccessfully
  targetLogicalAddress := packet.initiatorLogicalAddress
  transactionID := packet.transactionID
  incrementMode := true
  verifyMode := true

/-- The lines of `poll` that build and send a reply, the same for both builders. -/
def sendReply (self : Node) (env : Environment) (total_size : Nat)
    (build : List UInt8 → Checked BuildResult) : Checked (Except ErrorCode Bool × Node) :=
  match self.ensureSendRoom (total_size + 12) with
  | .error e => .ok (.error e, self)
  | .ok self => do
      let (build_res, self) ← self.buildPacket build
      match build_res with
      | .error e => return (.error e, self)
      | .ok _ =>
          let (send_res, self) ← self.send_ env total_size
          match send_res with
          | .error e => return (.error e, self)
          | .ok _ => return (.ok true, self)

/-- The `Read` case of `poll`. Data of another length than asked for is sent as well. -/
def pollRead (self : Node) (env : Environment) (packet : Packet) :
    Checked (Except ErrorCode Bool × Node) :=
  let answer (self : Node) (data : List UInt8) :=
    self.sendReply env (ReadReplyPacketBuilder.getTotalSize (readReplyConfig packet data))
      (ReadReplyPacketBuilder.build (readReplyConfig packet data))
  match env.on_read with
  | none => answer self []
  | some on_read =>
      match on_read packet with
      | none => .ok (.error (.errc .operation_canceled), self)
      | some data => answer (self.record (.onRead packet data)) data

/-- The `Write` case of `poll`. The reply is sent whatever the instruction asks for. -/
def pollWrite (self : Node) (env : Environment) (packet : Packet) :
    Checked (Except ErrorCode Bool × Node) :=
  let answer (self : Node) :=
    self.sendReply env (WriteReplyPacketBuilder.getTotalSize (writeReplyConfig packet))
      (WriteReplyPacketBuilder.build (writeReplyConfig packet))
  match env.on_write with
  | none => answer self
  | some on_write =>
      if on_write packet then
        answer (self.record (.onWrite packet))
      else
        .ok (.error (.errc .operation_canceled), self.record (.onWrite packet))

/-- The `switch` of `poll`. -/
def pollPacket (ndebug : Bool) (self : Node) (env : Environment) (packet : Packet) :
    Checked (Except ErrorCode Bool × Node) :=
  match packet.type with
  | .ReadReply => self.pollReply ndebug env packet
  | .WriteReply => self.pollReply ndebug env packet
  | .Read => self.pollRead env packet
  | .Write => self.pollWrite env packet
  | .Undefined => .ok (.ok true, self)

end Node

def Impl.poll {σ : Type} (impl : Impl σ) (ndebug : Bool) (self : σ) (env : Environment) :
    Checked (Except ErrorCode Bool × σ) := do
  let (res, receiver) ← (impl.node self).receiver.recvAndParseOnePacket_
  let self := impl.withNode self { impl.node self with receiver }
  match res with
  | .error e =>
      if impl.isShutdowned self then
        return (.ok false, self)
      else
        return (.error e, self)
  | .ok 0 =>
      match impl.shutdown self with
      | (.error e, self) => return (.error e, self)
      | (.ok _, self) => return (.ok false, self)
  | .ok _ => do
      let (res, node) ← (impl.node self).pollPacket ndebug env
        (impl.node self).receiver.packet_parser_.packet_
      return (res, impl.withNode self node)

namespace Node

def poll (ndebug : Bool) (derived : Derived) (self : Node) (env : Environment) :
    Checked (Except ErrorCode Bool × Node) :=
  derived.impl.poll ndebug self env

/-- A packet was received and parsed. -/
theorem poll_received (ndebug : Bool) (derived : Derived) {self : Node} (env : Environment)
    {size : Nat} {receiver : Receiver} (hne : size ≠ 0)
    (hreceive : self.receiver.recvAndParseOnePacket_ = .ok (.ok size, receiver)) :
    self.poll ndebug derived env =
      pollPacket ndebug { self with receiver } env receiver.packet_parser_.packet_ := by
  have hpacket : ∀ out : Checked (Except ErrorCode Bool × Node),
      (out >>= fun r => .ok (r.1, r.2)) = out := by
    rintro (fault | r)
    · rfl
    · rfl
  cases size with
  | zero => exact absurd rfl hne
  | succ size =>
      rw [poll, Impl.poll]
      dsimp only [Derived.impl, id]
      rw [hreceive]
      exact hpacket _

end Node

end SpwRmap
