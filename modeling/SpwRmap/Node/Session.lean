import SpwRmap.Lib.Transition
import SpwRmap.Node.Calls

/-!
# Sessions: calls one after another

The calls of a node that are built on `startReadAsyncOperation_`,
`startWriteAsyncOperation_` and `poll`: the synchronous `read` and `write` with their
attempts, `setTimeout` and `emitTimeCode`, and the constructor they all start from. A
session is a sequence of such calls, each of them run to its end before the next.

An attempt waits on its future. Nothing else runs meanwhile, so a future that is not
ready when the wait begins is not ready when it ends, however long the timeout.

`shutdown` and `isShutdowned` are those of the two derived classes. Which bytes the
socket delivers, what its `shutdown` returns and whether the node counts as shut down
are given anew with every `poll`.
-/

namespace SpwRmap

open Span

/-- The members of the configuration that the node itself uses. -/
structure SpwRmapTCPNodeConfig where
  send_buffer_size : Nat := 4096
  recv_buffer_size : Nat := 4096
  range : TransactionRange := {}
  buffer_policy : BufferPolicy := .AutoResize
  /-- In microseconds. -/
  send_timeout : Int := 500000

/-- `SpwRmapTCPClient` and `SpwRmapTCPServer`. -/
inductive Role where
  | client
  | server
  deriving DecidableEq, Repr

/-- The value of a promise of `operation` if the event sets it. -/
def Event.valueOf (operation : Nat) : Event → Option (Except ErrorCode Unit)
  | .setValue o value => if o = operation then some value else none
  | _ => none

namespace Node

/-- The constructor. The backend exists, connected or not. -/
def ofConfig (config : SpwRmapTCPNodeConfig) (backend : Backend) : Node where
  receiver :=
    { tcp_backend_ := some backend
      recv_buf_ := List.replicate config.recv_buffer_size 0
      buffer_policy_ := config.buffer_policy }
  send_buf_ := List.replicate config.send_buffer_size 0
  range := config.range

/-- What the future of an operation holds, if it is ready. -/
def value (self : Node) (operation : Nat) : Option (Except ErrorCode Unit) :=
  self.events.findSome? (Event.valueOf operation)

def cancelTransaction_ (ndebug : Bool) (self : Node) (transaction_id : UInt16) : Checked Node :=
  match self.range.index transaction_id with
  | none => .ok self
  | some idx =>
      releaseTransactionID_ ndebug { self with table := self.table.clear idx } transaction_id

/-- The loop of `read` and `write` over what is left of the attempts, each with an
environment of its own. The attempts that timed out are listed beside the result. -/
def attemptLoop (ndebug : Bool) (target_node : TargetNode) (command : Command) :
    Nat → Node → (Nat → Environment) → Checked (Except ErrorCode Unit × List Nat × Node)
  | 0, self, _ => .ok (.error (.errc .timed_out), [], self)
  | attempts + 1, self, env => do
      let (async_op, self) ← self.start ndebug target_node (env 0) command
      match self.value async_op.future with
      | some res => return (res, [], self)
      | none =>
          let self ← match async_op.transaction_id with
            | some transaction_id => self.cancelTransaction_ ndebug transaction_id
            | none => .ok self
          let (res, cancelled, self) ← attemptLoop ndebug target_node command attempts self
            fun attempt => env (attempt + 1)
          return (res, async_op.future :: cancelled, self)

/-- `retry_count == 0 ? 1 : retry_count`. -/
def attempts (retry_count : Nat) : Nat := if retry_count = 0 then 1 else retry_count

def write (ndebug : Bool) (self : Node) (env : Nat → Environment) (target_node : TargetNode)
    (memory_address : UInt32) (data : List UInt8) (retry_count : Nat) :
    Checked (Except ErrorCode Unit × List Nat × Node) :=
  attemptLoop ndebug target_node (.write memory_address data) (attempts retry_count) self env

/-- The size of the span is narrowed to the type of a data length. -/
def read (ndebug : Bool) (self : Node) (env : Nat → Environment) (target_node : TargetNode)
    (memory_address : UInt32) (size retry_count : Nat) :
    Checked (Except ErrorCode Unit × List Nat × Node) :=
  attemptLoop ndebug target_node (.read memory_address (UInt32.ofNat size)) (attempts retry_count)
    self env

def setTimeout (self : Node) (timeout : Int) : Node := { self with transaction_timeout_ := timeout }

/-- The array that `emitTimeCode` fills. -/
def timeCodePacket (timecode : UInt8) : List UInt8 :=
  [0x30, 0x00] ++ List.replicate 9 0x00 ++ [0x02, timecode, 0x00]

/-- The frame of a time code, as the receiver takes it. -/
def timeCodeFrame (timecode : UInt8) : Frame where
  type := 0x30
  payload := [timecode, 0x00]

theorem timeCodePacket_eq (timecode : UInt8) :
    timeCodePacket timecode = (timeCodeFrame timecode).encode := by
  have hlength : Bytes.toBigEndian 8 2 = [0, 0, 0, 0, 0, 0, 0, 2] := by decide
  simp [timeCodePacket, timeCodeFrame, Frame.encode, Frame.header, hlength, List.replicate]

def emitTimeCode (self : Node) (env : Environment) (timecode : UInt8) :
    Checked (Except ErrorCode Unit × Node) :=
  if self.receiver.tcp_backend_.isNone then
    .ok (.error (.errc .not_connected), self)
  else
    self.sendAll env (timeCodePacket timecode)

/-- The socket delivers `source` from now on. -/
def receiving (self : Node) (source : Backend) : Node :=
  { self with
    receiver := { self.receiver with
      tcp_backend_ := self.receiver.tcp_backend_.map fun _ => source } }

/-- `getBackend_() = nullptr`. -/
def dropBackend (self : Node) : Node :=
  { self with receiver := { self.receiver with tcp_backend_ := none } }

end Node

/-- The two virtual functions in the derived classes, with what the backend's own
`shutdown` returns. Only the client drops its backend. -/
def Role.derived (role : Role) (shutdowned_ : Bool) (res : Except ErrorCode Unit) : Derived where
  isShutdowned _ := shutdowned_
  shutdown self :=
    if self.receiver.tcp_backend_.isNone then
      (.ok (), self)
    else
      match res, role with
      | .error e, _ => (.error e, self)
      | .ok _, .client => (.ok (), self.dropBackend)
      | .ok _, .server => (.ok (), self)

/-- One call with its arguments and everything its environment decides. -/
inductive Call where
  | writeAsync (target_node : TargetNode) (memory_address : UInt32) (data : List UInt8)
      (env : Environment)
  | readAsync (target_node : TargetNode) (memory_address data_length : UInt32) (env : Environment)
  | write (target_node : TargetNode) (memory_address : UInt32) (data : List UInt8)
      (retry_count : Nat) (env : Nat → Environment)
  | read (target_node : TargetNode) (memory_address : UInt32) (size retry_count : Nat)
      (env : Nat → Environment)
  | setTimeout (timeout : Int)
  | poll (source : Backend) (shutdown : Except ErrorCode Unit) (shutdowned_ : Bool)
      (env : Environment)

/-- A node and the attempts of `read` and `write` that it has cancelled so far. -/
structure Session where
  node : Node
  cancelled : List Nat := []

namespace Session

/-- A new operation of its own. -/
def async (self : Session) (ndebug : Bool) (target_node : TargetNode) (command : Command)
    (env : Environment) : Checked Session := do
  let (_, node) ← self.node.start ndebug target_node env command
  return { self with node }

def call (ndebug : Bool) (role : Role) (self : Session) : Call → Checked Session
  | .writeAsync target_node memory_address data env =>
      self.async ndebug target_node (.write memory_address data) env
  | .readAsync target_node memory_address data_length env =>
      self.async ndebug target_node (.read memory_address data_length) env
  | .write target_node memory_address data retry_count env => do
      let (_, cancelled, node) ←
        self.node.write ndebug env target_node memory_address data retry_count
      return { node, cancelled := self.cancelled ++ cancelled }
  | .read target_node memory_address size retry_count env => do
      let (_, cancelled, node) ←
        self.node.read ndebug env target_node memory_address size retry_count
      return { node, cancelled := self.cancelled ++ cancelled }
  | .setTimeout timeout => .ok { self with node := self.node.setTimeout timeout }
  | .poll source shutdown shutdowned_ env => do
      let (_, node) ← (self.node.receiving source).poll ndebug
        (role.derived shutdowned_ shutdown) env
      return { self with node }

/-- A call that faults has no state after it. -/
def step (ndebug : Bool) (role : Role) (self : Session) (call : Call) : Option Session :=
  (self.call ndebug role call).toOption

end Session

end SpwRmap
