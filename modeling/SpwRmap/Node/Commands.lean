import SpwRmap.Node.Client

/-!
# The calls that send

`read`, `write`, `readAsync`, `writeAsync` and `emitTimeCode` are the same for a client and a
server, up to what `sendAll` does without a descriptor. They use the node alone: its table and
its send buffer change, what it receives does not.
-/

namespace SpwRmap

open Span Outcome

/-- One call with its arguments and everything its environment decides. -/
inductive SendCall where
  | read (target_node : TargetNode) (memory_address : UInt32) (size retry_count : Nat)
      (env : Nat → Environment)
  | write (target_node : TargetNode) (memory_address : UInt32) (data : List UInt8)
      (retry_count : Nat) (env : Nat → Environment)
  | readAsync (target_node : TargetNode) (memory_address data_length : UInt32) (env : Environment)
  | writeAsync (target_node : TargetNode) (memory_address : UInt32) (data : List UInt8)
      (env : Environment)
  | emitTimeCode (timecode : UInt8) (env : Environment)

/-- The same call of a client. -/
def SendCall.client : SendCall → ClientCall
  | .read target_node memory_address size retry_count env =>
      .read target_node memory_address size retry_count env
  | .write target_node memory_address data retry_count env =>
      .write target_node memory_address data retry_count env
  | .readAsync target_node memory_address data_length env =>
      .readAsync target_node memory_address data_length env
  | .writeAsync target_node memory_address data env =>
      .writeAsync target_node memory_address data env
  | .emitTimeCode timecode env => .emitTimeCode timecode env

namespace Node

variable {self : Node} {cancelled : List Nat}

/-- `readAsync` and `writeAsync`. -/
def async (ndebug : Bool) (self : Node) (target_node : TargetNode) (command : Command)
    (env : Environment) : Checked (Answer × Node) := do
  let (async_op, self) ← self.start ndebug target_node env command
  return (.future (self.value async_op.future), self)

/-- `read` and `write`. -/
def sync (ndebug : Bool) (self : Node) (target_node : TargetNode) (command : Command)
    (retry_count : Nat) (env : Nat → Environment) : Checked (Answer × Node) := do
  let (res, _, self) ← attemptLoop ndebug target_node command (attempts retry_count) self env
  return (.status res, self)

/-- `backend` is what the backend makes of an environment. -/
def sendCall (ndebug : Bool) (self : Node) (backend : Environment → Environment) :
    SendCall → Checked (Answer × Node)
  | .read target_node memory_address size retry_count env =>
      self.sync ndebug target_node (.read memory_address (UInt32.ofNat size)) retry_count
        fun attempt => backend (env attempt)
  | .write target_node memory_address data retry_count env =>
      self.sync ndebug target_node (.write memory_address data) retry_count
        fun attempt => backend (env attempt)
  | .readAsync target_node memory_address data_length env =>
      self.async ndebug target_node (.read memory_address data_length) (backend env)
  | .writeAsync target_node memory_address data env =>
      self.async ndebug target_node (.write memory_address data) (backend env)
  | .emitTimeCode timecode env => do
      let (res, self) ← self.emitTimeCode (backend env) timecode
      return (.status res, self)

theorem async_accounted (h : self.Accounted cancelled) (ndebug : Bool) (target_node : TargetNode)
    (command : Command) (env : Environment) :
    Yields Fault.OfData
      (fun r => (∃ cancelled, r.2.Accounted cancelled) ∧ r.2.receiver = self.receiver)
      (self.async ndebug target_node command env) := by
  apply (start_accounted h ndebug env target_node command).bind
  rintro ⟨async_op, node⟩ ⟨hnode, hsame, -⟩
  exact ⟨⟨_, hnode⟩, hsame⟩

theorem sync_accounted (h : self.Accounted cancelled) (ndebug : Bool) (target_node : TargetNode)
    (command : Command) (retry_count : Nat) (env : Nat → Environment) :
    Yields Fault.OfData
      (fun r => (∃ cancelled, r.2.Accounted cancelled) ∧ r.2.receiver = self.receiver)
      (self.sync ndebug target_node command retry_count env) := by
  apply (attemptLoop_accounted ndebug target_node command _ h env).bind
  rintro ⟨res, attempts, node⟩ ⟨hnode, hsame⟩
  exact ⟨⟨_, hnode⟩, hsame⟩

theorem emitTimeCode_accounted (h : self.Accounted cancelled) (env : Environment)
    (timecode : UInt8) :
    Yields Fault.OfData
      (fun r => (∃ cancelled, r.2.Accounted cancelled) ∧ r.2.receiver = self.receiver)
      (self.emitTimeCode env timecode) := by
  rw [emitTimeCode]
  split
  · exact ⟨⟨_, h⟩, rfl⟩
  · rename_i hbackend
    have hsome := Option.isNone_eq_false_iff.mp (eq_false_of_ne_true hbackend)
    rw [timeCodePacket_eq]
    apply (self.sendAll_yields env hsome (timeCodeFrame timecode)).mono
    intro r hsend
    exact ⟨⟨_, h.transmits hsend.transmits⟩, hsend.transmits.receiver_eq⟩

/-- A call that sends accounts for its operations and receives nothing. -/
theorem sendCall_accounted (h : self.Accounted cancelled) (ndebug : Bool)
    (backend : Environment → Environment) (call : SendCall) :
    Yields Fault.OfData
      (fun r => (∃ cancelled, r.2.Accounted cancelled) ∧ r.2.receiver = self.receiver)
      (self.sendCall ndebug backend call) := by
  cases call with
  | read target_node memory_address size retry_count env => exact sync_accounted h ..
  | write target_node memory_address data retry_count env => exact sync_accounted h ..
  | readAsync target_node memory_address data_length env => exact async_accounted h ..
  | writeAsync target_node memory_address data env => exact async_accounted h ..
  | emitTimeCode timecode env =>
      apply (emitTimeCode_accounted h (backend env) timecode).bind
      exact fun r hr => hr

end Node

namespace Client

variable (ndebug : Bool) (self : Client) (target_node : TargetNode) (command : Command)

theorem async_eq (env : Environment) :
    self.async ndebug target_node command env =
      self.node.async ndebug target_node command (self.environment env) >>= fun r =>
        .ok (r.1, { self with node := r.2 }) := by
  rw [async, Node.async]
  cases self.node.start ndebug target_node (self.environment env) command with
  | error fault => rfl
  | ok r => rfl

theorem sync_eq (retry_count : Nat) (env : Nat → Environment) :
    self.sync ndebug target_node command retry_count env =
      self.node.sync ndebug target_node command retry_count
        (fun attempt => self.environment (env attempt)) >>= fun r =>
        .ok (r.1, { self with node := r.2 }) := by
  rw [sync, Node.sync]
  cases Node.attemptLoop ndebug target_node command (Node.attempts retry_count) self.node
    fun attempt => self.environment (env attempt) with
  | error fault => rfl
  | ok r => rfl

/-- A client leaves these calls to its node. -/
theorem call_client (call : SendCall) :
    self.call ndebug call.client =
      self.node.sendCall ndebug self.environment call >>= fun r =>
        .ok (r.1, { self with node := r.2 }) := by
  cases call with
  | read target_node memory_address size retry_count env => exact sync_eq ..
  | write target_node memory_address data retry_count env => exact sync_eq ..
  | readAsync target_node memory_address data_length env => exact async_eq ..
  | writeAsync target_node memory_address data env => exact async_eq ..
  | emitTimeCode timecode env =>
      rw [SendCall.client, Client.call, Node.sendCall]
      cases self.node.emitTimeCode (self.environment env) timecode with
      | error fault => rfl
      | ok r => rfl

end Client

end SpwRmap
