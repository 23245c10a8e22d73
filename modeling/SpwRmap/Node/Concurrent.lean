import SpwRmap.Node.Table

/-!
# Concurrent operations on one node

Any number of client threads inside `read`, `write`, `readAsync` and `writeAsync`,
and one thread inside `poll`, interleaved at the granularity of the critical
sections of `transaction_ids_mtx_` and `reply_callback_mtx_[i]`, the send calls and
the waits on a future. A program counter names the next such section of a thread;
what follows it up to the next one belongs to the same step when it touches nothing
shared, and is a step of its own otherwise (`set_value`, and the reset of
`reply_error_callback_` that the error handler makes without a lock).

An operation is one call of `startReadAsyncOperation_` or
`startWriteAsyncOperation_`; each attempt of a synchronous call is an operation of
its own. Its two callbacks capture its promise and its identifier, so a slot of the
table holds the name of the operation whose callbacks are in it. A promise is the
list of the values it was given, since the second one ends the process.

The poll thread holds the lock of a slot from the moment it takes the callback out
of it until the callback returns; sections of other threads on that slot have to
wait. `owner`, `registered`, `cancelled`, `completions` and `unanswered` are no
variables of the source: they record who was given an identifier and has not given
it back, which steps an operation has been through, and the commands whose replies
are still to come.
-/

namespace SpwRmap.Concurrent

abbrev OpId : Type := Nat
abbrev ThreadId : Type := Nat

inductive OpKind where
  | read
  | write
  deriving DecidableEq, Repr

/-- The reply that a command of this kind asks for. -/
def OpKind.replyType : OpKind → PacketType
  | .read => .ReadReply
  | .write => .WriteReply

structure Operation where
  kind : OpKind := .read
  /-- `none` for an asynchronous call; otherwise how many attempts of the
  synchronous call may follow this one. -/
  retries : Option Nat := none
  /-- The index of the transaction identifier, once there is one. -/
  transaction : Option Nat := none
  promise : List (Except ErrorCode Unit) := []
  /-- The packets on which `on_complete` was called. -/
  completions : List Packet := []
  registered : Bool := false
  cancelled : Bool := false

/-- The next section of a client thread. `o` is the operation it works for, `i` the
index of an identifier and `v` the operation whose error handler it runs. -/
inductive Pc where
  | idle
  | allocate (o : OpId)
  | evictTake (o : OpId) (i : Nat)
  | evictSettle (o : OpId) (i : Nat) (v : OpId)
  | evictRelease (o : OpId) (i : Nat) (v : Option OpId)
  | evictReset (o : OpId) (i : Nat) (v : OpId)
  | register (o : OpId) (i : Nat)
  | sending (o : OpId) (i : Nat)
  | sent (o : OpId) (i : Nat)
  | failClear (o : OpId) (i : Nat) (e : ErrorCode)
  | failSettle (o : OpId) (i : Nat) (e : ErrorCode)
  | failRelease (o : OpId) (i : Nat)
  | waiting (o : OpId) (i : Option Nat)
  | cancelClear (o : OpId) (i : Nat)
  | cancelRelease (o : OpId) (i : Nat)
  deriving DecidableEq, Repr

/-- Where the poll thread is. Outside `idle` it holds the lock of slot `i` and runs
the reply callback of `o`. -/
inductive PollPc where
  | idle
  | complete (o : OpId) (i : Nat) (packet : Packet)
  | settle (o : OpId) (i : Nat) (value : Except ErrorCode Unit)
  | release (o : OpId) (i : Nat)
  | reset (o : OpId) (i : Nat)

/-- The slot whose lock the poll thread holds. -/
def PollPc.slot : PollPc → Option Nat
  | .idle => none
  | .complete _ i _ => some i
  | .settle _ i _ => some i
  | .release _ i => some i
  | .reset _ i => some i

structure State where
  table : Table OpId := {}
  ops : OpId → Operation := fun _ => {}
  /-- The name of the next operation. -/
  nextOp : Nat := 0
  threads : ThreadId → Pc := fun _ => .idle
  poll : PollPc := .idle
  now : Int := 0
  transaction_timeout_ : Int := 1000
  unanswered : List OpId := []
  owner : Nat → Option OpId := fun _ => none

inductive Label where
  /-- A call by an idle thread: `readAsync` and `writeAsync` without `retry_count`,
  `read` and `write` with it. -/
  | call (t : ThreadId) (kind : OpKind) (retry_count : Option Nat)
  /-- The next section of a client thread. -/
  | step (t : ThreadId)
  /-- The send of a client thread returns an error. -/
  | sendFails (t : ThreadId) (e : ErrorCode)
  /-- The wait of a synchronous call ends without a value. -/
  | timeout (t : ThreadId)
  /-- `poll` receives a packet, which answers the command of `cause` if there is one. -/
  | receive (packet : Packet) (cause : Option OpId)
  /-- The next section of the poll thread; `throws` says whether `on_complete` does. -/
  | pollStep (throws : Bool)
  | tick (elapsed : Nat)
  | setTimeout (timeout : Int)
  /-- A command or its reply is lost. -/
  | lose (o : OpId)

namespace State

def goto (s : State) (t : ThreadId) (pc : Pc) : State :=
  { s with threads := Function.update s.threads t pc }

def setOp (s : State) (o : OpId) (op : Operation) : State :=
  { s with ops := Function.update s.ops o op }

/-- `promise->set_value`. -/
def setValue (s : State) (o : OpId) (value : Except ErrorCode Unit) : State :=
  s.setOp o { s.ops o with promise := (s.ops o).promise ++ [value] }

/-- An identifier is handed to an operation. -/
def acquire (s : State) (o : OpId) (i : Nat) : State :=
  { s.setOp o { s.ops o with transaction := some i } with
    table := s.table.acquire i s.now
    owner := Function.update s.owner i (some o) }

/-- `releaseTransactionID_`. -/
def release (s : State) (i : Nat) : State :=
  { s with
    table := s.table.release i
    owner := Function.update s.owner i none }

def clear (s : State) (i : Nat) : State := { s with table := s.table.clear i }

def resetError (s : State) (i : Nat) : State := { s with table := s.table.resetError i }

def register (s : State) (o : OpId) (i : Nat) : State :=
  { s.setOp o { s.ops o with registered := true } with table := s.table.register i o }

/-- A new operation enters `getAvailableTransactionID_`. -/
def start (s : State) (t : ThreadId) (kind : OpKind) (retries : Option Nat) : State :=
  { (s.setOp s.nextOp { kind, retries }).goto t (.allocate s.nextOp) with nextOp := s.nextOp + 1 }

/-- The end of `startReadAsyncOperation_` and `startWriteAsyncOperation_`: an
asynchronous call returns, a synchronous one waits. -/
def started (s : State) (t : ThreadId) (o : OpId) (i : Option Nat) : State :=
  if (s.ops o).retries = none then s.goto t .idle else s.goto t (.waiting o i)

/-- The end of one attempt of a synchronous call that timed out. -/
def retry (s : State) (t : ThreadId) (o : OpId) : State :=
  match (s.ops o).retries with
  | some (k + 1) => s.start t (s.ops o).kind (some k)
  | _ => s.goto t .idle

/-- The lock of slot `i` is held by the poll thread. -/
def locked (s : State) (i : Nat) : Prop := s.poll.slot = some i

instance (s : State) (i : Nat) : Decidable (s.locked i) :=
  inferInstanceAs (Decidable (s.poll.slot = some i))

end State

/-- The next section of a client thread. -/
def clientStep (range : TransactionRange) (s : State) (t : ThreadId) : Option State :=
  match s.threads t with
  | .idle => none
  | .allocate o =>
      match s.table.scan range s.now s.transaction_timeout_ with
      | .available i => some ((s.acquire o i).goto t (.register o i))
      | .expired i => some (s.goto t (.evictTake o i))
      | .exhausted =>
          some ((s.setValue o (.error (.errc .resource_unavailable_try_again))).started t o none)
  -- forceReleaseTransaction_
  | .evictTake o i =>
      if s.locked i then none
      else
        match s.table.reply_error_callback_ i with
        | some v => some ((s.clear i).goto t (.evictSettle o i v))
        | none => some ((s.clear i).goto t (.evictRelease o i none))
  | .evictSettle o i v =>
      some ((s.setValue v (.error (.errc .timed_out))).goto t (.evictRelease o i (some v)))
  | .evictRelease o i (some v) => some ((s.release i).goto t (.evictReset o i v))
  | .evictRelease o i none => some ((s.release i).goto t (.allocate o))
  | .evictReset o i _ => some ((s.resetError i).goto t (.allocate o))
  | .register o i => if s.locked i then none else some ((s.register o i).goto t (.sending o i))
  -- The command is on the wire as soon as its last byte is, before the call returns.
  | .sending o i => some ({ s with unanswered := s.unanswered ++ [o] }.goto t (.sent o i))
  | .sent o i => some (s.started t o (some i))
  | .failClear o i e => if s.locked i then none else some ((s.clear i).goto t (.failSettle o i e))
  | .failSettle o i e => some ((s.setValue o (.error e)).goto t (.failRelease o i))
  | .failRelease o i => some ((s.release i).started t o none)
  -- The source ends in `get` when another thread has destroyed the promise; here it times out.
  | .waiting o _ => if (s.ops o).promise = [] then none else some (s.goto t .idle)
  -- cancelTransaction_
  | .cancelClear o i => if s.locked i then none else some ((s.clear i).goto t (.cancelRelease o i))
  | .cancelRelease o i =>
      some (((s.release i).setOp o { s.ops o with cancelled := true }).retry t o)

/-- The reply branch of `poll` up to the call of the callback. -/
def dispatch (range : TransactionRange) (s : State) (packet : Packet) : State :=
  match packet.type with
  | .ReadReply | .WriteReply =>
      match range.index packet.transactionID with
      | none => s
      | some i =>
          match s.table.reply_callback_ i with
          | some o => { s.clear i with poll := .complete o i packet }
          | none => s
  | _ => s

/-- The next section of the poll thread. -/
def pollStep (s : State) (throws : Bool) : Option State :=
  match s.poll with
  | .idle => none
  | .complete o i packet =>
      -- The callbacks of the synchronous calls are `noexcept`.
      if throws = true ∧ (s.ops o).retries ≠ none then none
      else
        let value := if throws then .error (.errc .operation_canceled) else .ok ()
        some { s.setOp o { s.ops o with completions := (s.ops o).completions ++ [packet] } with
          poll := .settle o i value }
  | .settle o i value => some { s.setValue o value with poll := .release o i }
  | .release o i => some { s.release i with poll := .reset o i }
  | .reset _ i => some { s.resetError i with poll := .idle }

def step (range : TransactionRange) (s : State) : Label → Option State
  | .call t kind retry_count =>
      if s.threads t = .idle then
        -- A `retry_count` of zero counts as one.
        some (s.start t kind (retry_count.map (· - 1)))
      else
        none
  | .step t => clientStep range s t
  | .sendFails t e =>
      match s.threads t with
      | .sending o i => some (s.goto t (.failClear o i e))
      | _ => none
  | .timeout t =>
      match s.threads t with
      | .waiting o (some i) =>
          if (s.ops o).promise = [] then some (s.goto t (.cancelClear o i)) else none
      | _ => none
  | .receive packet cause =>
      match s.poll with
      | .idle =>
          some (dispatch range
            { s with unanswered := s.unanswered.filter fun o => some o ≠ cause } packet)
      | _ => none
  | .pollStep throws => pollStep s throws
  | .tick elapsed => some { s with now := s.now + elapsed }
  | .setTimeout timeout => some { s with transaction_timeout_ := timeout }
  | .lose o => some { s with unanswered := s.unanswered.filter (· ≠ o) }

end SpwRmap.Concurrent
