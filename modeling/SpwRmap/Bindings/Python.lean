import SpwRmap.Node.Commands

/-!
# The node of the Python bindings

`PySpwRmapTCPNode` runs the loop of a client in a thread of its own. `start` connects and
makes the thread, `stop` shuts the client down and joins it, and an error that ended the loop
waits in `thread_error_` until one of the two takes it out and raises it; `read` and `write`
raise it as well, but leave it there. The bindings keep the interpreter's lock, so the calls of the user come one after another; the thread goes on between any two of
their accesses to what is shared. Those are the two flags, the error under its lock, and the
calls of the client.

`raised`, `reported`, `reads`, `abandoned`, `results` and `crash` are no members of the source.
They record the errors that ended a loop, those that `start` and `stop` have taken out, the
operations of `read` with the lengths asked for, those of them whose call gave up waiting, what
the calls have returned, and the end of the process.
-/

namespace SpwRmap

open Span Outcome Transition

namespace Client

def receive (self : Client) (sockets : Sockets) : Checked (Except ErrorCode Nat × Client) := do
  let node := self.node.receiving (TCPClient.source self.fd_ sockets)
  let (res, receiver) ← node.receiver.recvAndParseOnePacket_
  return (res, { self with node := { node with receiver } })

/-- What `poll` does with the outcome of receiving. -/
def dispatch (ndebug : Bool) (self : Client) (sockets : Sockets) (env : Environment) :
    Except ErrorCode Nat → Checked (Except ErrorCode Bool × Client)
  | .error e =>
      if self.shutdowned_ then .ok (.ok false, self) else .ok (.error e, self)
  | .ok 0 =>
      match self.shutdown sockets with
      | (.error e, self) => .ok (.error e, self)
      | (.ok _, self) => .ok (.ok false, self)
  | .ok _ => do
      let (res, node) ← self.node.pollPacket ndebug (self.environment env)
        self.node.receiver.packet_parser_.packet_
      return (res, { self with node })

theorem poll_eq (ndebug : Bool) (self : Client) (sockets : Sockets) (env : Environment) :
    self.poll ndebug sockets env =
      self.receive sockets >>= fun r => r.2.dispatch ndebug sockets env r.1 := by
  rw [poll, Impl.poll, receive, bind_assoc]
  congr 1
  funext r
  obtain ⟨res, receiver⟩ := r
  rw [pure_bind]
  dsimp only [impl]
  cases res with
  | error e => rfl
  | ok size =>
      cases size with
      | zero =>
          dsimp only [dispatch]
          generalize Client.shutdown _ sockets = out
          obtain ⟨ended, client⟩ := out
          cases ended with
          | error e => rfl
          | ok _ => rfl
      | succ size => rfl

end Client

namespace Python

structure PyTargetNode where
  logical_address : UInt32 := 0
  target_spacewire_address : List UInt8 := []
  reply_address : List UInt8 := []
  deriving DecidableEq, Repr

/-- The `TargetNodeDynamic` of a call. The logical address is cast to a byte. -/
def PyTargetNode.targetNode (target_node : PyTargetNode) : TargetNode where
  targetSpaceWireAddress := target_node.target_spacewire_address
  replyAddress := target_node.reply_address
  targetLogicalAddress := target_node.logical_address.toUInt8

/-- Where the thread is. -/
inductive LoopPc where
  /-- There is none. -/
  | absent
  /-- In `runLoop`, before a packet. -/
  | receiving
  /-- In `runLoop`, with what was received. -/
  | received (res : Except ErrorCode Nat)
  /-- In the handler of the exception. -/
  | failing (e : ErrorCode)
  | clearRunning
  | clearConnected
  | finished

/-- Where `start` is, after its look at `running_`. -/
inductive StartPc where
  | join
  | rethrow
  | connect
  | setConnected
  | setRunning
  | clearError
  | spawn

/-- Where `stop` is, after its first look at `running_`. -/
inductive StopPc where
  /-- The second half of the first condition. -/
  | either
  /-- The second condition. -/
  | connected
  | shutdown
  | clearConnected (res : Except ErrorCode Unit)
  | clearRunning (res : Except ErrorCode Unit)
  | join (res : Except ErrorCode Unit)
  | rethrow (res : Except ErrorCode Unit)

/-- What the user's side is doing. -/
inductive UserPc where
  | idle
  | start (pc : StartPc)
  | stop (destroying : Bool) (pc : StopPc)
  /-- In `read`, with its vector, or in `write`, at the future. -/
  | waiting (operation : Nat) (data : Option (List UInt8))
  /-- At the end of the destructor. -/
  | joining
  | destroyed

/-- What a call returns or throws. -/
inductive Result where
  | done
  | read (operation : Nat) (data : List UInt8)
  | alreadyRunning
  | raised (e : ErrorCode)
  deriving DecidableEq, Repr

/-- How the process can die. -/
inductive Crash where
  | fault (fault : Fault)
  /-- A thread object was assigned or destroyed that can still be joined. -/
  | terminate
  /-- `copy_n` reads where there is no memory. -/
  | outOfRange
  /-- `copy_n` writes to the vector of a call that is over. -/
  | dangling (operation : Nat)
  deriving DecidableEq, Repr

structure PySpwRmapTCPNode where
  node_ : Client
  /-- `thread_.joinable()`. -/
  thread_ : Bool := false
  thread_error_ : Option ErrorCode := none
  running_ : Bool := false
  connected_ : Bool := false
  loop : LoopPc := .absent
  user : UserPc := .idle
  raised : List ErrorCode := []
  reported : List ErrorCode := []
  reads : List (Nat × Nat) := []
  abandoned : List Nat := []
  results : List Result := []
  crash : Option Crash := none

inductive Label where
  | start
  | stop
  | destroy
  | read (target_node : PyTargetNode) (memory_address data_length : UInt32) (env : Environment)
  | write (target_node : PyTargetNode) (memory_address : UInt32) (data : List UInt8)
      (env : Environment)
  /-- The call in progress takes its next step. -/
  | user (sockets : Sockets)
  /-- The second that `read` and `write` wait is over. -/
  | expire
  /-- The thread takes its next step. `beyond` is the memory behind the data of the packet. -/
  | loop (sockets : Sockets) (env : Environment) (beyond : List UInt8)

/-- Where the thread goes on after a `poll`. -/
def LoopPc.after : Except ErrorCode Bool → LoopPc
  | .error e => .failing e
  | .ok false => .clearRunning
  | .ok true => .receiving

theorem LoopPc.after_cases (res : Except ErrorCode Bool) :
    after res = .receiving ∨ after res = .clearRunning ∨ ∃ e, after res = .failing e := by
  cases res with
  | error e => exact .inr (.inr ⟨e, rfl⟩)
  | ok more =>
      cases more with
      | false => exact .inr (.inl rfl)
      | true => exact .inl rfl

/-- The callbacks of `read` and `write` do not throw, and no others are registered. -/
def callbacks (env : Environment) : Environment :=
  { env with on_complete := fun _ _ => true, on_write := none, on_read := none }

namespace PySpwRmapTCPNode

theorem range_ordered : (0x0020 : UInt16) ≤ 0x0040 := by decide

/-- The configuration of the client. The range is the default one. -/
def config : SpwRmapTCPNodeConfig where
  send_buffer_size := 4096
  recv_buffer_size := 4096
  range := ⟨0x0020, 0x0040, range_ordered⟩
  buffer_policy := .AutoResize

/-- The constructor. -/
def new (source : Backend) : PySpwRmapTCPNode where
  node_ := Client.ofConfig config source

def goto (self : PySpwRmapTCPNode) (user : UserPc) : PySpwRmapTCPNode :=
  { self with user }

def abort (self : PySpwRmapTCPNode) (crash : Crash) : PySpwRmapTCPNode :=
  { self with crash := some crash }

/-- The call in progress returns or throws. -/
def answer (self : PySpwRmapTCPNode) (result : Result) : PySpwRmapTCPNode :=
  { self with user := .idle, results := self.results ++ [result] }

/-- `joinThread_`, which goes on at `user`. It waits for the thread. -/
def joinThread_ (self : PySpwRmapTCPNode) (user : UserPc) : Option PySpwRmapTCPNode :=
  if self.thread_ then
    match self.loop with
    | .finished => some { self with thread_ := false, loop := .absent, user }
    | _ => none
  else
    some (self.goto user)

theorem joinThread_cases {self next : PySpwRmapTCPNode} {user : UserPc}
    (h : self.joinThread_ user = some next) :
    self.loop = .finished ∧ next = { self with thread_ := false, loop := .absent, user } ∨
      self.thread_ = false ∧ next = self.goto user := by
  rw [joinThread_] at h
  split at h
  · split at h
    · rename_i hfinished
      cases h
      exact .inl ⟨hfinished, rfl⟩
    · contradiction
  · rename_i hthread
    cases h
    exact .inr ⟨eq_false_of_ne_true hthread, rfl⟩

/-- `rethrowThreadError_`: the error to raise, if there is one. -/
def rethrowThreadError_ (self : PySpwRmapTCPNode) :
    Option ErrorCode × PySpwRmapTCPNode :=
  (self.thread_error_, { self with
    thread_error_ := none, reported := self.reported ++ self.thread_error_.toList })

def startStep (self : PySpwRmapTCPNode) (sockets : Sockets) : StartPc → Option PySpwRmapTCPNode
  | .join => self.joinThread_ (.start .rethrow)
  | .rethrow =>
      match self.rethrowThreadError_ with
      | (some e, self) => some (self.answer (.raised e))
      | (none, self) => some (self.goto (.start .connect))
  | .connect =>
      match self.node_.connect sockets with
      | .error fault => some (self.abort (.fault fault))
      | .ok (.error e, node_) => some ({ self with node_ }.answer (.raised e))
      | .ok (.ok _, node_) => some ({ self with node_ }.goto (.start .setConnected))
  | .setConnected => some ({ self with connected_ := true }.goto (.start .setRunning))
  | .setRunning => some ({ self with running_ := true }.goto (.start .clearError))
  | .clearError => some ({ self with thread_error_ := none }.goto (.start .spawn))
  | .spawn =>
      if self.thread_ then
        some (self.abort .terminate)
      else
        some ({ self with thread_ := true, loop := .receiving }.answer .done)

/-- What `stop` raises: the error of the thread before its own. -/
def stopResult : Option ErrorCode → Except ErrorCode Unit → Result
  | some e, _ => .raised e
  | none, .error e => .raised e
  | none, .ok _ => .done

def stopStep (self : PySpwRmapTCPNode) (sockets : Sockets) (destroying : Bool) :
    StopPc → Option PySpwRmapTCPNode
  | .either =>
      if self.connected_ then some (self.goto (.stop destroying .connected))
      else some (self.goto (.stop destroying (.join (.ok ()))))
  | .connected =>
      if self.connected_ then some (self.goto (.stop destroying .shutdown))
      else some (self.goto (.stop destroying (.clearRunning (.ok ()))))
  | .shutdown =>
      let (res, node_) := self.node_.shutdown sockets
      some ({ self with node_ }.goto (.stop destroying (.clearConnected res)))
  | .clearConnected res =>
      some ({ self with connected_ := false }.goto (.stop destroying (.clearRunning res)))
  | .clearRunning res =>
      some ({ self with running_ := false }.goto (.stop destroying (.join res)))
  | .join res => self.joinThread_ (.stop destroying (.rethrow res))
  | .rethrow res =>
      let (err, self) := self.rethrowThreadError_
      -- The destructor catches what is raised.
      if destroying then some (self.goto .joining) else some (self.answer (stopResult err res))

/-- `future.get()`, after the promise was given a value. -/
def futureStep (self : PySpwRmapTCPNode) (operation : Nat) (data : Option (List UInt8)) :
    Option PySpwRmapTCPNode :=
  match self.node_.node.value operation with
  | none => none
  | some (.error e) => some (self.answer (.raised e))
  | some (.ok _) =>
      match data with
      | none => some (self.answer .done)
      | some data => some (self.answer (.read operation data))

/-- The next step of the call in progress. -/
def userStep (self : PySpwRmapTCPNode) (sockets : Sockets) : Option PySpwRmapTCPNode :=
  match self.user with
  | .idle => none
  | .start pc => self.startStep sockets pc
  | .stop destroying pc => self.stopStep sockets destroying pc
  | .waiting operation data => self.futureStep operation data
  | .joining =>
      match self.joinThread_ .destroyed with
      | none => none
      | some self => some (if self.thread_ then self.abort .terminate else self)
  | .destroyed => none

/-- What `copy_n` finds at `packet.data.data()`. A write reply leaves the span of an earlier
packet in the record, over which anything may have been received since. -/
def source (packet : Packet) (beyond : List UInt8) : List UInt8 :=
  if packet.type = .ReadReply then packet.data ++ beyond else beyond

/-- The callback of `read`. It copies as many bytes as were asked for, from whatever follows a
shorter reply in `recv_buf_` as well. -/
def copyReply (self : PySpwRmapTCPNode) (operation : Nat) (packet : Packet)
    (beyond : List UInt8) : PySpwRmapTCPNode :=
  match self.user with
  | .waiting current (some data) =>
      if current = operation then
        if data.length ≤ (source packet beyond).length then
          self.goto (.waiting operation (some ((source packet beyond).take data.length)))
        else
          self.abort .outOfRange
      else
        self.abort (.dangling operation)
  | _ => self.abort (.dangling operation)

/-- The callback of `write` does nothing. -/
def onComplete (beyond : List UInt8) (self : PySpwRmapTCPNode) : Event → PySpwRmapTCPNode
  | .onComplete operation packet =>
      if operation ∈ self.reads.map Prod.fst then self.copyReply operation packet beyond else self
  | _ => self

/-- The next step of the thread. -/
def loopStep (ndebug : Bool) (self : PySpwRmapTCPNode) (sockets : Sockets) (env : Environment)
    (beyond : List UInt8) : Option PySpwRmapTCPNode :=
  match self.loop with
  | .absent => none
  | .receiving =>
      match self.node_.receive sockets with
      | .error fault => some (self.abort (.fault fault))
      | .ok (res, node_) => some { self with node_, loop := .received res }
  | .received res =>
      match self.node_.dispatch ndebug sockets (callbacks env) res with
      | .error fault => some (self.abort (.fault fault))
      | .ok (res, node_) =>
          some ((node_.node.events.drop self.node_.node.events.length).foldl (onComplete beyond)
            { self with node_, loop := .after res })
  | .failing e => some { self with
      thread_error_ := some e, raised := self.raised ++ [e], loop := .clearRunning }
  | .clearRunning => some { self with running_ := false, loop := .clearConnected }
  | .clearConnected => some { self with connected_ := false, loop := .finished }
  | .finished => none

/-- `read` and `write` up to the future: `checkThreadError_`, then the operation is started. -/
def operate (ndebug : Bool) (self : PySpwRmapTCPNode) (target_node : PyTargetNode)
    (command : Command) (data : Option (List UInt8)) (env : Environment) : PySpwRmapTCPNode :=
  match self.thread_error_ with
  | some e => self.answer (.raised e)
  | none =>
      let operation := self.node_.node.operations
      match self.node_.async ndebug target_node.targetNode command env with
      | .error fault => self.abort (.fault fault)
      | .ok (_, node_) => { self with
          node_
          reads := self.reads ++ (data.map fun data => (operation, data.length)).toList
          user := .waiting operation data }

/-- `start`, up to the check of `joinable`. -/
def enterStart (self : PySpwRmapTCPNode) : PySpwRmapTCPNode :=
  if self.running_ then self.answer .alreadyRunning
  else if self.thread_ then self.goto (.start .join)
  else self.goto (.start .connect)

def enterStop (self : PySpwRmapTCPNode) (destroying : Bool) : PySpwRmapTCPNode :=
  if self.running_ then self.goto (.stop destroying .connected)
  else self.goto (.stop destroying .either)

/-- The time-out of a call, unless the promise has a value. -/
def expire (self : PySpwRmapTCPNode) : Option PySpwRmapTCPNode :=
  match self.user with
  | .waiting operation data =>
      if (self.node_.node.value operation).isSome then
        none
      else
        some ({ self with
          abandoned := self.abandoned ++ (data.map fun _ => operation).toList }.answer
            (.raised (.errc .timed_out)))
  | _ => none

/-- A call of the user, when no other is in progress. -/
def enter (ndebug : Bool) (self : PySpwRmapTCPNode) : Label → Option PySpwRmapTCPNode
  | .start => some self.enterStart
  | .stop => some (self.enterStop false)
  | .destroy => some (self.enterStop true)
  | .read target_node memory_address data_length env =>
      some (self.operate ndebug target_node (.read memory_address data_length)
        (some (List.replicate data_length.toNat 0)) env)
  | .write target_node memory_address data env =>
      some (self.operate ndebug target_node (.write memory_address data) none env)
  | _ => none

def step (ndebug : Bool) (self : PySpwRmapTCPNode) (l : Label) : Option PySpwRmapTCPNode :=
  if self.crash.isSome then
    none
  else
    match l with
    | .user sockets => self.userStep sockets
    | .expire => self.expire
    | .loop sockets env beyond => self.loopStep ndebug sockets env beyond
    | l =>
        match self.user with
        | .idle => self.enter ndebug l
        | _ => none

end PySpwRmapTCPNode

/-- What a place in a call says about the thread. -/
inductive Place where
  /-- Nothing. -/
  | plain
  /-- It was joined, and its error may be waiting. -/
  | joined
  /-- It was joined and its error was raised. -/
  | settled
  /-- `start` has set a flag for a thread that is still to come. -/
  | announcing

def UserPc.place : UserPc → Place
  | .start .rethrow => .joined
  | .start .connect => .settled
  | .start .setConnected => .settled
  | .start .setRunning => .announcing
  | .start .clearError => .announcing
  | .start .spawn => .announcing
  | .stop _ (.rethrow _) => .joined
  | .joining => .settled
  | .destroyed => .settled
  | _ => .plain

/-- The error of the thread is still to come. -/
def LoopPc.loops : LoopPc → Bool
  | .receiving => true
  | .received _ => true
  | .failing _ => true
  | _ => false

namespace PySpwRmapTCPNode

/-- What the two sides agree on. -/
structure Orderly (node : PySpwRmapTCPNode) : Prop where
  joinable : node.thread_ = true ↔ node.loop ≠ .absent
  /-- There is no thread between a join and the next one. -/
  joined : node.user.place ≠ .plain → node.thread_ = false
  /-- An error waits for the join of its thread. -/
  waits : node.thread_error_ ≠ none → node.thread_ = true ∨ node.user.place = .joined
  /-- A thread finds no error of an earlier one. -/
  fresh : node.loop.loops = true → node.thread_error_ = none
  absent : node.loop = .absent →
    node.user.place = .announcing ∨ node.running_ = false ∧ node.connected_ = false
  clearConnected : node.loop = .clearConnected → node.running_ = false
  finished : node.loop = .finished → node.running_ = false ∧ node.connected_ = false
  accounts : node.raised = node.reported ++ node.thread_error_.toList
  lives : node.crash ≠ some .terminate

variable {self next : PySpwRmapTCPNode} {ndebug : Bool}

namespace Orderly

theorem absent_of_place (h : self.Orderly) (hplace : self.user.place ≠ .plain) :
    self.loop = .absent := by
  by_contra hloop
  have hthread := h.joinable.mpr hloop
  rw [h.joined hplace] at hthread
  contradiction

theorem noError_of_place (h : self.Orderly) (hplace : self.user.place ≠ .plain)
    (hjoined : self.user.place ≠ .joined) : self.thread_error_ = none := by
  by_contra herror
  obtain hthread | hplace' := h.waits herror
  · rw [h.joined hplace] at hthread
    contradiction
  · exact hjoined hplace'

/-- The client and the records of the calls are not the thread's. -/
theorem quiet (h : self.Orderly) (node_ : Client) (reads : List (Nat × Nat))
    (abandoned : List Nat) (results : List Result) :
    Orderly { self with node_, reads, abandoned, results } :=
  ⟨h.joinable, h.joined, h.waits, h.fresh, h.absent, h.clearConnected, h.finished, h.accounts,
    h.lives⟩

/-- Moving on to a place that says the same. -/
theorem stay (h : self.Orderly) {user : UserPc} (hplace : user.place = self.user.place) :
    (self.goto user).Orderly := by
  constructor
  case joined => exact fun hne => h.joined (hplace ▸ hne)
  case waits => exact fun herror => (h.waits herror).imp_right hplace.trans
  case absent => exact fun hloop => (h.absent hloop).imp_left hplace.trans
  all_goals first | exact h.joinable | exact h.fresh | exact h.clearConnected | exact h.finished |
    exact h.accounts | exact h.lives

/-- Moving on where there is no thread and no error of one. -/
theorem move (h : self.Orderly) {user : UserPc} (hthread : self.thread_ = false)
    (hplace : self.user.place ≠ .joined) (hself : self.user.place ≠ .announcing) :
    (self.goto user).Orderly := by
  constructor
  case joined => exact fun _ => hthread
  case waits =>
    intro herror
    obtain hthread' | hjoined := h.waits herror
    · exact .inl hthread'
    · exact absurd hjoined hplace
  case absent => exact fun hloop => .inr ((h.absent hloop).resolve_left hself)
  all_goals first | exact h.joinable | exact h.fresh | exact h.clearConnected | exact h.finished |
    exact h.accounts | exact h.lives

theorem abort (h : self.Orderly) {crash : Crash} (hcrash : crash ≠ .terminate) :
    (self.abort crash).Orderly :=
  ⟨h.joinable, h.joined, h.waits, h.fresh, h.absent, h.clearConnected, h.finished, h.accounts,
    fun hterminate => hcrash (Option.some.inj hterminate)⟩

/-- A call that ends where it knows nothing of the thread. -/
theorem answer (h : self.Orderly) (hplace : self.user.place = .plain) (result : Result) :
    (self.answer result).Orderly :=
  (h.quiet self.node_ self.reads self.abandoned (self.results ++ [result])).stay hplace.symm

theorem joinThread_ (h : self.Orderly) (hplace : self.user.place = .plain) {user : UserPc}
    (huser : user.place = .joined) (hjoin : self.joinThread_ user = some next) : next.Orderly := by
  have hflags : self.loop = .absent → self.running_ = false ∧ self.connected_ = false := by
    intro hloop
    refine (h.absent hloop).resolve_left ?_
    rw [hplace]
    rintro ⟨⟩
  obtain ⟨hloop, rfl⟩ | ⟨hthread, rfl⟩ := joinThread_cases hjoin
  · constructor
    case joinable => exact iff_of_false Bool.false_ne_true fun hne => hne rfl
    case joined => exact fun _ => rfl
    case waits => exact fun _ => .inr huser
    case fresh => rintro ⟨⟩
    case absent => exact fun _ => .inr (h.finished hloop)
    case clearConnected => rintro ⟨⟩
    case finished => rintro ⟨⟩
    case accounts => exact h.accounts
    case lives => exact h.lives
  · exact ⟨h.joinable, fun _ => hthread, fun _ => .inr huser, h.fresh,
      fun hloop => .inr (hflags hloop), h.clearConnected, h.finished, h.accounts, h.lives⟩

/-- The error of a joined thread is taken out. -/
theorem rethrowThreadError_ (h : self.Orderly) (hplace : self.user.place = .joined)
    (user : UserPc) : (self.rethrowThreadError_.2.goto user).Orderly := by
  have hloop := h.absent_of_place (by rw [hplace]; rintro ⟨⟩)
  have hthread := h.joined (by rw [hplace]; rintro ⟨⟩)
  have hflags : self.running_ = false ∧ self.connected_ = false := by
    refine (h.absent hloop).resolve_left ?_
    rw [hplace]
    rintro ⟨⟩
  constructor
  case joinable => exact h.joinable
  case joined => exact fun _ => hthread
  case waits => exact fun herror => absurd rfl herror
  case fresh => exact fun _ => rfl
  case absent => exact fun _ => .inr hflags
  case clearConnected => exact h.clearConnected
  case finished => exact h.finished
  case accounts =>
    change self.raised = (self.reported ++ self.thread_error_.toList) ++ []
    rw [List.append_nil]
    exact h.accounts
  case lives => exact h.lives

/-- The flags are set for a thread that is still to come. -/
theorem announce (h : self.Orderly) (hplace : self.user.place ≠ .plain)
    (hjoined : self.user.place ≠ .joined) {user : UserPc} (huser : user.place = .announcing)
    (running_ connected_ : Bool) : Orderly { self with running_, connected_, user } := by
  have hloop := h.absent_of_place hplace
  have herror := h.noError_of_place hplace hjoined
  refine ⟨h.joinable, fun _ => h.joined hplace, fun hsome => absurd herror hsome, h.fresh,
    fun _ => .inl huser, ?_, ?_, h.accounts, h.lives⟩
  · intro hclear
    cases hloop.symm.trans hclear
  · intro hfinished
    cases hloop.symm.trans hfinished

/-- `stop` clears a flag. -/
theorem clear (h : self.Orderly) (hplace : self.user.place = .plain) {user : UserPc}
    (huser : user.place = .plain) {running_ connected_ : Bool}
    (hrunning : self.running_ = false → running_ = false)
    (hconnected : self.connected_ = false → connected_ = false) :
    Orderly { self with running_, connected_, user } := by
  constructor
  case joinable => exact h.joinable
  case joined => exact fun hne => absurd huser hne
  case waits =>
    intro herror
    obtain hthread | hjoined := h.waits herror
    · exact .inl hthread
    · rw [hplace] at hjoined
      contradiction
  case fresh => exact h.fresh
  case absent =>
    intro hloop
    obtain hannouncing | ⟨hr, hc⟩ := h.absent hloop
    · rw [hplace] at hannouncing
      contradiction
    · exact .inr ⟨hrunning hr, hconnected hc⟩
  case clearConnected => exact fun hloop => hrunning (h.clearConnected hloop)
  case finished =>
    intro hloop
    obtain ⟨hr, hc⟩ := h.finished hloop
    exact ⟨hrunning hr, hconnected hc⟩
  case accounts => exact h.accounts
  case lives => exact h.lives

/-- A step of a thread that has left its loop. -/
theorem leave (h : self.Orderly) (hpresent : self.loop ≠ .absent) {running_ connected_ : Bool}
    {loop : LoopPc} (hloop : loop = .clearConnected ∧ running_ = false ∨
      loop = .finished ∧ running_ = false ∧ connected_ = false) :
    Orderly { self with running_, connected_, loop } := by
  have hthread := h.joinable.mpr hpresent
  obtain ⟨rfl, rfl⟩ | ⟨rfl, rfl, rfl⟩ := hloop
  · constructor
    case joinable => exact iff_of_true hthread (by rintro ⟨⟩)
    case clearConnected => exact fun _ => rfl
    case joined => exact h.joined
    case waits => exact h.waits
    case accounts => exact h.accounts
    case lives => exact h.lives
    all_goals rintro ⟨⟩
  · constructor
    case joinable => exact iff_of_true hthread (by rintro ⟨⟩)
    case finished => exact fun _ => ⟨rfl, rfl⟩
    case joined => exact h.joined
    case waits => exact h.waits
    case accounts => exact h.accounts
    case lives => exact h.lives
    all_goals rintro ⟨⟩

/-- A step of a thread in its loop. -/
theorem loop (h : self.Orderly) (hloops : self.loop.loops = true) (node_ : Client) {loop : LoopPc}
    (hloop : loop.loops = true ∨ loop = .clearRunning) : Orderly { self with node_, loop } := by
  have hthread : self.thread_ = true := by
    apply h.joinable.mpr
    intro habsent
    rw [habsent] at hloops
    contradiction
  have hnone := h.fresh hloops
  have hne : loop ≠ .absent ∧ loop ≠ .clearConnected ∧ loop ≠ .finished := by
    obtain hloop | rfl := hloop
    · refine ⟨?_, ?_, ?_⟩
      · rintro rfl
        contradiction
      · rintro rfl
        contradiction
      · rintro rfl
        contradiction
    · exact ⟨(by rintro ⟨⟩), (by rintro ⟨⟩), (by rintro ⟨⟩)⟩
  exact ⟨⟨fun _ => hne.1, fun _ => hthread⟩, h.joined, h.waits, fun _ => hnone,
    fun heq => absurd heq hne.1, fun heq => absurd heq hne.2.1, fun heq => absurd heq hne.2.2,
    h.accounts, h.lives⟩

end Orderly

theorem startStep_orderly (h : self.Orderly) {sockets : Sockets} {pc : StartPc}
    (hpc : self.user = .start pc) (hstep : self.startStep sockets pc = some next) :
    next.Orderly := by
  cases pc with
  | join => exact h.joinThread_ (by rw [hpc]; rfl) rfl hstep
  | rethrow =>
      have hrethrown := h.rethrowThreadError_ (by rw [hpc]; rfl)
      rw [startStep] at hstep
      split at hstep
      · rename_i e raised heq
        cases hstep
        have hraised := hrethrown .idle
        rw [heq] at hraised
        exact hraised.answer rfl _
      · rename_i raised heq
        cases hstep
        have hraised := hrethrown (.start .connect)
        rw [heq] at hraised
        exact hraised
  | connect =>
      have hthread : self.thread_ = false := h.joined (by rw [hpc]; rintro ⟨⟩)
      have hplace : self.user.place = .settled := by rw [hpc]; rfl
      rw [startStep] at hstep
      split at hstep
      · cases hstep
        exact h.abort (by rintro ⟨⟩)
      · rename_i e node_ _
        cases hstep
        have hquiet := h.quiet node_ self.reads self.abandoned self.results
        have hmoved : ({ self with node_ := node_ }.goto .idle).Orderly :=
          hquiet.move hthread (by rw [hplace]; rintro ⟨⟩) (by rw [hplace]; rintro ⟨⟩)
        exact hmoved.answer rfl _
      · cases hstep
        exact (h.quiet _ self.reads self.abandoned self.results).stay hplace.symm
  | setConnected =>
      cases hstep
      exact h.announce (by rw [hpc]; rintro ⟨⟩) (by rw [hpc]; rintro ⟨⟩) rfl ..
  | setRunning =>
      cases hstep
      exact h.announce (by rw [hpc]; rintro ⟨⟩) (by rw [hpc]; rintro ⟨⟩) rfl ..
  | clearError =>
      cases hstep
      have hplace : self.user.place ≠ .plain := by rw [hpc]; rintro ⟨⟩
      have herror := h.noError_of_place hplace (by rw [hpc]; rintro ⟨⟩)
      rw [← herror]
      exact h.stay (by rw [hpc]; rfl)
  | spawn =>
      have hplace : self.user.place ≠ .plain := by rw [hpc]; rintro ⟨⟩
      have hthread := h.joined hplace
      have herror := h.noError_of_place hplace (by rw [hpc]; rintro ⟨⟩)
      rw [startStep, if_neg (by rw [hthread]; exact Bool.false_ne_true)] at hstep
      cases hstep
      constructor
      case joinable => exact iff_of_true rfl (by rintro ⟨⟩)
      case joined => exact fun hne => absurd rfl hne
      case waits => exact fun hsome => absurd herror hsome
      case fresh => exact fun _ => herror
      case accounts => exact h.accounts
      case lives => exact h.lives
      all_goals rintro ⟨⟩

theorem stopStep_orderly (h : self.Orderly) {sockets : Sockets} {destroying : Bool} {pc : StopPc}
    (hpc : self.user = .stop destroying pc)
    (hstep : self.stopStep sockets destroying pc = some next) : next.Orderly := by
  cases pc with
  | either =>
      rw [stopStep] at hstep
      split at hstep
      · cases hstep
        exact h.stay (by rw [hpc]; rfl)
      · cases hstep
        exact h.stay (by rw [hpc]; rfl)
  | connected =>
      rw [stopStep] at hstep
      split at hstep
      · cases hstep
        exact h.stay (by rw [hpc]; rfl)
      · cases hstep
        exact h.stay (by rw [hpc]; rfl)
  | shutdown =>
      cases hstep
      exact (h.quiet _ self.reads self.abandoned self.results).stay (by rw [hpc]; rfl)
  | clearConnected res =>
      cases hstep
      exact h.clear (by rw [hpc]; rfl) rfl id fun _ => rfl
  | clearRunning res =>
      cases hstep
      exact h.clear (by rw [hpc]; rfl) rfl (fun _ => rfl) id
  | join res => exact h.joinThread_ (by rw [hpc]; rfl) rfl hstep
  | rethrow res =>
      have hrethrown := h.rethrowThreadError_ (by rw [hpc]; rfl)
      cases destroying with
      | true =>
          cases hstep
          exact hrethrown .joining
      | false =>
          cases hstep
          exact (hrethrown .idle).answer rfl _

theorem futureStep_orderly (h : self.Orderly) {operation : Nat} {data : Option (List UInt8)}
    (hpc : self.user = .waiting operation data)
    (hstep : self.futureStep operation data = some next) : next.Orderly := by
  have hplace : self.user.place = .plain := by rw [hpc]; rfl
  unfold futureStep at hstep
  split at hstep
  · contradiction
  · cases hstep
    exact h.answer hplace _
  · split at hstep
    · cases hstep
      exact h.answer hplace _
    · cases hstep
      exact h.answer hplace _

theorem userStep_orderly (h : self.Orderly) {sockets : Sockets}
    (hstep : self.userStep sockets = some next) : next.Orderly := by
  rw [userStep] at hstep
  split at hstep
  case h_1 => contradiction
  case h_2 pc hpc => exact startStep_orderly h hpc hstep
  case h_3 destroying pc hpc => exact stopStep_orderly h hpc hstep
  case h_4 operation data hpc => exact futureStep_orderly h hpc hstep
  case h_5 hpc =>
    have hthread : self.thread_ = false := h.joined (by rw [hpc]; rintro ⟨⟩)
    rw [joinThread_, if_neg (by rw [hthread]; exact Bool.false_ne_true)] at hstep
    cases hstep
    rw [if_neg (by rw [goto, hthread]; exact Bool.false_ne_true)]
    exact h.stay (by rw [hpc]; rfl)
  case h_6 => contradiction

/-- A callback is the user's, not the thread's. -/
theorem onComplete_orderly (h : self.Orderly) (beyond : List UInt8) (event : Event) :
    (self.onComplete beyond event).Orderly := by
  cases event with
  | onComplete operation packet =>
      rw [onComplete]
      split
      · rw [copyReply]
        split
        · rename_i hpc
          split
          · split
            · exact h.stay (by rw [hpc]; rfl)
            · exact h.abort (by rintro ⟨⟩)
          · exact h.abort (by rintro ⟨⟩)
        · exact h.abort (by rintro ⟨⟩)
      · exact h
  | _ => exact h

theorem foldl_onComplete_orderly (h : self.Orderly) (beyond : List UInt8) (events : List Event) :
    (events.foldl (onComplete beyond) self).Orderly := by
  induction events generalizing self with
  | nil => exact h
  | cons event events ih => exact ih (onComplete_orderly h beyond event)

theorem loopStep_orderly (h : self.Orderly) {sockets : Sockets} {env : Environment}
    {beyond : List UInt8} (hstep : self.loopStep ndebug sockets env beyond = some next) :
    next.Orderly := by
  rw [loopStep] at hstep
  split at hstep
  case h_1 => contradiction
  case h_2 hpc =>
    split at hstep
    · cases hstep
      exact h.abort (by rintro ⟨⟩)
    · cases hstep
      exact h.loop (by rw [hpc]; rfl) _ (.inl rfl)
  case h_3 res hpc =>
    split at hstep
    · cases hstep
      exact h.abort (by rintro ⟨⟩)
    · rename_i out node_ _
      cases hstep
      apply foldl_onComplete_orderly
      refine h.loop (by rw [hpc]; rfl) node_ ?_
      obtain hafter | hafter | ⟨e, hafter⟩ := LoopPc.after_cases out
      · exact .inl (by rw [hafter]; rfl)
      · exact .inr hafter
      · exact .inl (by rw [hafter]; rfl)
  case h_4 e hpc =>
    cases hstep
    have hthread : self.thread_ = true := h.joinable.mpr (by rw [hpc]; rintro ⟨⟩)
    constructor
    case joinable => exact iff_of_true hthread (by rintro ⟨⟩)
    case joined => exact h.joined
    case waits => exact fun _ => .inl hthread
    case accounts =>
      rw [h.accounts, h.fresh (by rw [hpc]; rfl), Option.toList_none, List.append_nil]
      rfl
    case lives => exact h.lives
    all_goals rintro ⟨⟩
  case h_5 hpc =>
    cases hstep
    exact h.leave (by rw [hpc]; rintro ⟨⟩) (.inl ⟨rfl, rfl⟩)
  case h_6 hpc =>
    cases hstep
    exact h.leave (by rw [hpc]; rintro ⟨⟩) (.inr ⟨rfl, h.clearConnected hpc, rfl⟩)
  case h_7 => contradiction

theorem operate_orderly (h : self.Orderly) (hidle : self.user = .idle) (target_node : PyTargetNode)
    (command : Command) (data : Option (List UInt8)) (env : Environment) :
    (self.operate ndebug target_node command data env).Orderly := by
  rw [operate]
  split
  · exact h.answer (by rw [hidle]; rfl) _
  · dsimp only
    split
    · exact h.abort (by rintro ⟨⟩)
    · exact (h.quiet _ _ self.abandoned self.results).stay (by rw [hidle]; rfl)

theorem enter_orderly (h : self.Orderly) (hidle : self.user = .idle) {l : Label}
    (hstep : self.enter ndebug l = some next) : next.Orderly := by
  have hplace : self.user.place = .plain := by rw [hidle]; rfl
  have hstop : ∀ destroying, (self.enterStop destroying).Orderly := by
    intro destroying
    rw [enterStop]
    split
    · exact h.stay hplace.symm
    · exact h.stay hplace.symm
  cases l with
  | start =>
      cases hstep
      rw [enterStart]
      split
      · exact h.answer hplace _
      · split
        · exact h.stay hplace.symm
        · rename_i hthread
          refine h.move (eq_false_of_ne_true hthread) ?_ ?_
          · rw [hplace]
            rintro ⟨⟩
          · rw [hplace]
            rintro ⟨⟩
  | stop =>
      cases hstep
      exact hstop false
  | destroy =>
      cases hstep
      exact hstop true
  | read target_node memory_address data_length env =>
      cases hstep
      exact operate_orderly h hidle ..
  | write target_node memory_address data env =>
      cases hstep
      exact operate_orderly h hidle ..
  | user sockets => contradiction
  | expire => contradiction
  | loop sockets env beyond => contradiction

theorem expire_orderly (h : self.Orderly) (hstep : self.expire = some next) : next.Orderly := by
  rw [expire] at hstep
  split at hstep
  · rename_i operation data hpc
    split at hstep
    · contradiction
    · cases hstep
      exact (h.quiet self.node_ self.reads _ self.results).answer (by rw [hpc]; rfl) _
  · contradiction

theorem step_cases {l : Label} (hstep : self.step ndebug l = some next) :
    self.crash = none ∧
      ((∃ sockets, self.userStep sockets = some next) ∨ self.expire = some next ∨
        (∃ sockets env beyond, self.loopStep ndebug sockets env beyond = some next) ∨
        self.user = .idle ∧ self.enter ndebug l = some next) := by
  unfold step at hstep
  split at hstep
  · contradiction
  · rename_i hcrash
    refine ⟨by simpa using hcrash, ?_⟩
    split at hstep
    · exact .inl ⟨_, hstep⟩
    · exact .inr (.inl hstep)
    · exact .inr (.inr (.inl ⟨_, _, _, hstep⟩))
    · split at hstep
      · rename_i hidle
        exact .inr (.inr (.inr ⟨hidle, hstep⟩))
      · contradiction

theorem step_orderly (h : self.Orderly) {l : Label} (hstep : self.step ndebug l = some next) :
    next.Orderly := by
  obtain ⟨-, ⟨sockets, huser⟩ | hexpire | ⟨sockets, env, beyond, hloop⟩ | ⟨hidle, henter⟩⟩ :=
    step_cases hstep
  · exact userStep_orderly h huser
  · exact expire_orderly h hexpire
  · exact loopStep_orderly h hloop
  · exact enter_orderly h hidle henter

theorem orderly_of_reaches {source : Backend}
    (h : Reaches (step ndebug) always (new source) self) : self.Orderly := by
  apply h.invariant
  · constructor
    case joinable => exact iff_of_false Bool.false_ne_true fun hne => hne rfl
    case joined => exact fun hne => absurd rfl hne
    case waits => exact fun hsome => absurd rfl hsome
    case absent => exact fun _ => .inr ⟨rfl, rfl⟩
    case accounts => rfl
    all_goals rintro ⟨⟩
  · intro s t l _ _ hstep hs
    exact step_orderly hs hstep

/-- However the calls and the thread interleave, no thread object is assigned or destroyed that
can still be joined. After the join of a `stop` there is no thread and no flag is set, and a node
that was destroyed has left no thread behind. -/
theorem joined_of_reaches {source : Backend}
    (h : Reaches (step ndebug) always (new source) self) :
    self.crash ≠ some .terminate ∧
    (∀ destroying res, self.user = .stop destroying (.rethrow res) →
      self.loop = .absent ∧ self.running_ = false ∧ self.connected_ = false) ∧
    (self.user = .destroyed → self.loop = .absent) := by
  have horderly := orderly_of_reaches h
  refine ⟨horderly.lives, ?_, ?_⟩
  · intro destroying res hpc
    have hloop := horderly.absent_of_place (by rw [hpc]; rintro ⟨⟩)
    refine ⟨hloop, (horderly.absent hloop).resolve_left ?_⟩
    rw [hpc]
    rintro ⟨⟩
  · intro hpc
    exact horderly.absent_of_place (by rw [hpc]; rintro ⟨⟩)

/-- A node whose peer has closed, destroyed without a `stop`. -/
def closedByPeer : List Label :=
  [.start, .user {}, .user {}, .user {}, .user {}, .user {}, .loop {} {} [], .loop {} {} [],
    .loop {} {} [], .loop {} {} [], .loop {} {} [], .destroy, .user {}, .user {}, .user {},
    .user {}]

theorem joined_of_reaches_closedByPeer : ∃ s : PySpwRmapTCPNode,
    s.user = .destroyed ∧ s.crash ≠ some .terminate ∧
    (∀ destroying res, s.user = .stop destroying (.rethrow res) →
      s.loop = .absent ∧ s.running_ = false ∧ s.connected_ = false) ∧
    (s.user = .destroyed → s.loop = .absent) := by
  obtain ⟨s, hrun⟩ : ∃ s, run (step true) always (new { incoming := [] }) closedByPeer = some s :=
    ⟨_, rfl⟩
  have hdestroyed : s.user = .destroyed := eq_of_map_run hrun _ rfl
  exact ⟨s, hdestroyed, joined_of_reaches (.of_run hrun)⟩

/-- Every error that ended a loop is taken out by one `start` or `stop`, in their order: it waits
for its thread to be joined, the next thread does not find it, and none is left when the node is
idle without a thread or destroyed. -/
theorem raised_of_reaches {source : Backend}
    (h : Reaches (step ndebug) always (new source) self) :
    self.raised = self.reported ++ self.thread_error_.toList ∧
    (self.loop.loops = true → self.raised = self.reported) ∧
    (self.user = .idle ∧ self.thread_ = false ∨ self.user = .destroyed →
      self.raised = self.reported) := by
  have horderly := orderly_of_reaches h
  have hnone : self.thread_error_ = none → self.raised = self.reported := by
    intro hnone
    rw [horderly.accounts, hnone, Option.toList_none, List.append_nil]
  refine ⟨horderly.accounts, fun hloops => hnone (horderly.fresh hloops), ?_⟩
  rintro (⟨hpc, hthread⟩ | hpc)
  · apply hnone
    by_contra herror
    obtain hthread' | hplace := horderly.waits herror
    · rw [hthread] at hthread'
      contradiction
    · rw [hpc] at hplace
      contradiction
  · apply hnone
    exact horderly.noError_of_place (by rw [hpc]; rintro ⟨⟩) (by rw [hpc]; rintro ⟨⟩)

theorem raised_of_reaches_closedByPeer : ∃ s : PySpwRmapTCPNode,
    (s.user = .destroyed ∧ s.raised = [.errc .io_error]) ∧
    s.raised = s.reported ++ s.thread_error_.toList ∧
    (s.loop.loops = true → s.raised = s.reported) ∧
    (s.user = .idle ∧ s.thread_ = false ∨ s.user = .destroyed → s.raised = s.reported) := by
  obtain ⟨s, hrun⟩ : ∃ s, run (step true) always (new { incoming := [] }) closedByPeer = some s :=
    ⟨_, rfl⟩
  have hdestroyed : s.user = .destroyed := eq_of_map_run hrun _ rfl
  have hraised : s.raised = [.errc .io_error] := eq_of_map_run hrun _ rfl
  exact ⟨s, ⟨hdestroyed, hraised⟩, raised_of_reaches (.of_run hrun)⟩

end PySpwRmapTCPNode

end Python

end SpwRmap
