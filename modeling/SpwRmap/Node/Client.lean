import SpwRmap.Node.Accounts

/-!
# The life of a client

`SpwRmapTCPClient` adds three things to a node: the descriptor of its `TCPClient`, the
flag `shutdowned_` and the way the backend goes. A `shutdown` that succeeds destroys the
backend object, and nothing makes a new one. What the system calls answer while a call
runs is given with the call, as `Sockets`; on a descriptor that is not open they fail.

Every call that needs the backend looks for it first, except `connect`. So the one way
to follow the null pointer is to connect again after a shutdown.
-/

namespace SpwRmap

open Span Outcome Transition Relational

/-- What the system calls answer while one call of the client runs. -/
structure Sockets where
  /-- `getaddrinfo`, and for each address the outcome of making and connecting a socket. -/
  addresses : Except ErrorCode (List (Except ErrorCode Unit)) := .ok [.ok ()]
  setsockopt : Except ErrorCode Unit := .ok ()
  shutdown : Except ErrorCode Unit := .ok ()
  incoming : List UInt8 := []
  delivery : Nat → Nat := fun _ => 0
  /-- The error of `recv` after the last byte; without one the peer has closed. -/
  recv : Option ErrorCode := none

namespace TCPClient

/-- `EBADF`. -/
def badDescriptor : ErrorCode := .system 9

/-- The loop of `connect` over the addresses: `last`, and whether `fd_` is open. -/
def connectLoop : List (Except ErrorCode Unit) → Except ErrorCode Unit →
    Except ErrorCode Unit × Bool
  | [], last => (last, false)
  | .ok _ :: _, _ => (.ok (), true)
  | .error e :: rest, _ => connectLoop rest (.error e)

def connect (fd_ : Bool) (sockets : Sockets) : Except ErrorCode Unit × Bool :=
  if fd_ then
    (.error (.errc .already_connected), fd_)
  else
    match sockets.addresses with
    | .error e => (.error e, false)
    | .ok addresses => connectLoop addresses (.error (.errc .invalid_argument))

def setSendTimeout (fd_ : Bool) (timeout : Int) (sockets : Sockets) : Except ErrorCode Unit :=
  if timeout < 0 then
    .error (.errc .invalid_argument)
  else if fd_ then
    sockets.setsockopt
  else
    .error badDescriptor

def shutdown (fd_ : Bool) (sockets : Sockets) : Except ErrorCode Unit :=
  if fd_ then sockets.shutdown else .error (.errc .bad_file_descriptor)

/-- What `recvSome` delivers. The end of the stream is an error here. -/
def source (fd_ : Bool) (sockets : Sockets) : Backend :=
  if fd_ then
    { incoming := sockets.incoming
      delivery := sockets.delivery
      atEnd := some (sockets.recv.getD (.errc .io_error)) }
  else
    { incoming := [], atEnd := some badDescriptor }

end TCPClient

structure Client where
  node : Node
  /-- `fd_ >= 0`, while there is a backend. -/
  fd_ : Bool := false
  shutdowned_ : Bool := false
  /-- In microseconds. -/
  send_timeout_ : Int

/-- What the caller is told. A future is given by what it holds on return. -/
inductive Answer where
  | status (res : Except ErrorCode Unit)
  | polled (res : Except ErrorCode Bool)
  | future (value : Option (Except ErrorCode Unit))
  | flag (shutdowned_ : Bool)
  /-- `runLoop` has not returned yet. -/
  | running

/-- One call with its arguments and everything its environment decides. -/
inductive ClientCall where
  | connect (sockets : Sockets)
  | setSendTimeout (timeout : Int) (sockets : Sockets)
  | shutdown (sockets : Sockets)
  | isShutdowned
  | poll (sockets : Sockets) (env : Environment)
  | runLoop (rounds : List (Sockets × Environment))
  | read (target_node : TargetNode) (memory_address : UInt32) (size retry_count : Nat)
      (env : Nat → Environment)
  | write (target_node : TargetNode) (memory_address : UInt32) (data : List UInt8)
      (retry_count : Nat) (env : Nat → Environment)
  | readAsync (target_node : TargetNode) (memory_address data_length : UInt32) (env : Environment)
  | writeAsync (target_node : TargetNode) (memory_address : UInt32) (data : List UInt8)
      (env : Environment)
  | emitTimeCode (timecode : UInt8) (env : Environment)

namespace Client

def ofConfig (config : SpwRmapTCPNodeConfig) (backend : Backend) : Client where
  node := Node.ofConfig config backend
  send_timeout_ := config.send_timeout

/-- `getBackend_()` is not null. -/
def hasBackend (self : Client) : Bool := self.node.receiver.tcp_backend_.isSome

/-- Without a descriptor, `sendAll` returns at once. -/
def environment (self : Client) (env : Environment) : Environment :=
  if self.fd_ then env else { env with sendAll := .failed (.errc .not_connected) 0 }

/-- The backend is used without a look whether it is there. -/
def connect (self : Client) (sockets : Sockets) : Checked (Except ErrorCode Unit × Client) :=
  if self.hasBackend then
    let (res, fd_) := TCPClient.connect self.fd_ sockets
    let self := { self with fd_, shutdowned_ := false }
    match res with
    | .error e => .ok (.error e, { self with fd_ := false })
    | .ok _ =>
        match TCPClient.setSendTimeout self.fd_ self.send_timeout_ sockets with
        | .error e => .ok (.error e, { self with fd_ := false })
        | .ok _ => .ok (.ok (), self)
  else
    .error .nullPointer

def setSendTimeout (self : Client) (timeout : Int) (sockets : Sockets) :
    Except ErrorCode Unit × Client :=
  if timeout < 0 then
    (.error (.errc .invalid_argument), self)
  else
    let self := { self with send_timeout_ := timeout }
    if self.hasBackend then
      (TCPClient.setSendTimeout self.fd_ timeout sockets, self)
    else
      (.ok (), self)

def shutdown (self : Client) (sockets : Sockets) : Except ErrorCode Unit × Client :=
  if self.hasBackend then
    let res := TCPClient.shutdown self.fd_ sockets
    let self := { self with shutdowned_ := true }
    match res with
    | .error e => (.error e, self)
    | .ok _ => (.ok (), { self with node := self.node.dropBackend, fd_ := false })
  else
    (.ok (), self)

def impl (sockets : Sockets) : Impl Client where
  node := node
  withNode := fun self node => { self with node }
  isShutdowned := shutdowned_
  shutdown := fun self => self.shutdown sockets

def poll (ndebug : Bool) (self : Client) (sockets : Sockets) (env : Environment) :
    Checked (Except ErrorCode Bool × Client) :=
  (impl sockets).poll ndebug
    { self with node := self.node.receiving (TCPClient.source self.fd_ sockets) }
    (self.environment env)

/-- The loop of `runLoop`, for as many rounds as are given. -/
def runLoop (ndebug : Bool) : List (Sockets × Environment) → Client → Checked (Answer × Client)
  | [], self => .ok (.running, self)
  | (sockets, env) :: rounds, self => do
      let (res, self) ← self.poll ndebug sockets env
      match res with
      | .error e => return (.status (.error e), self)
      | .ok false => return (.status (.ok ()), self)
      | .ok true => runLoop ndebug rounds self

/-- `readAsync` and `writeAsync`. -/
def async (ndebug : Bool) (self : Client) (target_node : TargetNode) (command : Command)
    (env : Environment) : Checked (Answer × Client) := do
  let (async_op, node) ← self.node.start ndebug target_node (self.environment env) command
  return (.future (node.value async_op.future), { self with node })

/-- `read` and `write`. -/
def sync (ndebug : Bool) (self : Client) (target_node : TargetNode) (command : Command)
    (retry_count : Nat) (env : Nat → Environment) : Checked (Answer × Client) := do
  let (res, _, node) ← Node.attemptLoop ndebug target_node command (Node.attempts retry_count)
    self.node fun attempt => self.environment (env attempt)
  return (.status res, { self with node })

def call (ndebug : Bool) (self : Client) : ClientCall → Checked (Answer × Client)
  | .connect sockets => do
      let (res, self) ← self.connect sockets
      return (.status res, self)
  | .setSendTimeout timeout sockets =>
      let (res, self) := self.setSendTimeout timeout sockets
      .ok (.status res, self)
  | .shutdown sockets =>
      let (res, self) := self.shutdown sockets
      .ok (.status res, self)
  | .isShutdowned => .ok (.flag self.shutdowned_, self)
  | .poll sockets env => do
      let (res, self) ← self.poll ndebug sockets env
      return (.polled res, self)
  | .runLoop rounds => runLoop ndebug rounds self
  | .read target_node memory_address size retry_count env =>
      self.sync ndebug target_node (.read memory_address (UInt32.ofNat size)) retry_count env
  | .write target_node memory_address data retry_count env =>
      self.sync ndebug target_node (.write memory_address data) retry_count env
  | .readAsync target_node memory_address data_length env =>
      self.async ndebug target_node (.read memory_address data_length) env
  | .writeAsync target_node memory_address data env =>
      self.async ndebug target_node (.write memory_address data) env
  | .emitTimeCode timecode env => do
      let (res, node) ← self.node.emitTimeCode (self.environment env) timecode
      return (.status res, { self with node })

/-- The next call starts after this one has returned. -/
def step (ndebug : Bool) (self : Client) (call : ClientCall) : Option Client :=
  match self.call ndebug call with
  | .error _ => none
  | .ok (.running, _) => none
  | .ok (_, self) => some self

variable {self : Client} {cancelled : List Nat}

/-- The client polls as its node does, with the two virtual functions of the client. -/
theorem poll_node (ndebug : Bool) (self : Client) (sockets : Sockets) (env : Environment) :
    (self.poll ndebug sockets env).map (fun r => (r.1, r.2.node)) =
      (self.node.receiving (TCPClient.source self.fd_ sockets)).poll ndebug
        (Role.client.derived self.shutdowned_ (TCPClient.shutdown self.fd_ sockets))
        (self.environment env) := by
  apply Parallel.map_state_eq (f := node)
  apply Impl.poll_parallel (M := fun client polled =>
    client.node = polled ∧ client.fd_ = self.fd_ ∧ client.shutdowned_ = self.shutdowned_)
  · exact Parallel.refl (fun _ => ⟨rfl, rfl, rfl⟩) _
  · rintro client _ ⟨rfl, -, hflag⟩
    exact ⟨hflag, rfl⟩
  · rintro client _ ⟨rfl, hfd, -⟩
    dsimp only [impl, Derived.impl]
    rw [Client.shutdown, Role.derived, hfd]
    dsimp only
    by_cases hbackend : client.hasBackend = true
    · rw [if_pos hbackend, if_neg (by simpa [hasBackend, Option.isSome_iff_ne_none] using hbackend)]
      cases TCPClient.shutdown self.fd_ sockets with
      | error e => exact Agree.ok ⟨rfl, rfl⟩
      | ok _ => exact Agree.ok ⟨rfl, rfl⟩
    · rw [if_neg hbackend, if_pos (by simpa [hasBackend] using hbackend)]
      exact Agree.ok ⟨rfl, rfl⟩
  · rintro client _ ⟨rfl, -, -⟩
    exact Parallel.refl (fun _ => rfl) _

/-- What every call finds: the operations are accounted for, and a client that has lost
its backend was shut down. -/
structure Sound (client : Client) : Prop where
  accounted : ∃ cancelled, client.node.Accounted cancelled
  ended : client.hasBackend = false → client.shutdowned_ = true

theorem Sound.of_node (hs : self.Sound) {node : Node} {cancelled : List Nat}
    (haccounted : node.Accounted cancelled) (hreceiver : node.receiver = self.node.receiver) :
    Sound { self with node := node } := by
  refine ⟨⟨cancelled, haccounted⟩, ?_⟩
  rw [hasBackend, hreceiver]
  exact hs.ended

theorem connect_sound (hs : self.Sound) (hbackend : self.hasBackend = true) (sockets : Sockets) :
    Yields Fault.OfData (fun r => r.2.Sound) (self.connect sockets) := by
  have hkept : ∀ fd_ : Bool, Sound { self with fd_ := fd_, shutdowned_ := false } := by
    refine fun fd_ => ⟨hs.accounted, fun hnone => ?_⟩
    exact absurd hbackend (ne_of_eq_of_ne hnone Bool.false_ne_true)
  rw [connect, if_pos hbackend]
  dsimp only
  split
  · exact hkept false
  · split
    · exact hkept false
    · exact hkept _

theorem setSendTimeout_sound (hs : self.Sound) (timeout : Int) (sockets : Sockets) :
    (self.setSendTimeout timeout sockets).2.Sound := by
  have hkept : Sound { self with send_timeout_ := timeout } := ⟨hs.accounted, hs.ended⟩
  rw [setSendTimeout]
  split
  · exact hs
  · dsimp only
    split
    · exact hkept
    · exact hkept

theorem shutdown_sound (hs : self.Sound) (sockets : Sockets) :
    (self.shutdown sockets).2.Sound := by
  rw [shutdown]
  split
  · dsimp only
    split
    · exact ⟨hs.accounted, fun _ => rfl⟩
    · obtain ⟨cancelled, haccounted⟩ := hs.accounted
      exact ⟨⟨cancelled, haccounted.receiver _⟩, fun _ => rfl⟩
  · exact hs

theorem hasBackend_receiving (self : Client) (source : Backend) :
    (self.node.receiving source).receiver.tcp_backend_.isSome = self.hasBackend :=
  Option.isSome_map

theorem poll_sound (hs : self.Sound) (ndebug : Bool) (sockets : Sockets) (env : Environment) :
    Yields Fault.OfData (fun r => r.2.Sound) (self.poll ndebug sockets env) := by
  apply Impl.poll_yields fun _ hfault => hfault
  · intro receiver hbackend
    obtain ⟨cancelled, haccounted⟩ := hs.accounted
    refine ⟨⟨cancelled, haccounted.receiver receiver⟩, fun hnone => hs.ended ?_⟩
    exact (hbackend.trans (hasBackend_receiving self _)).symm.trans hnone
  · exact fun client hclient => shutdown_sound hclient sockets
  · intro client packet hclient hbackend
    obtain ⟨cancelled, haccounted⟩ := hclient.accounted
    apply (Node.pollPacket_accounted haccounted ndebug _ hbackend packet).mono
    rintro ⟨answer, node⟩ ⟨hnode, hsame⟩
    exact hclient.of_node hnode hsame

/-- By induction on the rounds. -/
theorem runLoop_sound (hs : self.Sound) (ndebug : Bool) (rounds : List (Sockets × Environment)) :
    Yields Fault.OfData (fun r => r.2.Sound) (runLoop ndebug rounds self) := by
  induction rounds generalizing self with
  | nil => exact hs
  | cons round rounds ih =>
      obtain ⟨sockets, env⟩ := round
      rw [runLoop]
      apply (poll_sound hs ndebug sockets env).bind
      rintro ⟨res, client⟩ hclient
      cases res with
      | error e => exact hclient
      | ok more =>
          cases more with
          | false => exact hclient
          | true => exact ih hclient

theorem async_sound (hs : self.Sound) (ndebug : Bool) (target_node : TargetNode)
    (command : Command) (env : Environment) :
    Yields Fault.OfData (fun r => r.2.Sound) (self.async ndebug target_node command env) := by
  obtain ⟨cancelled, haccounted⟩ := hs.accounted
  apply (Node.start_accounted haccounted ndebug _ target_node command).bind
  rintro ⟨async_op, node⟩ ⟨hnode, hsame, -⟩
  exact hs.of_node hnode hsame

theorem sync_sound (hs : self.Sound) (ndebug : Bool) (target_node : TargetNode)
    (command : Command) (retry_count : Nat) (env : Nat → Environment) :
    Yields Fault.OfData (fun r => r.2.Sound)
      (self.sync ndebug target_node command retry_count env) := by
  obtain ⟨cancelled, haccounted⟩ := hs.accounted
  apply (Node.attemptLoop_accounted ndebug target_node command _ haccounted _).bind
  rintro ⟨res, attempts, node⟩ ⟨hnode, hsame⟩
  exact hs.of_node hnode hsame

theorem emitTimeCode_sound (hs : self.Sound) (env : Environment) (timecode : UInt8) :
    Yields Fault.OfData (fun r => Sound { self with node := r.2 })
      (self.node.emitTimeCode env timecode) := by
  obtain ⟨cancelled, haccounted⟩ := hs.accounted
  rw [Node.emitTimeCode]
  split
  · exact hs
  · rename_i hbackend
    have hsome := Option.isNone_eq_false_iff.mp (eq_false_of_ne_true hbackend)
    rw [Node.timeCodePacket_eq]
    apply (self.node.sendAll_yields env hsome (Node.timeCodeFrame timecode)).mono
    intro r hsend
    exact hs.of_node (haccounted.transmits hsend.transmits) hsend.transmits.receiver_eq

end Client

def ClientCall.isConnect : ClientCall → Bool
  | .connect _ => true
  | _ => false

namespace Client

variable {self : Client}

theorem call_sound (hs : self.Sound) (ndebug : Bool) {call : ClientCall}
    (hconnect : call.isConnect = true → self.hasBackend = true) :
    Yields Fault.OfData (fun r => r.2.Sound) (self.call ndebug call) := by
  cases call with
  | connect sockets =>
      apply (connect_sound hs (hconnect rfl) sockets).bind
      exact fun r hr => hr
  | setSendTimeout timeout sockets => exact setSendTimeout_sound hs timeout sockets
  | shutdown sockets => exact shutdown_sound hs sockets
  | isShutdowned => exact hs
  | poll sockets env =>
      apply (poll_sound hs ndebug sockets env).bind
      exact fun r hr => hr
  | runLoop rounds => exact runLoop_sound hs ndebug rounds
  | read target_node memory_address size retry_count env =>
      exact sync_sound hs ndebug target_node _ retry_count env
  | write target_node memory_address data retry_count env =>
      exact sync_sound hs ndebug target_node _ retry_count env
  | readAsync target_node memory_address data_length env =>
      exact async_sound hs ndebug target_node _ env
  | writeAsync target_node memory_address data env =>
      exact async_sound hs ndebug target_node _ env
  | emitTimeCode timecode env =>
      apply (emitTimeCode_sound hs (self.environment env) timecode).bind
      exact fun r hr => hr

end Client

namespace Node

variable {self : Node} {cancelled : List Nat}

/-- A promise that was unset has the value it is given. -/
theorem value_append {operation : Nat} (hunset : self.settled operation = 0)
    (value : Except ErrorCode Unit) :
    (self.events ++ [Event.setValue operation value]).findSome? (Event.valueOf operation) =
      some value := by
  have hnone : self.events.findSome? (Event.valueOf operation) = none :=
    (value_eq_none_iff operation).mpr hunset
  rw [List.findSome?_append, hnone]
  simp [Event.valueOf]

/-- The future of an operation that could not be sent holds an error. -/
theorem start_not_connected (h : self.Accounted cancelled) (ndebug : Bool) (env : Environment)
    (target_node : TargetNode) (command : Command) (hnone : self.receiver.tcp_backend_ = none) :
    Yields Fault.OfData (fun r => ∃ e, r.2.value r.1.future = some (.error e))
      (self.start ndebug target_node env command) := by
  obtain ⟨res, node, hallocated, heq⟩ :=
    getAvailableTransactionID_allocated h ndebug env (self.operations + 1)
  rw [start_eq, startAsyncOperation_]
  dsimp only
  rw [heq, ok_bind]
  cases hallocated with
  | exhausted e => exact ⟨e, value_append (h.fresh _ (Nat.le_refl _)).1 (.error e)⟩
  | acquired node i now haccounted hrange hoperations hreceiver hi havailable =>
      rw [← hrange] at hi ⊢
      dsimp only
      rw [sendCommand_not_connected]
      · dsimp only [ok_bind]
        rw [releaseTransactionID_eq ndebug (i := i)]
        · have hunset := (haccounted.fresh self.operations hoperations.le).1
          exact ⟨.errc .not_connected, value_append hunset (.error (.errc .not_connected))⟩
        · exact node.range.index_identifier hi
      · rw [← hreceiver] at hnone
        exact hnone

theorem attemptLoop_not_connected (h : self.Accounted cancelled) (ndebug : Bool)
    (target_node : TargetNode) (command : Command) (attempts : Nat) (env : Nat → Environment)
    (hnone : self.receiver.tcp_backend_ = none) :
    Yields Fault.OfData (fun r => ∃ e, r.1 = .error e)
      (attemptLoop ndebug target_node command (attempts + 1) self env) := by
  rw [attemptLoop]
  apply (start_not_connected h ndebug (env 0) target_node command hnone).bind
  rintro ⟨async_op, node⟩ ⟨e, hvalue⟩
  dsimp only at hvalue ⊢
  rw [hvalue]
  exact ⟨e, rfl⟩

end Node

/-- The call has failed, or the operation it started has. -/
def Answer.Failed : Answer → Prop
  | .status (.error _) => True
  | .future (some (.error _)) => True
  | _ => False

/-- What a call without a backend answers: an error if it is to send, and that the client
was shut down if it is to receive. The others have no need of a backend. -/
def ClientCall.Refused (answer : Answer) : ClientCall → Prop
  | .read .. | .write .. | .readAsync .. | .writeAsync .. | .emitTimeCode .. => answer.Failed
  | .poll .. => answer = .polled (.ok false)
  | .runLoop .. => answer = .status (.ok ()) ∨ answer = .running
  | .connect .. | .setSendTimeout .. | .shutdown .. | .isShutdowned => True

namespace Client

variable {self : Client}

/-- The call follows no null pointer, and without a backend it says so. -/
structure CallSafe (ndebug : Bool) (client : Client) (call : ClientCall) : Prop where
  not_null : client.call ndebug call ≠ .error .nullPointer
  refused : client.hasBackend = false →
    Yields Fault.OfData (fun r => call.Refused r.1) (client.call ndebug call)

theorem poll_not_connected (hs : self.Sound) (ndebug : Bool) (sockets : Sockets)
    (env : Environment) (hnone : self.hasBackend = false) :
    ∃ client : Client, client.Sound ∧ client.hasBackend = false ∧
      self.poll ndebug sockets env = .ok (.ok false, client) := by
  let node := self.node.receiving (TCPClient.source self.fd_ sockets)
  have hsome : node.receiver.tcp_backend_.isSome = false :=
    (hasBackend_receiving self _).trans hnone
  have hmissing : node.receiver.tcp_backend_ = none := by
    cases hbackend : node.receiver.tcp_backend_ with
    | none => rfl
    | some backend =>
        rw [hbackend] at hsome
        contradiction
  have hreceive : node.receiver.recvAndParseOnePacket_ =
      .ok (.error (.errc .not_connected), node.receiver) := by
    rw [Receiver.recvAndParseOnePacket_, hmissing]
  obtain ⟨cancelled, haccounted⟩ := hs.accounted
  refine ⟨{ self with node }, ⟨⟨cancelled, haccounted.receiver _⟩, fun _ => hs.ended hnone⟩,
    hsome, ?_⟩
  rw [poll, Impl.poll]
  dsimp only [impl]
  rw [hreceive, ok_bind]
  dsimp only
  exact if_pos (hs.ended hnone)

/-- Every call but `connect` gets by without a backend. -/
theorem call_refused (hs : self.Sound) (ndebug : Bool) {call : ClientCall}
    (hconnect : call.isConnect = false) (hnone : self.hasBackend = false) :
    Yields Fault.OfData (fun r => call.Refused r.1) (self.call ndebug call) := by
  obtain ⟨cancelled, haccounted⟩ := hs.accounted
  have hmissing : self.node.receiver.tcp_backend_ = none :=
    Option.not_isSome_iff_eq_none.mp (ne_true_of_eq_false hnone)
  have hasync : ∀ target_node command env, Yields Fault.OfData (fun r => r.1.Failed)
      (self.async ndebug target_node command env) := by
    intro target_node command env
    apply (Node.start_not_connected haccounted ndebug _ target_node command hmissing).bind
    rintro ⟨async_op, node⟩ ⟨e, hvalue⟩
    dsimp only at hvalue ⊢
    rw [hvalue]
    trivial
  have hsync : ∀ target_node command retry_count env, Yields Fault.OfData (fun r => r.1.Failed)
      (self.sync ndebug target_node command retry_count env) := by
    intro target_node command retry_count env
    obtain ⟨attempts, hattempts⟩ : ∃ attempts, Node.attempts retry_count = attempts + 1 := by
      cases retry_count with
      | zero => exact ⟨0, rfl⟩
      | succ retries => exact ⟨retries, rfl⟩
    rw [sync, hattempts]
    apply (Node.attemptLoop_not_connected haccounted ndebug target_node command attempts _
      hmissing).bind
    rintro ⟨res, attempts, node⟩ ⟨e, hres⟩
    cases hres
    trivial
  cases call with
  | connect sockets => contradiction
  | setSendTimeout timeout sockets => trivial
  | shutdown sockets => trivial
  | isShutdowned => trivial
  | poll sockets env =>
      obtain ⟨client, -, -, hpoll⟩ := poll_not_connected hs ndebug sockets env hnone
      rw [call, hpoll]
      exact rfl
  | runLoop rounds =>
      cases rounds with
      | nil => exact .inr rfl
      | cons round rounds =>
          obtain ⟨sockets, env⟩ := round
          obtain ⟨client, -, -, hpoll⟩ := poll_not_connected hs ndebug sockets env hnone
          rw [call, runLoop, hpoll]
          exact .inl rfl
  | read target_node memory_address size retry_count env => exact hsync ..
  | write target_node memory_address data retry_count env => exact hsync ..
  | readAsync target_node memory_address data_length env => exact hasync ..
  | writeAsync target_node memory_address data env => exact hasync ..
  | emitTimeCode timecode env =>
      simp only [call, Node.emitTimeCode, hmissing]
      trivial

/-- `connect` does not look. -/
theorem call_connect_null (ndebug : Bool) {call : ClientCall} (hconnect : call.isConnect = true)
    (hnone : self.hasBackend = false) : self.call ndebug call = .error .nullPointer := by
  cases call with
  | connect sockets => simp [call, connect, hnone]
  | _ => contradiction

theorem step_eq {ndebug : Bool} {call : ClientCall} {client : Client}
    (h : self.step ndebug call = some client) :
    ∃ answer, self.call ndebug call = .ok (answer, client) := by
  rw [step] at h
  split at h
  · contradiction
  · contradiction
  · rename_i answer next _ hcall
    cases h
    exact ⟨answer, hcall⟩

theorem sound_of_reaches (ndebug : Bool) (config : SpwRmapTCPNodeConfig) (backend : Backend)
    {client : Client} (h : Reaches (step ndebug) always (ofConfig config backend) client) :
    client.Sound := by
  apply h.invariant
  · exact ⟨⟨[], Node.ofConfig_accounted config backend⟩, nofun⟩
  · intro s t call _ _ hstep hs
    obtain ⟨answer, hcall⟩ := step_eq hstep
    have hconnect : call.isConnect = true → s.hasBackend = true := by
      intro hconnect
      by_contra hnone
      rw [call_connect_null ndebug hconnect (eq_false_of_ne_true hnone)] at hcall
      contradiction
    have hsound := call_sound hs ndebug hconnect
    rw [hcall] at hsound
    exact hsound

/-- In every state that a run reaches, a call is safe unless it connects a client whose
backend a shutdown has destroyed. -/
theorem callSafe_iff (ndebug : Bool) (config : SpwRmapTCPNodeConfig) (backend : Backend)
    {client : Client} (h : Reaches (step ndebug) always (ofConfig config backend) client)
    (call : ClientCall) :
    CallSafe ndebug client call ↔ (call.isConnect = true → client.hasBackend = true) := by
  have hs := sound_of_reaches ndebug config backend h
  constructor
  · intro hsafe hconnect
    by_contra hnone
    exact hsafe.not_null (call_connect_null ndebug hconnect (eq_false_of_ne_true hnone))
  · intro hconnect
    refine ⟨(call_sound hs ndebug hconnect).excludes id, fun hnone => ?_⟩
    apply call_refused hs ndebug ?_ hnone
    apply eq_false_of_ne_true
    intro hcall
    rw [hconnect hcall] at hnone
    contradiction

/-- A client that was connected and shut down. -/
theorem exists_ended : ∃ client : Client,
    Reaches (step true) always (ofConfig {} { incoming := [] }) client ∧
      client.hasBackend = false := by
  apply Reaches.exists_of_run [.connect {}, .shutdown {}]
  decide +kernel

/-- It can still be polled. -/
theorem callSafe_iff_poll : ∃ client : Client, client.hasBackend = false ∧
    CallSafe true client (.poll {} {}) := by
  obtain ⟨client, hreach, hnone⟩ := exists_ended
  exact ⟨client, hnone, (callSafe_iff true _ _ hreach _).mpr nofun⟩

/-- It follows the null pointer when it is connected again. -/
theorem connect_after_shutdown : ∃ client : Client,
    Reaches (step true) always (ofConfig {} { incoming := [] }) client ∧
      client.call true (.connect {}) = .error .nullPointer ∧
      ¬CallSafe true client (.connect {}) := by
  obtain ⟨client, hreach, hnone⟩ := exists_ended
  have hnull : client.call true (.connect {}) = .error .nullPointer :=
    call_connect_null true rfl hnone
  exact ⟨client, hreach, hnull, fun hsafe => hsafe.not_null hnull⟩

end Client

end SpwRmap
