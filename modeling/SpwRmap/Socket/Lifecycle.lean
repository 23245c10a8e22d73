import SpwRmap.Node.Segments
import SpwRmap.Socket.Client

/-!
# The life of a client and its descriptors

`SpwRmapTCPClient` over the `TCPClient` that opens and closes sockets. The `Client` of
`Node` is the same class with less detail: of a descriptor it knows only whether there is
one, and of an address only whether it gets connected. Every call here is a call there, so
what holds of all lives of a `Client` holds here as well.

A backend that is destroyed closes its descriptor on the way.
-/

namespace SpwRmap.Socket

open Span Outcome Relational Descriptors

structure SpwRmapTCPClient where
  node : Node
  /-- `*getBackend_()`, as long as there is one. -/
  backend : TCPClient := {}
  shutdowned_ : Bool := false
  /-- In microseconds. -/
  send_timeout_ : Int

/-- One call. All calls but `connect` are those of a `Client`. -/
inductive SpwRmapTCPClient.Call where
  | connect (connect_timeout : Int) (answer : Except ErrorCode (List Address)) (sockets : Sockets)
  | setSendTimeout (timeout : Int) (sockets : Sockets)
  | shutdown (sockets : Sockets)
  | isShutdowned
  | poll (sockets : Sockets) (env : Environment)
  | runLoop (rounds : List (Sockets × Environment))
  | send (call : SendCall)

namespace SpwRmapTCPClient

def ofConfig (config : SpwRmapTCPNodeConfig) (source : Backend) : SpwRmapTCPClient where
  node := Node.ofConfig config source
  send_timeout_ := config.send_timeout

/-- `getBackend_()` is not null. -/
def hasBackend (self : SpwRmapTCPClient) : Bool := self.node.receiver.tcp_backend_.isSome

def environment (self : SpwRmapTCPClient) (env : Environment) : Environment :=
  if self.backend.fd_.isSome then env
  else { env with sendAll := .failed (.errc .not_connected) 0 }

def disconnect (self : SpwRmapTCPClient) : SpwRmapTCPClient :=
  { self with backend := self.backend.disconnect }

/-- Every failure disconnects, also that of a client that was connected before. -/
def connect (self : SpwRmapTCPClient) (connect_timeout : Int)
    (answer : Except ErrorCode (List Address)) (sockets : Sockets) :
    Checked (Except ErrorCode Unit × SpwRmapTCPClient) :=
  if self.hasBackend then
    let (res, backend) := self.backend.connect connect_timeout answer
    let self := { self with backend, shutdowned_ := false }
    match res with
    | .error e => .ok (.error e, self.disconnect)
    | .ok _ =>
        match SpwRmap.TCPClient.setSendTimeout self.backend.fd_.isSome self.send_timeout_
          sockets with
        | .error e => .ok (.error e, self.disconnect)
        | .ok _ => .ok (.ok (), self)
  else
    .error .nullPointer

def setSendTimeout (self : SpwRmapTCPClient) (timeout : Int) (sockets : Sockets) :
    Except ErrorCode Unit × SpwRmapTCPClient :=
  if timeout < 0 then
    (.error (.errc .invalid_argument), self)
  else
    let self := { self with send_timeout_ := timeout }
    if self.hasBackend then
      (SpwRmap.TCPClient.setSendTimeout self.backend.fd_.isSome timeout sockets, self)
    else
      (.ok (), self)

/-- `getBackend_() = nullptr` runs the destructor of the backend. -/
def shutdown (self : SpwRmapTCPClient) (sockets : Sockets) :
    Except ErrorCode Unit × SpwRmapTCPClient :=
  if self.hasBackend then
    let res := SpwRmap.TCPClient.shutdown self.backend.fd_.isSome sockets
    let self := { self with shutdowned_ := true }
    match res with
    | .error e => (.error e, self)
    | .ok _ => (.ok (), { self.disconnect with node := self.node.dropBackend })
  else
    (.ok (), self)

def impl (sockets : Sockets) : Impl SpwRmapTCPClient where
  node := node
  withNode := fun self node => { self with node }
  isShutdowned := shutdowned_
  shutdown := fun self => self.shutdown sockets

def poll (ndebug : Bool) (self : SpwRmapTCPClient) (sockets : Sockets) (env : Environment) :
    Checked (Except ErrorCode Bool × SpwRmapTCPClient) :=
  (impl sockets).poll ndebug
    { self with node := self.node.receiving (SpwRmap.TCPClient.source self.backend.fd_.isSome sockets) }
    (self.environment env)

/-- The loop of `runLoop`, for as many rounds as are given. -/
def runLoop (ndebug : Bool) : List (Sockets × Environment) → SpwRmapTCPClient →
    Checked (Answer × SpwRmapTCPClient)
  | [], self => .ok (.running, self)
  | (sockets, env) :: rounds, self => do
      let (res, self) ← self.poll ndebug sockets env
      match res with
      | .error e => return (.status (.error e), self)
      | .ok false => return (.status (.ok ()), self)
      | .ok true => runLoop ndebug rounds self

def call (ndebug : Bool) (self : SpwRmapTCPClient) : Call → Checked (Answer × SpwRmapTCPClient)
  | .connect connect_timeout answer sockets => do
      let (res, self) ← self.connect connect_timeout answer sockets
      return (.status res, self)
  | .setSendTimeout timeout sockets =>
      let (res, self) := self.setSendTimeout timeout sockets
      .ok (.status res, self)
  | .shutdown sockets =>
      let (res, self) := self.shutdown sockets
      .ok (.status res, self)
  | .isShutdowned => .ok (.flag self.shutdowned_, self)
  | .poll sockets env => do
      let (res, self) ← self.poll ndebug sockets env
      return (.polled res, self)
  | .runLoop rounds => runLoop ndebug rounds self
  | .send call => do
      let (answer, node) ← self.node.sendCall ndebug self.environment call
      return (answer, { self with node })

/-- The answers to a sequence of calls. -/
def session (ndebug : Bool) (calls : List Call) (self : SpwRmapTCPClient) :
    Checked (List Answer × SpwRmapTCPClient) :=
  Relational.session (call ndebug) Answer.isRunning calls self

/-- The client of `Node`. -/
def abstract (self : SpwRmapTCPClient) : Client where
  node := self.node
  fd_ := self.backend.fd_.isSome
  shutdowned_ := self.shutdowned_
  send_timeout_ := self.send_timeout_

def Call.abstract : Call → ClientCall
  | .connect connect_timeout answer sockets =>
      .connect { sockets with addresses := answer.map (·.map (·.outcome connect_timeout)) }
  | .setSendTimeout timeout sockets => .setSendTimeout timeout sockets
  | .shutdown sockets => .shutdown sockets
  | .isShutdowned => .isShutdowned
  | .poll sockets env => .poll sockets env
  | .runLoop rounds => .runLoop rounds
  | .send call => call.client

/-- The same answer, and the same client with less detail. -/
def forget {α : Type} (r : α × SpwRmapTCPClient) : α × Client := (r.1, r.2.abstract)

variable (self : SpwRmapTCPClient)

/-- A call that is left to the node. -/
theorem bind_node {α : Type} (out : Checked (α × Node)) :
    Except.map forget (out >>= fun r => .ok (r.1, { self with node := r.2 })) =
      out >>= fun r => .ok (forget (r.1, { self with node := r.2 })) := by
  cases out with
  | error fault => rfl
  | ok r => rfl

theorem connect_forget (connect_timeout : Int) (answer : Except ErrorCode (List Address))
    (sockets : Sockets) :
    (self.connect connect_timeout answer sockets).map forget = self.abstract.connect
      { sockets with addresses := answer.map (·.map (·.outcome connect_timeout)) } := by
  have hrefines := self.backend.connect_refines connect_timeout answer sockets
  rw [connect, Client.connect]
  by_cases hbackend : self.hasBackend = true
  · have habstract : self.abstract.hasBackend = true := hbackend
    rw [if_pos hbackend, if_pos habstract]
    dsimp only [abstract]
    rw [hrefines]
    generalize self.backend.connect connect_timeout answer = r
    obtain ⟨res, backend⟩ := r
    cases res with
    | error e => rfl
    | ok _ =>
        have htimeout : SpwRmap.TCPClient.setSendTimeout backend.fd_.isSome self.send_timeout_
            { sockets with addresses := answer.map (·.map (·.outcome connect_timeout)) } =
              SpwRmap.TCPClient.setSendTimeout backend.fd_.isSome self.send_timeout_ sockets := rfl
        dsimp only
        rw [htimeout]
        cases SpwRmap.TCPClient.setSendTimeout backend.fd_.isSome self.send_timeout_ sockets with
        | error e => rfl
        | ok _ => rfl
  · have habstract : ¬self.abstract.hasBackend = true := hbackend
    rw [if_neg hbackend, if_neg habstract]
    rfl

theorem setSendTimeout_forget (timeout : Int) (sockets : Sockets) :
    forget (self.setSendTimeout timeout sockets) =
      self.abstract.setSendTimeout timeout sockets := by
  rw [setSendTimeout, Client.setSendTimeout]
  split
  · rfl
  · dsimp only
    by_cases hbackend : self.hasBackend = true
    · rw [if_pos (by exact hbackend), if_pos (by exact hbackend)]
      rfl
    · rw [if_neg (by exact hbackend), if_neg (by exact hbackend)]
      rfl

theorem shutdown_forget (sockets : Sockets) :
    forget (self.shutdown sockets) = self.abstract.shutdown sockets := by
  rw [shutdown, Client.shutdown]
  by_cases hbackend : self.hasBackend = true
  · rw [if_pos hbackend, if_pos (by exact hbackend)]
    dsimp only [abstract]
    cases SpwRmap.TCPClient.shutdown self.backend.fd_.isSome sockets with
    | error e => rfl
    | ok _ => rfl
  · rw [if_neg hbackend, if_neg (by exact hbackend)]
    rfl

theorem poll_forget (ndebug : Bool) (sockets : Sockets) (env : Environment) :
    (self.poll ndebug sockets env).map forget = self.abstract.poll ndebug sockets env := by
  apply Parallel.map_state_eq (f := abstract)
  apply Impl.poll_parallel (M := fun client other => client.abstract = other)
  · apply Parallel.refl
    intro receiver
    rfl
  · rintro client _ rfl
    exact ⟨rfl, rfl⟩
  · rintro client _ rfl
    exact Parallel.of_map_eq (congrArg Except.ok (shutdown_forget client sockets))
  · rintro client _ rfl
    apply Parallel.refl
    intro node
    rfl

/-- By induction on the rounds. -/
theorem runLoop_forget (ndebug : Bool) (rounds : List (Sockets × Environment)) :
    (runLoop ndebug rounds self).map forget = Client.runLoop ndebug rounds self.abstract := by
  induction rounds generalizing self with
  | nil => rfl
  | cons round rounds ih =>
      obtain ⟨sockets, env⟩ := round
      rw [runLoop, Client.runLoop, ← poll_forget]
      cases self.poll ndebug sockets env with
      | error fault => rfl
      | ok r =>
          obtain ⟨res, client⟩ := r
          cases res with
          | error e => rfl
          | ok more =>
              cases more with
              | false => rfl
              | true => exact ih client

/-- Every call is one of the client with less detail. -/
theorem call_forget (ndebug : Bool) (call : Call) :
    (self.call ndebug call).map forget = self.abstract.call ndebug call.abstract := by
  cases call with
  | connect connect_timeout answer sockets =>
      rw [SpwRmapTCPClient.call, Call.abstract, Client.call, ← connect_forget]
      cases self.connect connect_timeout answer sockets with
      | error fault => rfl
      | ok r => rfl
  | setSendTimeout timeout sockets =>
      rw [SpwRmapTCPClient.call, Call.abstract, Client.call, ← setSendTimeout_forget]
      rfl
  | shutdown sockets =>
      rw [SpwRmapTCPClient.call, Call.abstract, Client.call, ← shutdown_forget]
      rfl
  | isShutdowned => rfl
  | poll sockets env =>
      rw [SpwRmapTCPClient.call, Call.abstract, Client.call, ← poll_forget]
      cases self.poll ndebug sockets env with
      | error fault => rfl
      | ok r => rfl
  | runLoop rounds => exact self.runLoop_forget ndebug rounds
  | send call =>
      rw [SpwRmapTCPClient.call, Call.abstract, Client.call_client]
      exact self.bind_node _

/-- What every call finds and leaves: the one descriptor that is open is the one in `fd_`, and
a client without a backend has none. -/
structure Held (client : SpwRmapTCPClient) : Prop where
  accounted : ∃ cancelled, client.node.Accounted cancelled
  owned : client.backend.Owned
  ended : client.hasBackend = false → client.backend.fd_ = none

variable {self}

theorem Held.of_node (h : self.Held) {node : Node} {cancelled : List Nat}
    (haccounted : node.Accounted cancelled) (hreceiver : node.receiver = self.node.receiver) :
    Held { self with node := node } := by
  refine ⟨⟨cancelled, haccounted⟩, h.owned, ?_⟩
  rw [hasBackend, hreceiver]
  exact h.ended

theorem connect_held (h : self.Held) (connect_timeout : Int)
    (answer : Except ErrorCode (List Address)) (sockets : Sockets) :
    Yields (fun _ => True) (fun r => Held r.2) (self.connect connect_timeout answer sockets) := by
  rw [connect]
  by_cases hbackend : self.hasBackend = true
  · rw [if_pos hbackend]
    have howned := TCPClient.connect_owned h.owned connect_timeout answer
    have hended : ∀ backend : TCPClient, self.hasBackend = false → backend.fd_ = none := by
      intro backend hnone
      rw [hbackend] at hnone
      contradiction
    have hheld : Held { self with
        backend := (self.backend.connect connect_timeout answer).2, shutdowned_ := false } :=
      ⟨h.accounted, howned, hended _⟩
    have hclosed : Held (disconnect { self with
        backend := (self.backend.connect connect_timeout answer).2, shutdowned_ := false }) :=
      ⟨h.accounted, TCPClient.disconnect_owned howned, hended _⟩
    dsimp only
    split
    · exact hclosed
    · split
      · exact hclosed
      · exact hheld
  · rw [if_neg hbackend]
    trivial

theorem setSendTimeout_held (h : self.Held) (timeout : Int) (sockets : Sockets) :
    (self.setSendTimeout timeout sockets).2.Held := by
  have hkept : Held { self with send_timeout_ := timeout } := ⟨h.accounted, h.owned, h.ended⟩
  rw [setSendTimeout]
  split
  · exact h
  · dsimp only
    split
    · exact hkept
    · exact hkept

theorem shutdown_held (h : self.Held) (sockets : Sockets) : (self.shutdown sockets).2.Held := by
  rw [shutdown]
  split
  · dsimp only
    split
    · exact ⟨h.accounted, h.owned, h.ended⟩
    · obtain ⟨cancelled, haccounted⟩ := h.accounted
      exact ⟨⟨cancelled, haccounted.receiver _⟩, TCPClient.disconnect_owned h.owned, fun _ => rfl⟩
  · exact h

theorem poll_held (h : self.Held) (ndebug : Bool) (sockets : Sockets) (env : Environment) :
    Yields (fun _ => True) (fun r => Held r.2) (self.poll ndebug sockets env) := by
  apply Impl.poll_yields fun _ _ => trivial
  · intro receiver hbackend
    obtain ⟨cancelled, haccounted⟩ := h.accounted
    refine ⟨⟨cancelled, haccounted.receiver receiver⟩, h.owned, fun hmissing => h.ended ?_⟩
    exact (hbackend.trans Option.isSome_map).symm.trans hmissing
  · exact fun client hclient => shutdown_held hclient sockets
  · intro client packet hclient hbackend
    obtain ⟨cancelled, haccounted⟩ := hclient.accounted
    apply ((Node.pollPacket_accounted haccounted ndebug _ hbackend packet).weaken
      fun _ _ => trivial).mono
    rintro ⟨answer, node⟩ ⟨hnode, hsame⟩
    exact hclient.of_node hnode hsame

/-- By induction on the rounds. -/
theorem runLoop_held (h : self.Held) (ndebug : Bool) (rounds : List (Sockets × Environment)) :
    Yields (fun _ => True) (fun r => Held r.2) (runLoop ndebug rounds self) := by
  induction rounds generalizing self with
  | nil => exact h
  | cons round rounds ih =>
      obtain ⟨sockets, env⟩ := round
      rw [runLoop]
      apply (poll_held h ndebug sockets env).bind
      rintro ⟨res, client⟩ hclient
      cases res with
      | error e => exact hclient
      | ok more =>
          cases more with
          | false => exact hclient
          | true => exact ih hclient

theorem call_held (h : self.Held) (ndebug : Bool) (call : Call) :
    Yields (fun _ => True) (fun r => Held r.2) (self.call ndebug call) := by
  cases call with
  | connect connect_timeout answer sockets =>
      apply (connect_held h connect_timeout answer sockets).bind
      exact fun r hr => hr
  | setSendTimeout timeout sockets => exact setSendTimeout_held h timeout sockets
  | shutdown sockets => exact shutdown_held h sockets
  | isShutdowned => exact h
  | poll sockets env =>
      apply (poll_held h ndebug sockets env).bind
      exact fun r hr => hr
  | runLoop rounds => exact runLoop_held h ndebug rounds
  | send call =>
      obtain ⟨cancelled, haccounted⟩ := h.accounted
      apply ((Node.sendCall_accounted haccounted ndebug self.environment call).weaken
        fun _ _ => trivial).bind
      rintro ⟨answer, node⟩ ⟨⟨cancelled, hnode⟩, hsame⟩
      exact h.of_node hnode hsame

variable (self) in
/-- Every sequence of calls is one of the client with less detail. -/
theorem session_forget (ndebug : Bool) (calls : List Call) :
    (self.session ndebug calls).map forget =
      Client.session ndebug (calls.map Call.abstract) self.abstract := by
  have hparallel : Parallel (fun client (t : Client) => client.abstract = t)
      (self.session ndebug calls)
      (Client.session ndebug (calls.map Call.abstract) self.abstract) := by
    refine session_parallel (Q := fun call (call' : ClientCall) => call.abstract = call') ?_
      Answer.isRunning ?_ rfl
    · rintro client _ call _ rfl rfl
      exact .of_map_eq (client.call_forget ndebug call)
    · rw [List.forall₂_map_right_iff, List.forall₂_same]
      exact fun _ _ => rfl
  exact hparallel.map_state_eq

/-- The descriptors of a client. -/
structure Lives (client : SpwRmapTCPClient) : Prop where
  /-- What is open is what `fd_` holds. -/
  live_eq : client.backend.files.descriptors.live = client.backend.fd_.toFinset
  /-- A successful shutdown has closed it. -/
  ended : client.hasBackend = false → client.backend.files.descriptors.live = ∅
  /-- So does the destructor. -/
  destroyed : client.disconnect.backend.files.descriptors.live = ∅

theorem Held.lives (h : self.Held) : self.Lives := by
  refine ⟨h.owned, fun hnone => ?_, TCPClient.disconnect_owned h.owned⟩
  rw [h.owned, h.ended hnone]
  rfl

/-- However a client is used, it is one that has no sockets to care for: the same calls have
the same answers, run into the same fault if there is one, and leave the same client but for
the sockets. And no descriptor is ever lost: what is open is what it holds, nothing after a
shutdown that succeeded, and nothing when it is destroyed. -/
theorem session_lives (ndebug : Bool) (config : SpwRmapTCPNodeConfig) (source : Backend)
    (calls : List Call) :
    ((ofConfig config source).session ndebug calls).map forget =
        Client.session ndebug (calls.map Call.abstract) (Client.ofConfig config source) ∧
      ∀ answers client, (ofConfig config source).session ndebug calls = .ok (answers, client) →
        client.Lives := by
  refine ⟨session_forget _ ndebug calls, ?_⟩
  intro answers client hrun
  have hinitial : (ofConfig config source).Held :=
    ⟨⟨[], Node.ofConfig_accounted config source⟩, rfl, by rintro ⟨⟩⟩
  have hheld : Yields (fun _ => True) (fun r => Held r.2)
      ((ofConfig config source).session ndebug calls) :=
    session_yields (P := Held) (fun _ call h => call_held h ndebug call) Answer.isRunning calls
      hinitial
  rw [hrun] at hheld
  exact hheld.lives

/-- A connection that was refused, one that came about, and a shutdown. -/
def refusedThenShutdown : List Call :=
  [.connect 100000 (.ok [{ connect := .failed 111 }]) {}, .connect 100000 (.ok [{}]) {},
    .shutdown {}]

theorem session_lives_shutdown : ∃ (answers : List Answer) (client : SpwRmapTCPClient),
    (ofConfig {} { incoming := [] }).session true refusedThenShutdown = .ok (answers, client) ∧
      client.backend.files.descriptors.next = 2 ∧ client.hasBackend = false ∧ client.Lives := by
  obtain ⟨r, hrun, hnext, hnone⟩ : ∃ r, (ofConfig {} { incoming := [] }).session true
      refusedThenShutdown = .ok r ∧ r.2.backend.files.descriptors.next = 2 ∧
        r.2.hasBackend = false := ⟨_, rfl, rfl, rfl⟩
  exact ⟨r.1, r.2, hrun, hnext, hnone, (session_lives true {} { incoming := [] } refusedThenShutdown).2
    r.1 r.2 hrun⟩

end SpwRmapTCPClient

end SpwRmap.Socket
