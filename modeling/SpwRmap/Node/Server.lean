import Mathlib.Data.Finset.Option
import SpwRmap.Node.Commands
import SpwRmap.Socket.Server

/-!
# The life of a server

`SpwRmapTCPServer` adds to a node the two descriptors of its `TCPServer` and the flag
`shutdowned_`. Unlike a client it keeps its backend for good: `shutdown` ends the connection
and leaves the descriptor open, until the destructor closes what the two members hold then.
What `accept_once` has overwritten before is closed by nobody.

What the system calls answer is given with each call. The answers of `Sockets` that are
about connecting are not used; the addresses to listen on come with `acceptOnce`.
-/

namespace SpwRmap

open Span Outcome Transition Descriptors Relational

namespace TCPServer

def setSendTimeout (self : TCPServer) (timeout : Int) (sockets : Sockets) :
    Except ErrorCode Unit :=
  if timeout < 0 then
    .error (.errc .invalid_argument)
  else if self.client_fd_.isSome then
    sockets.setsockopt
  else
    .error TCPClient.badDescriptor

def shutdown (self : TCPServer) (sockets : Sockets) : Except ErrorCode Unit :=
  if self.client_fd_.isSome then sockets.shutdown else .error (.errc .bad_file_descriptor)

/-- What `recvSome` delivers. The end of the stream is zero bytes. -/
def source (self : TCPServer) (sockets : Sockets) : Backend :=
  if self.client_fd_.isSome then
    { incoming := sockets.incoming
      delivery := sockets.delivery
      atEnd := sockets.recv }
  else
    { incoming := [], atEnd := some TCPClient.badDescriptor }

/-- The destructor. -/
def destroy (self : TCPServer) : TCPServer := self.closeClient.closeListening

/-- Nothing that was opened goes out of sight: no address completes, or only the last one, and
an earlier connection is not overwritten. -/
def Tidy (self : TCPServer) (addresses : List Candidate) : Prop :=
  (∀ ai ∈ addresses, ai.completes = false) ∧
      (self.client_fd_ = none ∨ ∀ ai ∈ addresses, ai.reaches = false) ∨
    self.client_fd_ = none ∧ ∃ front ai, addresses = front ++ [ai] ∧ ai.completes = true ∧
      ∀ other ∈ front, other.completes = false

end TCPServer

structure Server where
  node : Node
  /-- `*getBackend_()`. -/
  backend : TCPServer := {}
  shutdowned_ : Bool := false
  /-- In microseconds. -/
  send_timeout_ : Int

/-- One call with its arguments and everything its environment decides. -/
inductive ServerCall where
  | acceptOnce (addresses : Except ErrorCode (List Candidate)) (sockets : Sockets)
  | setSendTimeout (timeout : Int) (sockets : Sockets)
  | shutdown (sockets : Sockets)
  | isShutdowned
  | poll (sockets : Sockets) (env : Environment)
  | runLoop (rounds : List (Sockets × Environment))
  | send (call : SendCall)

namespace ServerCall

/-- Only `acceptOnce` has another backend. -/
def backendAfter (before : TCPServer) : ServerCall → TCPServer
  | .acceptOnce addresses _ => (before.accept_once addresses).2
  | _ => before

/-- The call loses no descriptor. -/
def Tidy (before : TCPServer) : ServerCall → Prop
  | .acceptOnce answer _ => ∀ addresses, answer = .ok addresses → before.Tidy addresses
  | _ => True

end ServerCall

namespace Server

def ofConfig (config : SpwRmapTCPNodeConfig) (source : Backend) : Server where
  node := Node.ofConfig config source
  send_timeout_ := config.send_timeout

/-- `getBackend_()` is not null. -/
def hasBackend (self : Server) : Bool := self.node.receiver.tcp_backend_.isSome

/-- `sendAll` goes to `send` at once, which needs a descriptor. -/
def environment (self : Server) (env : Environment) : Environment :=
  if self.backend.client_fd_.isSome then env
  else { env with sendAll := .failed TCPClient.badDescriptor 0 }

/-- If the timeout cannot be set, the connection is shut down and stays the server's. -/
def acceptOnce (self : Server) (addresses : Except ErrorCode (List Candidate))
    (sockets : Sockets) : Checked (Except ErrorCode Unit × Server) :=
  if self.hasBackend then
    let (res, backend) := self.backend.accept_once addresses
    let self := { self with backend }
    match res with
    | .error e => .ok (.error e, self)
    | .ok _ =>
        match self.backend.setSendTimeout self.send_timeout_ sockets with
        | .error timeout =>
            match self.backend.shutdown sockets with
            | .error e => .ok (.error e, self)
            | .ok _ => .ok (.error timeout, self)
        | .ok _ => .ok (.ok (), { self with shutdowned_ := false })
  else
    .error .nullPointer

def setSendTimeout (self : Server) (timeout : Int) (sockets : Sockets) :
    Except ErrorCode Unit × Server :=
  if timeout < 0 then
    (.error (.errc .invalid_argument), self)
  else
    let self := { self with send_timeout_ := timeout }
    if self.hasBackend then
      (self.backend.setSendTimeout timeout sockets, self)
    else
      (.ok (), self)

/-- The backend stays. -/
def shutdown (self : Server) (sockets : Sockets) : Except ErrorCode Unit × Server :=
  if self.hasBackend then
    let res := self.backend.shutdown sockets
    let self := { self with shutdowned_ := true }
    match res with
    | .error e => (.error e, self)
    | .ok _ => (.ok (), self)
  else
    (.ok (), self)

def impl (sockets : Sockets) : Impl Server where
  node := node
  withNode := fun self node => { self with node }
  isShutdowned := shutdowned_
  shutdown := fun self => self.shutdown sockets

def poll (ndebug : Bool) (self : Server) (sockets : Sockets) (env : Environment) :
    Checked (Except ErrorCode Bool × Server) :=
  (impl sockets).poll ndebug
    { self with node := self.node.receiving (self.backend.source sockets) }
    (self.environment env)

/-- The loop of `runLoop`, for as many rounds as are given. -/
def runLoop (ndebug : Bool) : List (Sockets × Environment) → Server → Checked (Answer × Server)
  | [], self => .ok (.running, self)
  | (sockets, env) :: rounds, self => do
      let (res, self) ← self.poll ndebug sockets env
      match res with
      | .error e => return (.status (.error e), self)
      | .ok false => return (.status (.ok ()), self)
      | .ok true => runLoop ndebug rounds self

def call (ndebug : Bool) (self : Server) : ServerCall → Checked (Answer × Server)
  | .acceptOnce addresses sockets => do
      let (res, self) ← self.acceptOnce addresses sockets
      return (.status res, self)
  | .setSendTimeout timeout sockets =>
      let (res, self) := self.setSendTimeout timeout sockets
      .ok (.status res, self)
  | .shutdown sockets =>
      let (res, self) := self.shutdown sockets
      .ok (.status res, self)
  | .isShutdowned => .ok (.flag self.shutdowned_, self)
  | .poll sockets env => do
      let (res, self) ← self.poll ndebug sockets env
      return (.polled res, self)
  | .runLoop rounds => runLoop ndebug rounds self
  | .send call => do
      let (answer, node) ← self.node.sendCall ndebug self.environment call
      return (answer, { self with node })

/-- The next call starts after this one has returned. -/
def step (ndebug : Bool) (self : Server) (call : ServerCall) : Option Server :=
  match self.call ndebug call with
  | .error _ => none
  | .ok (.running, _) => none
  | .ok (_, self) => some self

/-- The server polls as its node does, with the two virtual functions of the server. -/
theorem poll_node (ndebug : Bool) (self : Server) (sockets : Sockets) (env : Environment) :
    (self.poll ndebug sockets env).map (fun r => (r.1, r.2.node)) =
      (self.node.receiving (self.backend.source sockets)).poll ndebug
        (Role.server.derived self.shutdowned_ (self.backend.shutdown sockets))
        (self.environment env) := by
  apply Parallel.map_state_eq (f := node)
  apply Impl.poll_parallel (M := fun server polled => server.node = polled ∧
    server.backend = self.backend ∧ server.shutdowned_ = self.shutdowned_)
  · exact Parallel.refl (fun _ => ⟨rfl, rfl, rfl⟩) _
  · rintro server _ ⟨rfl, -, hflag⟩
    exact ⟨hflag, rfl⟩
  · rintro server _ ⟨rfl, hsame, -⟩
    dsimp only [impl, Derived.impl]
    rw [Server.shutdown, Role.derived, hsame]
    dsimp only
    by_cases hbackend : server.hasBackend = true
    · rw [if_pos hbackend, if_neg (by simpa [hasBackend, Option.isSome_iff_ne_none] using hbackend)]
      cases self.backend.shutdown sockets with
      | error e => exact Agree.ok ⟨rfl, rfl⟩
      | ok _ => exact Agree.ok ⟨rfl, rfl⟩
    · rw [if_neg hbackend, if_pos (by simpa [hasBackend] using hbackend)]
      exact Agree.ok ⟨rfl, rfl⟩
  · rintro server _ ⟨rfl, -, -⟩
    exact Parallel.refl (fun _ => rfl) _

/-- What every call finds: the operations are accounted for, and the backend is there. -/
structure Sound (server : Server) : Prop where
  accounted : ∃ cancelled, server.node.Accounted cancelled
  backend : server.hasBackend = true

/-- What a call leaves that accepts no connection. -/
structure Kept (before after : Server) : Prop where
  sound : after.Sound
  backend_eq : after.backend = before.backend

variable {self : Server} {ndebug : Bool}

theorem Sound.kept (hs : self.Sound) : Kept self self := ⟨hs, rfl⟩

theorem Kept.trans {a b c : Server} (h : Kept a b) (h' : Kept b c) : Kept a c :=
  ⟨h'.sound, h'.backend_eq.trans h.backend_eq⟩

theorem Sound.of_node (hs : self.Sound) {node : Node} {cancelled : List Nat}
    (haccounted : node.Accounted cancelled) (hreceiver : node.receiver = self.node.receiver) :
    Kept self { self with node := node } := by
  refine ⟨⟨⟨cancelled, haccounted⟩, ?_⟩, rfl⟩
  rw [hasBackend, hreceiver]
  exact hs.backend

theorem acceptOnce_sound (hs : self.Sound) (addresses : Except ErrorCode (List Candidate))
    (sockets : Sockets) :
    Yields Fault.OfData
      (fun r => r.2.Sound ∧ r.2.backend = (self.backend.accept_once addresses).2)
      (self.acceptOnce addresses sockets) := by
  have hkept : ∀ shutdowned_ : Bool, Sound { self with
      backend := (self.backend.accept_once addresses).2, shutdowned_ := shutdowned_ } :=
    fun _ => ⟨hs.accounted, hs.backend⟩
  rw [acceptOnce, if_pos hs.backend]
  dsimp only
  split
  · exact ⟨hkept _, rfl⟩
  · split
    · split
      · exact ⟨hkept _, rfl⟩
      · exact ⟨hkept _, rfl⟩
    · exact ⟨hkept _, rfl⟩

theorem setSendTimeout_kept (hs : self.Sound) (timeout : Int) (sockets : Sockets) :
    Kept self (self.setSendTimeout timeout sockets).2 := by
  have hkept : Kept self { self with send_timeout_ := timeout } :=
    ⟨⟨hs.accounted, hs.backend⟩, rfl⟩
  rw [setSendTimeout]
  split
  · exact hs.kept
  · dsimp only
    split
    · exact hkept
    · exact hkept

theorem shutdown_kept (hs : self.Sound) (sockets : Sockets) :
    Kept self (self.shutdown sockets).2 := by
  have hkept : Kept self { self with shutdowned_ := true } := ⟨⟨hs.accounted, hs.backend⟩, rfl⟩
  rw [shutdown]
  split
  · dsimp only
    split
    · exact hkept
    · exact hkept
  · exact hs.kept

theorem poll_kept (hs : self.Sound) (ndebug : Bool) (sockets : Sockets) (env : Environment) :
    Yields Fault.OfData (fun r => Kept self r.2) (self.poll ndebug sockets env) := by
  apply Impl.poll_yields fun _ hfault => hfault
  · intro receiver hbackend
    obtain ⟨cancelled, haccounted⟩ := hs.accounted
    refine ⟨⟨⟨cancelled, haccounted.receiver receiver⟩, ?_⟩, rfl⟩
    exact hbackend.trans (Option.isSome_map.trans hs.backend)
  · exact fun server hserver => hserver.trans (shutdown_kept hserver.sound sockets)
  · intro server packet hserver hbackend
    obtain ⟨cancelled, haccounted⟩ := hserver.sound.accounted
    apply (Node.pollPacket_accounted haccounted ndebug _ hbackend packet).mono
    rintro ⟨answer, node⟩ ⟨hnode, hsame⟩
    exact hserver.trans (hserver.sound.of_node hnode hsame)

/-- By induction on the rounds. -/
theorem runLoop_kept (hs : self.Sound) (ndebug : Bool) (rounds : List (Sockets × Environment)) :
    Yields Fault.OfData (fun r => Kept self r.2) (runLoop ndebug rounds self) := by
  induction rounds generalizing self with
  | nil => exact hs.kept
  | cons round rounds ih =>
      obtain ⟨sockets, env⟩ := round
      rw [runLoop]
      apply (poll_kept hs ndebug sockets env).bind
      rintro ⟨res, server⟩ hserver
      cases res with
      | error e => exact hserver
      | ok more =>
          cases more with
          | false => exact hserver
          | true => exact (ih hserver.sound).mono fun r hr => hserver.trans hr

/-- What a call leaves. -/
structure Left (call : ServerCall) (before after : Server) : Prop where
  sound : after.Sound
  backend_eq : after.backend = call.backendAfter before.backend

theorem call_left (hs : self.Sound) (ndebug : Bool) (call : ServerCall) :
    Yields Fault.OfData (fun r => Left call self r.2) (self.call ndebug call) := by
  cases call with
  | acceptOnce addresses sockets =>
      apply (acceptOnce_sound hs addresses sockets).bind
      exact fun r hr => ⟨hr.1, hr.2⟩
  | setSendTimeout timeout sockets =>
      have hkept := setSendTimeout_kept hs timeout sockets
      exact ⟨hkept.sound, hkept.backend_eq⟩
  | shutdown sockets =>
      have hkept := shutdown_kept hs sockets
      exact ⟨hkept.sound, hkept.backend_eq⟩
  | isShutdowned => exact ⟨hs, rfl⟩
  | poll sockets env =>
      apply (poll_kept hs ndebug sockets env).bind
      exact fun r hr => ⟨hr.sound, hr.backend_eq⟩
  | runLoop rounds =>
      exact (runLoop_kept hs ndebug rounds).mono fun r hr => ⟨hr.sound, hr.backend_eq⟩
  | send call =>
      obtain ⟨cancelled, haccounted⟩ := hs.accounted
      apply (Node.sendCall_accounted haccounted ndebug self.environment call).bind
      rintro ⟨answer, node⟩ ⟨⟨cancelled, hnode⟩, hsame⟩
      have hkept := hs.of_node hnode hsame
      exact ⟨hkept.sound, hkept.backend_eq⟩

theorem step_left (hs : self.Sound) {call : ServerCall} {server : Server}
    (h : self.step ndebug call = some server) : Left call self server := by
  have hleft := call_left hs ndebug call
  rw [step] at h
  split at h
  · contradiction
  · contradiction
  · rename_i answer next _ hcall
    cases h
    rw [hcall] at hleft
    exact hleft

theorem sound_of_reaches (config : SpwRmapTCPNodeConfig) (source : Backend) {server : Server}
    (h : Reaches (step ndebug) always (ofConfig config source) server) : server.Sound := by
  apply h.invariant
  · exact ⟨⟨[], Node.ofConfig_accounted config source⟩, rfl⟩
  · intro s t call _ _ hstep hs
    exact (step_left hs hstep).sound

/-- A server is always ready for the next call: whatever was called before, and however it
ended, no call follows a null pointer or runs on, and every one leaves the table of
transactions in order. -/
theorem call_of_reaches (ndebug : Bool) (config : SpwRmapTCPNodeConfig) (source : Backend)
    {server : Server} (h : Reaches (step ndebug) always (ofConfig config source) server)
    (call : ServerCall) :
    Yields Fault.OfData (fun r => r.2.Sound) (server.call ndebug call) :=
  (call_left (sound_of_reaches config source h) ndebug call).mono fun _ hr => hr.sound

/-- A server that has served one connection, was shut down and accepts the next one. -/
theorem call_of_reaches_accept : ∃ server : Server, server.shutdowned_ = true ∧
    Yields Fault.OfData (fun r => r.2.Sound) (server.call true (.acceptOnce (.ok [{}]) {})) := by
  obtain ⟨server, hreach, hflag⟩ : ∃ server : Server,
      Reaches (step true) always (ofConfig {} { incoming := [] }) server ∧
        server.shutdowned_ = true := by
    apply Reaches.exists_of_run [.acceptOnce (.ok [{}]) {}, .poll {} {}, .shutdown {}]
    decide +kernel
  exact ⟨server, hflag, call_of_reaches true _ _ hreach _⟩

end Server

namespace TCPServer

variable {self next : TCPServer} {addresses : List Candidate}

/-- Between two calls only a connection is held. -/
structure Held (server : TCPServer) : Prop where
  listening : server.listen_fd_ = none
  client : server.client_fd_.toFinset ⊆ server.descriptors.live

/-- What is open and not held. -/
def lost (self : TCPServer) : Finset Nat := self.descriptors.live \ self.client_fd_.toFinset

/-- Between two calls the destructor closes what is held. -/
theorem destroy_live (h : self.Held) : self.destroy.descriptors.live = self.lost := by
  have hlisten : self.closeClient.listen_fd_ = none := h.listening
  rw [destroy, closeListening, hlisten, lost]
  cases hclient : self.client_fd_ with
  | none => simp [closeClient, closingIn, hclient]
  | some fd => simp [closeClient, closingIn, hclient, Finset.erase_eq]

/-- What the loop leaves if `ai` is the last address that completes. -/
structure Overwritten (front rest : List Candidate) (before after : TCPServer)
    (mid : Descriptors) : Prop where
  extended : Extended before.descriptors mid
  live_eq : after.descriptors.live = insert (mid.next + 1) (insert mid.next mid.live)
  listening : after.listen_fd_ = if rest = [] then some mid.next else none
  client : after.client_fd_ =
    if ∃ ai ∈ rest, ai.reaches = true then none else some (mid.next + 1)
  /-- Only addresses that complete leave something open. -/
  mid_live : mid.live = before.descriptors.live ↔ ∀ other ∈ front, other.completes = false

/-- An address that completes leaves something open that was not open before. -/
theorem acceptLoop_opens (h : ∃ ai ∈ addresses, ai.completes = true)
    (last : Except ErrorCode Unit) (self : TCPServer) :
    ∃ d ∈ (acceptLoop addresses last self).2.descriptors.live, self.descriptors.next ≤ d := by
  induction addresses generalizing last self with
  | nil => simp at h
  | cons ai rest ih =>
      rw [acceptLoop_cons]
      by_cases hai : ai.completes = true
      · rw [tryAddress_completes self hai]
        have hextended := acceptLoop_extended rest (.ok ())
          { listen_fd_ := some self.descriptors.next
            client_fd_ := some (self.descriptors.next + 1)
            descriptors := self.descriptors.opening.opening
            accepted := self.accepted ++ [self.descriptors.next + 1] }
        refine ⟨self.descriptors.next, hextended.subset ?_, Nat.le_refl _⟩
        simp
      · have hrest : ∃ other ∈ rest, other.completes = true := by
          obtain ⟨other, hother, hcompletes⟩ := h
          obtain rfl | hother := List.mem_cons.mp hother
          · exact absurd hcompletes hai
          · exact ⟨other, hother, hcompletes⟩
        obtain ⟨d, hd, hle⟩ := ih hrest (self.tryAddress ai).1 (self.tryAddress ai).2
        exact ⟨d, hd, (acceptLoop_extended [ai] last self).next_le.trans hle⟩

theorem acceptLoop_overwritten (front : List Candidate) {rest : List Candidate} {ai : Candidate}
    (hcompletes : ai.completes = true) (hrest : ∀ other ∈ rest, other.completes = false)
    (last : Except ErrorCode Unit) (self : TCPServer) :
    ∃ mid, Overwritten front rest self (acceptLoop (front ++ ai :: rest) last self).2 mid := by
  have hextended := acceptLoop_extended front last self
  have hopens : (∃ other ∈ front, other.completes = true) →
      ∃ d ∈ (acceptLoop front last self).2.descriptors.live, self.descriptors.next ≤ d :=
    fun h => acceptLoop_opens h last self
  have hrestored : (∀ other ∈ front, other.completes = false) →
      Failed front self (acceptLoop front last self).2 := fun h => acceptLoop_failed h last self
  rw [acceptLoop_append, acceptLoop_cons]
  generalize (acceptLoop front last self).2 = mid at *
  rw [tryAddress_completes mid hcompletes]
  have hfailed := acceptLoop_failed hrest (.ok ())
    { listen_fd_ := some mid.descriptors.next
      client_fd_ := some (mid.descriptors.next + 1)
      descriptors := mid.descriptors.opening.opening
      accepted := mid.accepted ++ [mid.descriptors.next + 1] }
  refine ⟨mid.descriptors, hextended, ?_, ?_, hfailed.client, ?_⟩
  · rw [hfailed.restored.live_eq]
    rfl
  · split
    · rename_i hnil
      subst hnil
      rfl
    · rename_i hne
      exact hfailed.listening hne
  · constructor
    · intro hlive
      by_contra hsome
      have hexists : ∃ other ∈ front, other.completes = true := by
        simpa using hsome
      obtain ⟨d, hd, hle⟩ := hopens hexists
      rw [hlive] at hd
      exact absurd hle (Nat.not_le.mpr (self.descriptors.fresh d hd))
    · intro hnone
      exact (hrestored hnone).restored.live_eq

/-- What a call of `accept_once` does to the open descriptors. -/
structure Retained (before after : TCPServer) (tidy : Prop) : Prop where
  held : after.Held
  subset : before.lost ⊆ after.lost
  lost_iff : after.lost = before.lost ↔ tidy

/-- The lines after the loop close the listening socket of the last address. -/
def settle (self : TCPServer) : TCPServer :=
  match self.client_fd_ with
  | none => self
  | some _ => self.closeListening

theorem accept_once_snd (self : TCPServer) (addresses : List Candidate) :
    (self.accept_once (.ok addresses)).2 =
      (acceptLoop addresses (.error (.errc .invalid_argument)) self).2.settle := by
  rw [accept_once, settle]
  dsimp only
  generalize acceptLoop addresses (.error (.errc .invalid_argument)) self = r
  cases r.2.client_fd_ with
  | none => rfl
  | some fd => rfl

theorem settle_eq (h : self.listen_fd_ = none) : self.settle = self := by
  rw [settle]
  split
  · rfl
  · rw [closeListening, h, closingIn, ← h]

/-- No address completes: what is lost is the earlier connection, if it is overwritten. -/
theorem accept_once_retained_failed (h : self.Held)
    (hnone : ∀ ai ∈ addresses, ai.completes = false) :
    Retained self (self.accept_once (.ok addresses)).2 (self.Tidy addresses) := by
  have hfailed := acceptLoop_failed hnone (.error (.errc .invalid_argument)) self
  have hlisten : (acceptLoop addresses (.error (.errc .invalid_argument)) self).2.listen_fd_ =
      none := by
    cases addresses with
    | nil => exact h.listening
    | cons ai rest => exact hfailed.listening (List.cons_ne_nil _ _)
  have htidy : self.Tidy addresses ↔
      self.client_fd_ = none ∨ ¬∃ ai ∈ addresses, ai.reaches = true := by
    constructor
    · rintro (⟨-, hclient | hreaches⟩ | ⟨hclient, -⟩)
      · exact .inl hclient
      · exact .inr (by simpa using hreaches)
      · exact .inl hclient
    · intro hkept
      exact .inl ⟨hnone, hkept.imp_right fun hreaches => by simpa using hreaches⟩
  rw [accept_once_snd, settle_eq hlisten, htidy]
  generalize (acceptLoop addresses (.error (.errc .invalid_argument)) self).2 = next at *
  have hlive := hfailed.restored.live_eq
  by_cases hreaches : ∃ ai ∈ addresses, ai.reaches = true
  · have hclient : next.client_fd_ = none := by rw [hfailed.client, if_pos hreaches]
    have hlost : next.lost = self.descriptors.live := by simp [lost, hclient, hlive]
    refine ⟨⟨hlisten, by simp [hclient]⟩, ?_, ?_⟩
    · rw [hlost]
      exact Finset.sdiff_subset
    · rw [hlost, lost, eq_comm, Finset.sdiff_eq_self_iff_disjoint]
      cases hfd : self.client_fd_ with
      | none => simp
      | some fd =>
          have hmem : fd ∈ self.descriptors.live := h.client (by simp [hfd])
          simp [hreaches, hmem]
  · have hclient : next.client_fd_ = self.client_fd_ := by rw [hfailed.client, if_neg hreaches]
    have hlost : next.lost = self.lost := by rw [lost, lost, hclient, hlive]
    refine ⟨⟨hlisten, ?_⟩, hlost.ge, ?_⟩
    · rw [hclient, hlive]
      exact h.client
    · exact iff_of_true hlost (.inr hreaches)

/-- The last address completes: what is lost is what it overwrites. -/
theorem accept_once_retained_last (h : self.Held) {front : List Candidate} {ai : Candidate}
    (hcompletes : ai.completes = true) :
    Retained self (self.accept_once (.ok (front ++ [ai]))).2 (self.Tidy (front ++ [ai])) := by
  obtain ⟨mid, hover⟩ := acceptLoop_overwritten front hcompletes (List.forall_mem_nil _)
    (.error (.errc .invalid_argument)) self
  have htidy : self.Tidy (front ++ [ai]) ↔
      self.client_fd_ = none ∧ ∀ other ∈ front, other.completes = false := by
    constructor
    · rintro (⟨hnone, -⟩ | ⟨hclient, front', ai', happend, -, hfront⟩)
      · rw [hnone ai (by simp)] at hcompletes
        contradiction
      · obtain ⟨rfl, -⟩ := List.append_inj' happend rfl
        exact ⟨hclient, hfront⟩
    · rintro ⟨hclient, hfront⟩
      exact .inr ⟨hclient, front, ai, rfl, hcompletes, hfront⟩
  rw [accept_once_snd, htidy]
  generalize (acceptLoop (front ++ [ai]) (.error (.errc .invalid_argument)) self).2 = next at *
  have hclient : next.client_fd_ = some (mid.next + 1) := by simp [hover.client]
  have hlisten : next.listen_fd_ = some mid.next := by simp [hover.listening]
  have hsettle : next.settle = next.closeListening := by rw [settle, hclient]
  have hnext := mid.notMem_live (Nat.le_refl mid.next)
  have hsucc := mid.notMem_live (Nat.le_succ mid.next)
  have hlive : next.settle.descriptors.live = insert (mid.next + 1) mid.live := by
    rw [hsettle, closeListening, hlisten, closingIn, closing_live, hover.live_eq,
      Finset.erase_insert_of_ne (Nat.succ_ne_self _), Finset.erase_insert hnext]
  have hsettled : next.settle.client_fd_ = some (mid.next + 1) := by rw [hsettle, ← hclient]; rfl
  have hlost : next.settle.lost = mid.live := by
    rw [lost, hsettled, hlive, Option.toFinset_some, Finset.sdiff_singleton_eq_erase,
      Finset.erase_insert hsucc]
  refine ⟨⟨by rw [hsettle]; rfl, by simp [hsettled, hlive]⟩, ?_, ?_⟩
  · rw [hlost]
    exact Finset.sdiff_subset.trans hover.extended.subset
  · rw [hlost, ← hover.mid_live, lost]
    cases hfd : self.client_fd_ with
    | none => simp
    | some fd =>
        have hmem : fd ∈ mid.live := hover.extended.subset (h.client (by simp [hfd]))
        refine iff_of_false ?_ (by simp)
        intro heq
        rw [heq] at hmem
        simp at hmem

/-- Other addresses follow the one that completes: its listening socket is lost. -/
theorem accept_once_retained_overwritten {front rest : List Candidate} {ai : Candidate}
    (hcompletes : ai.completes = true) (hrest : ∀ other ∈ rest, other.completes = false)
    (hne : rest ≠ []) :
    Retained self (self.accept_once (.ok (front ++ ai :: rest))).2
      (self.Tidy (front ++ ai :: rest)) := by
  obtain ⟨mid, hover⟩ := acceptLoop_overwritten front hcompletes hrest
    (.error (.errc .invalid_argument)) self
  have huntidy : ¬self.Tidy (front ++ ai :: rest) := by
    rintro (⟨hnone, -⟩ | ⟨-, front', ai', happend, hlast, -⟩)
    · rw [hnone ai (by simp)] at hcompletes
      contradiction
    · -- The last address is one of those that do not complete.
      obtain ⟨init, other, rfl⟩ := (List.eq_nil_or_concat rest).resolve_left hne
      rw [List.concat_eq_append, ← List.cons_append, ← List.append_assoc] at happend
      obtain ⟨-, hother⟩ := List.append_inj' happend rfl
      cases hother
      rw [hrest ai' (by simp)] at hlast
      contradiction
  have hlisten := hover.listening
  rw [if_neg hne] at hlisten
  rw [accept_once_snd, settle_eq hlisten]
  generalize (acceptLoop (front ++ ai :: rest) (.error (.errc .invalid_argument)) self).2 = next
    at *
  have hclient : next.client_fd_.toFinset ⊆ {mid.next + 1} := by
    rw [hover.client]
    split
    · simp
    · simp
  have hkept : ∀ d ∈ insert mid.next mid.live, d ∈ next.lost := by
    intro d hd
    rw [lost, Finset.mem_sdiff, hover.live_eq]
    refine ⟨Finset.mem_insert_of_mem hd, fun hheld => ?_⟩
    obtain rfl := Finset.mem_singleton.mp (hclient hheld)
    obtain hself | hmid := Finset.mem_insert.mp hd
    · exact absurd hself (Nat.succ_ne_self _)
    · exact mid.notMem_live (Nat.le_succ mid.next) hmid
  refine ⟨⟨hlisten, ?_⟩, ?_, ?_⟩
  · rw [hover.live_eq]
    exact hclient.trans (by simp)
  · intro d hd
    exact hkept d (Finset.mem_insert_of_mem (hover.extended.subset (Finset.sdiff_subset hd)))
  · refine iff_of_false ?_ huntidy
    intro heq
    have hmem := hkept mid.next (Finset.mem_insert_self _ _)
    rw [heq, lost] at hmem
    have hlt := self.descriptors.fresh _ (Finset.sdiff_subset hmem)
    exact absurd hover.extended.next_le (Nat.not_le.mpr hlt)

theorem accept_once_retained (h : self.Held) (answer : Except ErrorCode (List Candidate)) :
    Retained self (self.accept_once answer).2
      (∀ addresses, answer = .ok addresses → self.Tidy addresses) := by
  cases answer with
  | error e => exact ⟨h, Finset.Subset.refl _, iff_of_true rfl nofun⟩
  | ok addresses =>
      have hiff : (∀ given, (.ok addresses : Except ErrorCode (List Candidate)) = .ok given →
          self.Tidy given) ↔ self.Tidy addresses :=
        ⟨fun h => h addresses rfl, fun h given hgiven => Except.ok.inj hgiven ▸ h⟩
      rw [hiff]
      by_cases hnone : ∀ ai ∈ addresses, ai.completes = false
      · exact accept_once_retained_failed h hnone
      obtain ⟨front, ai, rest, rfl, hcompletes, hrest⟩ := exists_last_completing hnone
      by_cases hne : rest = []
      · subst hne
        exact accept_once_retained_last h hcompletes
      · exact accept_once_retained_overwritten hcompletes hrest hne

end TCPServer

namespace Server

variable {self server : Server} {ndebug : Bool}

theorem backendAfter_retained {before : TCPServer} (h : before.Held) (call : ServerCall) :
    TCPServer.Retained before (call.backendAfter before) (call.Tidy before) := by
  cases call with
  | acceptOnce answer sockets => exact TCPServer.accept_once_retained h answer
  | _ => exact ⟨h, Finset.Subset.refl _, iff_of_true rfl trivial⟩

/-- Every call of the run is tidy in the state in which it is made. -/
def TidyRun (ndebug : Bool) : Server → List ServerCall → Prop
  | _, [] => True
  | self, call :: calls =>
      call.Tidy self.backend ∧ ∀ next, self.step ndebug call = some next →
        TidyRun ndebug next calls

/-- By induction on the calls. What is lost stays lost, so no later call makes up for an
untidy one. -/
theorem run_retained (hs : self.Sound) (hheld : self.backend.Held) {calls : List ServerCall}
    (h : run (step ndebug) always self calls = some server) :
    TCPServer.Retained self.backend server.backend (TidyRun ndebug self calls) := by
  induction calls generalizing self with
  | nil =>
      cases h
      exact ⟨hheld, Finset.Subset.refl _, iff_of_true rfl trivial⟩
  | cons call calls ih =>
      rw [run, if_pos trivial] at h
      obtain ⟨next, hstep, hrun⟩ := Option.bind_eq_some_iff.mp h
      have hleft := step_left hs hstep
      have hfirst := backendAfter_retained hheld call
      rw [← hleft.backend_eq] at hfirst
      have hrest := ih hleft.sound hfirst.held hrun
      refine ⟨hrest.held, hfirst.subset.trans hrest.subset, ?_⟩
      have htidy : TidyRun ndebug self (call :: calls) ↔
          call.Tidy self.backend ∧ TidyRun ndebug next calls := by
        rw [TidyRun]
        refine and_congr_right fun _ => ⟨fun h => h next hstep, ?_⟩
        intro h other hother
        cases hstep.symm.trans hother
        exact h
      rw [htidy, ← hfirst.lost_iff, ← hrest.lost_iff]
      constructor
      · intro heq
        have hsame : next.backend.lost = self.backend.lost :=
          Finset.Subset.antisymm (heq ▸ hrest.subset) hfirst.subset
        exact ⟨hsame, heq.trans hsame.symm⟩
      · rintro ⟨hsame, heq⟩
        exact heq.trans hsame

/-- A server that is destroyed after any calls leaves nothing open, exactly if every one of
its `acceptOnce` was tidy: it found no earlier connection, and of its addresses none
completed or only the last one. What it would leave open is open for good: whatever calls
follow, a later destruction leaves it open as well. -/
theorem destroy_live_iff (ndebug : Bool) (config : SpwRmapTCPNodeConfig) (source : Backend)
    {calls : List ServerCall} {server : Server}
    (h : run (step ndebug) always (ofConfig config source) calls = some server) :
    (server.backend.destroy.descriptors.live = ∅ ↔
      TidyRun ndebug (ofConfig config source) calls) ∧
    ∀ (later : List ServerCall) (last : Server), run (step ndebug) always server later = some last →
      server.backend.destroy.descriptors.live ⊆ last.backend.destroy.descriptors.live := by
  have hs : (ofConfig config source).Sound :=
    ⟨⟨[], Node.ofConfig_accounted config source⟩, rfl⟩
  have hheld : (ofConfig config source).backend.Held := ⟨rfl, Finset.empty_subset _⟩
  have hretained := run_retained hs hheld h
  have hlive := TCPServer.destroy_live hretained.held
  refine ⟨?_, ?_⟩
  · rw [hlive, ← hretained.lost_iff]
    rfl
  · intro later last hlater
    have hserver := sound_of_reaches config source (.of_run h)
    have hlast := run_retained hserver hretained.held hlater
    rw [hlive, TCPServer.destroy_live hlast.held]
    exact hlast.subset

/-- A second connection after a shutdown: the first one is never closed. -/
theorem destroy_live_iff_twice : ∃ server : Server,
    server.backend.destroy.descriptors.live = {1} ∧
      ¬TidyRun true (ofConfig {} { incoming := [] })
        [.acceptOnce (.ok [{}]) {}, .shutdown {}, .acceptOnce (.ok [{}]) {}] := by
  obtain ⟨server, hrun⟩ : ∃ server, run (step true) always (ofConfig {} { incoming := [] })
      [.acceptOnce (.ok [{}]) {}, .shutdown {}, .acceptOnce (.ok [{}]) {}] = some server :=
    Option.isSome_iff_exists.mp (by decide +kernel)
  have hlive : server.backend.destroy.descriptors.live = {1} :=
    eq_of_map_run hrun (fun server => server.backend.destroy.descriptors.live)
      (by decide +kernel)
  refine ⟨server, hlive, ?_⟩
  rw [← (destroy_live_iff true _ _ hrun).1, hlive]
  exact Finset.singleton_ne_empty 1

end Server

end SpwRmap
