import SpwRmap.Node.Chunking
import SpwRmap.Node.Exchange
import SpwRmap.Node.Server

/-!
# Chunks are invisible over a whole life

TCP may cut a stream anywhere, and differently each time. Two clients, or two servers, that
make the same calls while the same bytes arrive in different chunks answer every call alike:
`poll` and `runLoop` return the same, the same callbacks run and the same futures are set, the
same bytes are sent. In the end they differ in nothing but the chunks still to come.
-/

namespace SpwRmap

open Span Stream Relational

/-- The same stream, cut into other chunks. -/
def Recut (source source' : Backend) : Prop :=
  ∃ delivery calls, source' = { source with delivery, calls }

/-- The same answers of the system calls, but for the chunks. -/
def Sockets.Recut (sockets sockets' : Sockets) : Prop :=
  ∃ delivery, sockets' = { sockets with delivery }

theorem Sockets.recut (sockets : Sockets) (delivery : Nat → Nat) :
    sockets.Recut { sockets with delivery } :=
  ⟨delivery, rfl⟩

namespace Receiver

/-- The same receiver, but for the chunks. -/
def SameStream (r s : Receiver) : Prop := r = s ∨ Alike r s

/-- What is to be told of a receiver: all but the chunks. -/
def whole (self : Receiver) : Receiver :=
  { self with tcp_backend_ := self.tcp_backend_.map fun backend =>
      { incoming := backend.incoming, atEnd := backend.atEnd } }

variable {r s : Receiver}

theorem SameStream.standsFor (h : SameStream r s) : r.StandsFor s := by
  obtain rfl | ⟨backend, delivery, calls, hb, rfl⟩ := h
  · exact ⟨rfl, rfl⟩
  · exact ⟨by rw [hb]; rfl, rfl⟩

theorem SameStream.packet_parser_eq (h : SameStream r s) :
    s.packet_parser_ = r.packet_parser_ := by
  obtain rfl | ⟨backend, delivery, calls, hb, rfl⟩ := h
  · rfl
  · rfl

theorem SameStream.whole_eq (h : SameStream r s) : r.whole = s.whole := by
  obtain rfl | ⟨backend, delivery, calls, hb, rfl⟩ := h
  · rfl
  · rw [whole, hb]
    rfl

/-- Without the backend there is no difference left. -/
theorem SameStream.dropBackend (h : SameStream r s) :
    { r with tcp_backend_ := none } = { s with tcp_backend_ := none } := by
  obtain rfl | ⟨backend, delivery, calls, hb, rfl⟩ := h
  · rfl
  · rfl

theorem SameStream.receiving (h : SameStream r s) {source source' : Backend}
    (hsource : SpwRmap.Recut source source') :
    SameStream { r with tcp_backend_ := r.tcp_backend_.map fun _ => source }
      { s with tcp_backend_ := s.tcp_backend_.map fun _ => source' } := by
  obtain ⟨delivery, calls, rfl⟩ := hsource
  cases hb : r.tcp_backend_ with
  | none =>
      obtain rfl | ⟨backend, _, _, hsome, -⟩ := h
      · left
        rw [hb]
        rfl
      · rw [hb] at hsome
        contradiction
  | some backend =>
      right
      refine ⟨source, delivery, calls, rfl, ?_⟩
      obtain rfl | ⟨backend, _, _, -, rfl⟩ := h
      · rw [hb]
        rfl
      · rfl

theorem recvAndParseOnePacket_parallel (h : SameStream r s) :
    Parallel SameStream r.recvAndParseOnePacket_ s.recvAndParseOnePacket_ := by
  obtain rfl | halike := h
  · apply (Agree.of_eq rfl fun _ _ => trivial).mono
    rintro p _ rfl
    exact ⟨rfl, .inl rfl⟩
  · obtain ⟨backend, delivery, calls, hb, hs⟩ := halike
    have hbackend : s.tcp_backend_ = some { backend with delivery, calls } := by
      rw [hs]
      rfl
    have hbuffer : s.wholeBuffer = r.wholeBuffer := by
      rw [hs]
      rfl
    rw [recvAndParseOnePacket_, recvAndParseOnePacket_, hb, hbackend, hbuffer]
    have hfuel : r.remaining.length < backend.incoming.length + 1 := by
      simp [remaining, hb]
    apply ((receiveLoop_alike _ ⟨backend, delivery, calls, hb, hs⟩ 0 r.wholeBuffer hfuel).weaken
      fun _ _ => trivial).mono
    rintro p q ⟨hres, halike, -⟩
    exact ⟨hres, .inr halike⟩

end Receiver

namespace Node

variable {self other : Node}

/-- Receiving from the same stream in other chunks. -/
theorem receive_parallel (h : Mirrors Receiver.SameStream self other) {source source' : Backend}
    (hsource : Recut source source') :
    Parallel Receiver.SameStream (self.receiving source).receiver.recvAndParseOnePacket_
      (other.receiving source').receiver.recvAndParseOnePacket_ := by
  obtain ⟨receiver, hr, -, rfl⟩ := h
  exact Receiver.recvAndParseOnePacket_parallel (hr.receiving hsource)

theorem Mirrors.received (h : Mirrors Receiver.SameStream self other) (source source' : Backend)
    {r s : Receiver} (hsame : Receiver.SameStream r s) :
    Mirrors Receiver.SameStream { self.receiving source with receiver := r }
      { other.receiving source' with receiver := s } := by
  obtain ⟨receiver, -, -, rfl⟩ := h
  exact ⟨s, hsame, hsame.standsFor, rfl⟩

theorem Mirrors.packet_parser_eq (h : Mirrors Receiver.SameStream self other) :
    other.receiver.packet_parser_ = self.receiver.packet_parser_ := by
  obtain ⟨receiver, hr, -, rfl⟩ := h
  exact hr.packet_parser_eq

theorem Mirrors.dropBackend (h : Mirrors Receiver.SameStream self other) :
    self.dropBackend = other.dropBackend := by
  obtain ⟨receiver, hr, -, rfl⟩ := h
  rw [Node.dropBackend, Node.dropBackend, hr.dropBackend]

theorem Mirrors.refl (self : Node) : Mirrors Receiver.SameStream self self :=
  ⟨self.receiver, .inl rfl, ⟨rfl, rfl⟩, rfl⟩

end Node

/-- The call has not returned yet. -/
def Answer.isRunning : Answer → Bool
  | .running => true
  | _ => false

/-- Calls that differ in the chunks only. -/
inductive ClientCall.Recut : ClientCall → ClientCall → Prop where
  | poll {sockets sockets' : Sockets} (env : Environment) :
      sockets.Recut sockets' → Recut (.poll sockets env) (.poll sockets' env)
  | runLoop {rounds rounds' : List (Sockets × Environment)} :
      List.Forall₂ (fun p q => p.1.Recut q.1 ∧ p.2 = q.2) rounds rounds' →
        Recut (.runLoop rounds) (.runLoop rounds')
  | same (call : ClientCall) : Recut call call

namespace Client

/-- Clients that differ in the chunks only. -/
def Mirrors (self other : Client) : Prop :=
  ∃ node, self.node.Mirrors Receiver.SameStream node ∧ other = { self with node }

/-- What is to be told of a client: all but the chunks. -/
def whole (self : Client) : Client :=
  { self with node := { self.node with receiver := self.node.receiver.whole } }

/-- The answers to a sequence of calls. A `runLoop` that does not return is the last of them. -/
def session (ndebug : Bool) (calls : List ClientCall) (self : Client) :
    Checked (List Answer × Client) :=
  Relational.session (call ndebug) Answer.isRunning calls self

variable {self other : Client}

theorem Mirrors.refl (self : Client) : self.Mirrors self := ⟨self.node, .refl self.node, rfl⟩

theorem Mirrors.hasBackend (h : self.Mirrors other) : other.hasBackend = self.hasBackend := by
  obtain ⟨node, ⟨receiver, -, hstands, rfl⟩, rfl⟩ := h
  exact hstands.backend

theorem Mirrors.whole_eq (h : self.Mirrors other) : self.whole = other.whole := by
  obtain ⟨node, ⟨receiver, hr, -, rfl⟩, rfl⟩ := h
  rw [whole, whole, hr.whole_eq]

theorem connect_parallel (h : self.Mirrors other) (sockets : Sockets) :
    Parallel Mirrors (self.connect sockets) (other.connect sockets) := by
  have hbackend := h.hasBackend
  obtain ⟨node, hnode, rfl⟩ := h
  rw [connect, connect, hbackend]
  split
  · dsimp only
    split
    · exact .ok ⟨node, hnode, rfl⟩ _
    · split
      · exact .ok ⟨node, hnode, rfl⟩ _
      · exact .ok ⟨node, hnode, rfl⟩ _
  · exact .error _

theorem setSendTimeout_parallel (h : self.Mirrors other) (timeout : Int) (sockets : Sockets) :
    Parallel Mirrors (pure (self.setSendTimeout timeout sockets) : Checked _)
      (pure (other.setSendTimeout timeout sockets)) := by
  have hmirrors := h
  have hbackend := h.hasBackend
  obtain ⟨node, hnode, rfl⟩ := h
  rw [setSendTimeout, setSendTimeout]
  split
  · exact .ok hmirrors _
  · have hsame : hasBackend { self with node, send_timeout_ := timeout } =
        hasBackend { self with send_timeout_ := timeout } := hbackend
    dsimp only
    rw [hsame]
    split
    · exact .ok ⟨node, hnode, rfl⟩ _
    · exact .ok ⟨node, hnode, rfl⟩ _

theorem shutdown_parallel (h : self.Mirrors other) {sockets sockets' : Sockets}
    (hrecut : sockets.Recut sockets') :
    Parallel Mirrors (pure (self.shutdown sockets) : Checked _)
      (pure (other.shutdown sockets')) := by
  obtain ⟨delivery, rfl⟩ := hrecut
  have hmirrors := h
  have hbackend := h.hasBackend
  obtain ⟨node, hnode, rfl⟩ := h
  have hanswer : TCPClient.shutdown self.fd_ { sockets with delivery } =
      TCPClient.shutdown self.fd_ sockets := rfl
  rw [shutdown, shutdown, hbackend]
  split
  · dsimp only
    rw [hanswer]
    split
    · exact .ok ⟨node, hnode, rfl⟩ _
    · exact .ok ⟨node.dropBackend, by rw [hnode.dropBackend]; exact .refl _, rfl⟩ _
  · exact .ok hmirrors _

theorem source_recut {sockets sockets' : Sockets} (h : sockets.Recut sockets') (fd_ : Bool) :
    Recut (TCPClient.source fd_ sockets) (TCPClient.source fd_ sockets') := by
  obtain ⟨delivery, rfl⟩ := h
  cases fd_ with
  | false => exact ⟨_, _, rfl⟩
  | true => exact ⟨delivery, _, rfl⟩

theorem poll_parallel (h : self.Mirrors other) (ndebug : Bool) {sockets sockets' : Sockets}
    (hrecut : sockets.Recut sockets') (env : Environment) :
    Parallel Mirrors (self.poll ndebug sockets env) (other.poll ndebug sockets' env) := by
  obtain ⟨node, hnode, rfl⟩ := h
  have hreceive := Node.receive_parallel hnode (source_recut hrecut self.fd_)
  rw [poll, poll]
  refine Impl.poll_parallel (M := Mirrors) (Agree.mono hreceive ?_) ?_ ?_ ?_
  · rintro ⟨res, r⟩ ⟨_, s⟩ ⟨rfl, hsame⟩
    have hreceived := hnode.received (TCPClient.source self.fd_ sockets)
      (TCPClient.source self.fd_ sockets') hsame
    exact ⟨rfl, _, hreceived, rfl⟩
  · rintro s t ⟨node, hnode, rfl⟩
    exact ⟨rfl, node, hnode, rfl⟩
  · intro s t hmirrors
    exact shutdown_parallel hmirrors hrecut
  · rintro s t ⟨node, hnode, rfl⟩
    have hparser : node.receiver.packet_parser_ = s.node.receiver.packet_parser_ :=
      hnode.packet_parser_eq
    dsimp only [impl]
    rw [hparser]
    refine Agree.mono (Node.pollPacket_parallel hnode ndebug _ _) ?_
    rintro ⟨res, p⟩ ⟨_, q⟩ ⟨rfl, hpolled⟩
    exact ⟨rfl, q, hpolled, rfl⟩

/-- By induction on the rounds. -/
theorem runLoop_parallel (h : self.Mirrors other) (ndebug : Bool)
    {rounds rounds' : List (Sockets × Environment)}
    (hrecut : List.Forall₂ (fun p q => p.1.Recut q.1 ∧ p.2 = q.2) rounds rounds') :
    Parallel Mirrors (runLoop ndebug rounds self) (runLoop ndebug rounds' other) := by
  induction hrecut generalizing self other with
  | nil => exact .ok h _
  | @cons round round' _ _ hround _ ih =>
      obtain ⟨sockets, env⟩ := round
      obtain ⟨sockets', _⟩ := round'
      obtain ⟨hsockets, rfl⟩ := hround
      rw [runLoop, runLoop]
      apply (poll_parallel h ndebug hsockets env).bind
      intro res self other hpolled
      cases res with
      | error e => exact .ok hpolled _
      | ok more =>
          cases more with
          | false => exact .ok hpolled _
          | true => exact ih hpolled

theorem call_parallel (h : self.Mirrors other) (ndebug : Bool) {call call' : ClientCall}
    (hrecut : call.Recut call') :
    Parallel Mirrors (self.call ndebug call) (other.call ndebug call') := by
  have hsend (call : SendCall) :
      Parallel Mirrors (self.call ndebug call.client) (other.call ndebug call.client) := by
    rw [call_client, call_client]
    obtain ⟨node, hnode, rfl⟩ := h
    apply (Node.sendCall_parallel hnode ndebug self.environment call).bind
    intro answer node node' hsent
    exact .ok ⟨node', hsent, rfl⟩ _
  have hstatus {x y : Checked (Except ErrorCode Unit × Client)} (hxy : Parallel Mirrors x y) :
      Parallel Mirrors (x >>= fun r => .ok (Answer.status r.1, r.2))
        (y >>= fun r => .ok (Answer.status r.1, r.2)) :=
    hxy.bind fun res self other hmirrors => .ok hmirrors _
  cases hrecut with
  | poll env hsockets =>
      apply (poll_parallel h ndebug hsockets env).bind
      intro res self other hpolled
      exact .ok hpolled _
  | runLoop hrounds => exact runLoop_parallel h ndebug hrounds
  | same call =>
      cases call with
      | connect sockets => exact hstatus (connect_parallel h sockets)
      | setSendTimeout timeout sockets => exact hstatus (setSendTimeout_parallel h timeout sockets)
      | shutdown sockets => exact hstatus (shutdown_parallel h (sockets.recut sockets.delivery))
      | isShutdowned =>
          obtain ⟨node, hnode, rfl⟩ := h
          exact .ok ⟨node, hnode, rfl⟩ _
      | poll sockets env =>
          apply (poll_parallel h ndebug (sockets.recut sockets.delivery) env).bind
          intro res self other hpolled
          exact .ok hpolled _
      | runLoop rounds =>
          apply runLoop_parallel h ndebug
          exact List.forall₂_same.mpr fun round _ => ⟨round.1.recut round.1.delivery, rfl⟩
      | read target_node memory_address size retry_count env =>
          exact hsend (.read target_node memory_address size retry_count env)
      | write target_node memory_address data retry_count env =>
          exact hsend (.write target_node memory_address data retry_count env)
      | readAsync target_node memory_address data_length env =>
          exact hsend (.readAsync target_node memory_address data_length env)
      | writeAsync target_node memory_address data env =>
          exact hsend (.writeAsync target_node memory_address data env)
      | emitTimeCode timecode env => exact hsend (.emitTimeCode timecode env)

/-- What is told of a session: the answers, and the client but for the chunks. -/
def told (p : List Answer × Client) : List Answer × Client := (p.1, p.2.whole)

/-- However TCP cuts what arrives, a client answers every sequence of calls alike, to the same
fault if there is one, and differs afterwards in the chunks only. -/
theorem session_recut (ndebug : Bool) (self : Client) {calls calls' : List ClientCall}
    (h : List.Forall₂ ClientCall.Recut calls calls') :
    (session ndebug calls self).map told = (session ndebug calls' self).map told := by
  have hparallel : Parallel Mirrors (session ndebug calls self) (session ndebug calls' self) := by
    refine session_parallel ?_ Answer.isRunning h (.refl self)
    intro self other call call' hmirrors hrecut
    exact call_parallel hmirrors ndebug hrecut
  apply hparallel.map_eq
  rintro ⟨answers, client⟩ ⟨_, client'⟩ ⟨rfl, hmirrors⟩
  rw [told, told, hmirrors.whole_eq]

/-- A write reply that comes byte by byte, or at once. -/
theorem session_recut_bytewise :
    let reply := (Frame.single (WriteReplyPacketBuilder.wire {})).encode
    (session true [.connect {}, .poll { incoming := reply } {}]
        (ofConfig {} { incoming := [] })).map told =
      (session true [.connect {}, .poll { incoming := reply, delivery := fun _ => 20 } {}]
        (ofConfig {} { incoming := [] })).map told :=
  session_recut true _ (.cons (.same _) (.cons (.poll _ ⟨fun _ => 20, rfl⟩) .nil))

end Client

/-- Calls that differ in the chunks only. -/
inductive ServerCall.Recut : ServerCall → ServerCall → Prop where
  | poll {sockets sockets' : Sockets} (env : Environment) :
      sockets.Recut sockets' → Recut (.poll sockets env) (.poll sockets' env)
  | runLoop {rounds rounds' : List (Sockets × Environment)} :
      List.Forall₂ (fun p q => p.1.Recut q.1 ∧ p.2 = q.2) rounds rounds' →
        Recut (.runLoop rounds) (.runLoop rounds')
  | same (call : ServerCall) : Recut call call

namespace Server

/-- Servers that differ in the chunks only. -/
def Mirrors (self other : Server) : Prop :=
  ∃ node, self.node.Mirrors Receiver.SameStream node ∧ other = { self with node }

/-- What is to be told of a server: all but the chunks. -/
def whole (self : Server) : Server :=
  { self with node := { self.node with receiver := self.node.receiver.whole } }

/-- The answers to a sequence of calls. A `runLoop` that does not return is the last of them. -/
def session (ndebug : Bool) (calls : List ServerCall) (self : Server) :
    Checked (List Answer × Server) :=
  Relational.session (call ndebug) Answer.isRunning calls self

variable {self other : Server}

theorem Mirrors.refl (self : Server) : self.Mirrors self := ⟨self.node, .refl self.node, rfl⟩

theorem Mirrors.hasBackend (h : self.Mirrors other) : other.hasBackend = self.hasBackend := by
  obtain ⟨node, ⟨receiver, -, hstands, rfl⟩, rfl⟩ := h
  exact hstands.backend

theorem Mirrors.whole_eq (h : self.Mirrors other) : self.whole = other.whole := by
  obtain ⟨node, ⟨receiver, hr, -, rfl⟩, rfl⟩ := h
  rw [whole, whole, hr.whole_eq]

theorem acceptOnce_parallel (h : self.Mirrors other)
    (addresses : Except ErrorCode (List Candidate)) (sockets : Sockets) :
    Parallel Mirrors (self.acceptOnce addresses sockets) (other.acceptOnce addresses sockets) := by
  have hbackend := h.hasBackend
  obtain ⟨node, hnode, rfl⟩ := h
  rw [acceptOnce, acceptOnce, hbackend]
  split
  · dsimp only
    split
    · exact .ok ⟨node, hnode, rfl⟩ _
    · split
      · split
        · exact .ok ⟨node, hnode, rfl⟩ _
        · exact .ok ⟨node, hnode, rfl⟩ _
      · exact .ok ⟨node, hnode, rfl⟩ _
  · exact .error _

theorem setSendTimeout_parallel (h : self.Mirrors other) (timeout : Int) (sockets : Sockets) :
    Parallel Mirrors (pure (self.setSendTimeout timeout sockets) : Checked _)
      (pure (other.setSendTimeout timeout sockets)) := by
  have hmirrors := h
  have hbackend := h.hasBackend
  obtain ⟨node, hnode, rfl⟩ := h
  rw [setSendTimeout, setSendTimeout]
  split
  · exact .ok hmirrors _
  · have hsame : hasBackend { self with node, send_timeout_ := timeout } =
        hasBackend { self with send_timeout_ := timeout } := hbackend
    dsimp only
    rw [hsame]
    split
    · exact .ok ⟨node, hnode, rfl⟩ _
    · exact .ok ⟨node, hnode, rfl⟩ _

theorem shutdown_parallel (h : self.Mirrors other) {sockets sockets' : Sockets}
    (hrecut : sockets.Recut sockets') :
    Parallel Mirrors (pure (self.shutdown sockets) : Checked _)
      (pure (other.shutdown sockets')) := by
  obtain ⟨delivery, rfl⟩ := hrecut
  have hmirrors := h
  have hbackend := h.hasBackend
  obtain ⟨node, hnode, rfl⟩ := h
  have hanswer : self.backend.shutdown { sockets with delivery } =
      self.backend.shutdown sockets := rfl
  rw [shutdown, shutdown, hbackend]
  split
  · dsimp only
    rw [hanswer]
    split
    · exact .ok ⟨node, hnode, rfl⟩ _
    · exact .ok ⟨node, hnode, rfl⟩ _
  · exact .ok hmirrors _

theorem source_recut {sockets sockets' : Sockets} (h : sockets.Recut sockets')
    (backend : TCPServer) : Recut (backend.source sockets) (backend.source sockets') := by
  obtain ⟨delivery, rfl⟩ := h
  rw [TCPServer.source, TCPServer.source]
  split
  · exact ⟨delivery, _, rfl⟩
  · exact ⟨_, _, rfl⟩

theorem poll_parallel (h : self.Mirrors other) (ndebug : Bool) {sockets sockets' : Sockets}
    (hrecut : sockets.Recut sockets') (env : Environment) :
    Parallel Mirrors (self.poll ndebug sockets env) (other.poll ndebug sockets' env) := by
  obtain ⟨node, hnode, rfl⟩ := h
  have hreceive := Node.receive_parallel hnode (source_recut hrecut self.backend)
  rw [poll, poll]
  refine Impl.poll_parallel (M := Mirrors) (Agree.mono hreceive ?_) ?_ ?_ ?_
  · rintro ⟨res, r⟩ ⟨_, s⟩ ⟨rfl, hsame⟩
    have hreceived := hnode.received (self.backend.source sockets) (self.backend.source sockets')
      hsame
    exact ⟨rfl, _, hreceived, rfl⟩
  · rintro s t ⟨node, hnode, rfl⟩
    exact ⟨rfl, node, hnode, rfl⟩
  · intro s t hmirrors
    exact shutdown_parallel hmirrors hrecut
  · rintro s t ⟨node, hnode, rfl⟩
    have hparser : node.receiver.packet_parser_ = s.node.receiver.packet_parser_ :=
      hnode.packet_parser_eq
    dsimp only [impl]
    rw [hparser]
    refine Agree.mono (Node.pollPacket_parallel hnode ndebug _ _) ?_
    rintro ⟨res, p⟩ ⟨_, q⟩ ⟨rfl, hpolled⟩
    exact ⟨rfl, q, hpolled, rfl⟩

/-- By induction on the rounds. -/
theorem runLoop_parallel (h : self.Mirrors other) (ndebug : Bool)
    {rounds rounds' : List (Sockets × Environment)}
    (hrecut : List.Forall₂ (fun p q => p.1.Recut q.1 ∧ p.2 = q.2) rounds rounds') :
    Parallel Mirrors (runLoop ndebug rounds self) (runLoop ndebug rounds' other) := by
  induction hrecut generalizing self other with
  | nil => exact .ok h _
  | @cons round round' _ _ hround _ ih =>
      obtain ⟨sockets, env⟩ := round
      obtain ⟨sockets', _⟩ := round'
      obtain ⟨hsockets, rfl⟩ := hround
      rw [runLoop, runLoop]
      apply (poll_parallel h ndebug hsockets env).bind
      intro res self other hpolled
      cases res with
      | error e => exact .ok hpolled _
      | ok more =>
          cases more with
          | false => exact .ok hpolled _
          | true => exact ih hpolled

theorem call_parallel (h : self.Mirrors other) (ndebug : Bool) {call call' : ServerCall}
    (hrecut : call.Recut call') :
    Parallel Mirrors (self.call ndebug call) (other.call ndebug call') := by
  have hstatus {x y : Checked (Except ErrorCode Unit × Server)} (hxy : Parallel Mirrors x y) :
      Parallel Mirrors (x >>= fun r => .ok (Answer.status r.1, r.2))
        (y >>= fun r => .ok (Answer.status r.1, r.2)) :=
    hxy.bind fun res self other hmirrors => .ok hmirrors _
  cases hrecut with
  | poll env hsockets =>
      apply (poll_parallel h ndebug hsockets env).bind
      intro res self other hpolled
      exact .ok hpolled _
  | runLoop hrounds => exact runLoop_parallel h ndebug hrounds
  | same call =>
      cases call with
      | acceptOnce addresses sockets => exact hstatus (acceptOnce_parallel h addresses sockets)
      | setSendTimeout timeout sockets => exact hstatus (setSendTimeout_parallel h timeout sockets)
      | shutdown sockets => exact hstatus (shutdown_parallel h (sockets.recut sockets.delivery))
      | isShutdowned =>
          obtain ⟨node, hnode, rfl⟩ := h
          exact .ok ⟨node, hnode, rfl⟩ _
      | poll sockets env =>
          apply (poll_parallel h ndebug (sockets.recut sockets.delivery) env).bind
          intro res self other hpolled
          exact .ok hpolled _
      | runLoop rounds =>
          apply runLoop_parallel h ndebug
          exact List.forall₂_same.mpr fun round _ => ⟨round.1.recut round.1.delivery, rfl⟩
      | send call =>
          obtain ⟨node, hnode, rfl⟩ := h
          apply (Node.sendCall_parallel hnode ndebug self.environment call).bind
          intro answer node node' hsent
          exact .ok ⟨node', hsent, rfl⟩ _

/-- What is told of a session: the answers, and the server but for the chunks. -/
def told (p : List Answer × Server) : List Answer × Server := (p.1, p.2.whole)

/-- However TCP cuts what arrives, a server answers every sequence of calls alike, to the same
fault if there is one, and differs afterwards in the chunks only. -/
theorem serves_recut (ndebug : Bool) (self : Server) {calls calls' : List ServerCall}
    (h : List.Forall₂ ServerCall.Recut calls calls') :
    (session ndebug calls self).map told = (session ndebug calls' self).map told := by
  have hparallel : Parallel Mirrors (session ndebug calls self) (session ndebug calls' self) := by
    refine session_parallel ?_ Answer.isRunning h (.refl self)
    intro self other call call' hmirrors hrecut
    exact call_parallel hmirrors ndebug hrecut
  apply hparallel.map_eq
  rintro ⟨answers, server⟩ ⟨_, server'⟩ ⟨rfl, hmirrors⟩
  rw [told, told, hmirrors.whole_eq]

/-- A command that comes byte by byte, or at once. -/
theorem serves_recut_bytewise :
    let command := (Frame.single (ReadPacketBuilder.wire { dataLength := 4 })).encode
    (session true [.acceptOnce (.ok [{}]) {}, .runLoop [({ incoming := command }, {})]]
        (ofConfig {} { incoming := [] })).map told =
      (session true [.acceptOnce (.ok [{}]) {},
        .runLoop [({ incoming := command, delivery := fun _ => 20 }, {})]]
        (ofConfig {} { incoming := [] })).map told :=
  serves_recut true _
    (.cons (.same _) (.cons (.runLoop (.cons ⟨⟨fun _ => 20, rfl⟩, rfl⟩ .nil)) .nil))

end Server

end SpwRmap
