import SpwRmap.Lib.Transcript
import SpwRmap.Node.Faults
import SpwRmap.Node.Session

/-!
# The bytes of several threads on one socket

Threads of one node send commands, the replies of `poll` and time codes. A command or a
reply is built and sent under `send_buf_mtx_`; a time code is sent without it. `sendAll`
hands its bytes to the socket in any number of pieces, each of them a step of its own
here, and may fail before any piece. What the rest of a call does touches neither the
send buffer nor the socket, so a call is given by what it is to send.

`frames` and `wire` are no members of the source. They record the spans on which
`sendAll` was called and the bytes that the socket took, each byte with the number of
its call. `broken` tells that a call has failed with only a part of its frame taken.

The wire carries whole frames as long as no time code is begun while another send is in
progress, no send is begun while a time code is, and none after a broken one. The source
takes care of none of the three.
-/

namespace SpwRmap.Wire

open Span Outcome Transition Transcript

/-- What a call sends under `send_buf_mtx_`. -/
inductive Request where
  | command (target_node : TargetNode) (transaction_id : UInt16) (order : Command)
  | readReply (packet : Packet) (data : List UInt8)
  | writeReply (packet : Packet)

namespace Request

/-- The lines under the lock, of which the call of `sendAll` is the last. A call without a
backend does not get here: `poll` has received nothing, and a command has looked. -/
def send (ndebug : Bool) (env : Environment) (self : Node) (request : Request) :
    Checked (Except ErrorCode Unit × Node) :=
  if self.receiver.tcp_backend_.isNone then
    .ok (.error (.errc .not_connected), self)
  else
    match request with
    | .command target_node transaction_id order =>
        self.sendCommand ndebug target_node transaction_id env order
    | .readReply packet data => do
        let (res, self) ← self.sendReply env
          (ReadReplyPacketBuilder.getTotalSize (Node.readReplyConfig packet data))
          (ReadReplyPacketBuilder.build (Node.readReplyConfig packet data))
        return (res.map fun _ => (), self)
    | .writeReply packet => do
        let (res, self) ← self.sendReply env
          (WriteReplyPacketBuilder.getTotalSize (Node.writeReplyConfig packet))
          (WriteReplyPacketBuilder.build (Node.writeReplyConfig packet))
        return (res.map fun _ => (), self)

/-- The span on which `sendAll` is called, read off a run in which the socket takes all
of it; none if the call ends before. -/
def handOver (ndebug : Bool) (self : Node) (request : Request) :
    Checked (Option (List UInt8) × Node) := do
  let (res, node) ← request.send ndebug { sendAll := .sent } { self with sent := [] }
  match res with
  | .error _ => return (none, node)
  | .ok _ => return (some node.sent, node)

theorem send_yields (ndebug : Bool) (env : Environment) (self : Node) (request : Request) :
    Yields Fault.OfData (Node.Sends env self) (request.send ndebug env self) := by
  -- A reply succeeds with another value than a command.
  have hreply : ∀ r : Except ErrorCode Bool × Node, Node.Sends env self r →
      Node.Sends env self (r.1.map fun _ => (), r.2) := by
    rintro ⟨res, node⟩ ⟨htransmits, hframe⟩
    cases res with
    | error e => exact ⟨htransmits, nofun⟩
    | ok more => exact ⟨htransmits, fun hsend _ _ => hframe hsend more rfl⟩
  unfold send
  split
  · exact Node.Sends.refused _ self.send_buf_
  · rename_i hbackend
    have hsome := Option.isNone_eq_false_iff.mp (eq_false_of_ne_true hbackend)
    cases request with
    | command target_node transaction_id order =>
        exact self.sendCommand_yields ndebug env target_node transaction_id order
    | readReply packet data =>
        apply (self.sendReply_yields env hsome _ (ReadReplyPacketBuilder.build_contained _)).bind
        exact hreply
    | writeReply packet =>
        apply (self.sendReply_yields env hsome _ (WriteReplyPacketBuilder.build_contained _)).bind
        exact hreply

/-- What a call hands over is one frame. -/
theorem handOver_frame {ndebug : Bool} {self node : Node} {request : Request} {data : List UInt8}
    (h : request.handOver ndebug self = .ok (some data, node)) :
    ∃ frame : Frame, data = frame.encode := by
  have hsends := request.send_yields ndebug { sendAll := .sent } { self with sent := [] }
  rw [handOver] at h
  cases hsend : request.send ndebug { sendAll := .sent } { self with sent := [] } with
  | error fault =>
      rw [hsend] at h
      contradiction
  | ok r =>
      obtain ⟨res, sent⟩ := r
      rw [hsend] at h hsends
      cases res with
      | error e => cases h
      | ok _ =>
          obtain ⟨frame, hframe⟩ := hsends.frame rfl () rfl
          cases h
          exact ⟨frame, hframe⟩

end Request

/-- Where a thread is. In `sendAll` it has a number, the bytes still to be taken, and the
mutex unless it sends a time code. -/
inductive Pc where
  | idle
  | building (request : Request)
  | sending (call : Nat) (rest : List UInt8) (locked : Bool)

namespace Pc

/-- Whether a thread in `sendAll` has the mutex. -/
def sends : Pc → Option Bool
  | .sending _ _ locked => some locked
  | _ => none

def holds : Pc → Bool
  | .idle => false
  | .building _ => true
  | .sending _ _ locked => locked

end Pc

structure State (ι : Type) where
  node : Node
  send_buf_mtx_ : Option ι := none
  threads : ι → Pc := fun _ => .idle
  frames : List (List UInt8) := []
  wire : List (Nat × UInt8) := []
  broken : Bool := false

inductive Label (ι : Type) where
  | lock (t : ι) (request : Request)
  /-- The packet is built and `sendAll` is called. -/
  | build (t : ι)
  /-- The packet cannot be sent and the call returns. -/
  | refuse (t : ι)
  | emitTimeCode (t : ι) (timecode : UInt8)
  /-- `::send` takes the next `n` bytes. -/
  | send (t : ι) (n : Nat)
  /-- `sendAll` returns, and with it the call. -/
  | finish (t : ι)
  /-- `sendAll` returns an error. -/
  | fail (t : ι)

section Steps

variable {ι : Type} [DecidableEq ι]

namespace State

def goto (s : State ι) (t : ι) (pc : Pc) : State ι :=
  { s with threads := Function.update s.threads t pc }

/-- The call returns, and gives back the mutex if it has it. -/
def leave (s : State ι) (t : ι) (locked : Bool) : State ι :=
  { s.goto t .idle with send_buf_mtx_ := if locked then none else s.send_buf_mtx_ }

end State

def step (ndebug : Bool) (s : State ι) : Label ι → Option (State ι)
  | .lock t request =>
      match s.threads t with
      | .idle =>
          if s.send_buf_mtx_.isNone then
            some { s.goto t (.building request) with send_buf_mtx_ := some t }
          else
            none
      | _ => none
  | .build t =>
      match s.threads t with
      | .building request =>
          match request.handOver ndebug s.node with
          | .ok (some data, node) => some
              { s.goto t (.sending s.frames.length data true) with
                node := node
                frames := s.frames ++ [data] }
          | _ => none
      | _ => none
  | .refuse t =>
      match s.threads t with
      | .building request =>
          match request.handOver ndebug s.node with
          | .ok (none, node) => some { s.leave t true with node := node }
          | _ => none
      | _ => none
  | .emitTimeCode t timecode =>
      match s.threads t with
      | .idle =>
          if s.node.receiver.tcp_backend_.isSome then
            some
              { s.goto t (.sending s.frames.length (Node.timeCodePacket timecode) false) with
                frames := s.frames ++ [Node.timeCodePacket timecode] }
          else
            none
      | _ => none
  | .send t n =>
      match s.threads t with
      | .sending call rest locked =>
          if 0 < n ∧ n ≤ rest.length then
            some
              { s.goto t (.sending call (rest.drop n) locked) with
                wire := s.wire ++ tagged call (rest.take n) }
          else
            none
      | _ => none
  | .finish t =>
      match s.threads t with
      | .sending _ [] locked => some (s.leave t locked)
      | _ => none
  | .fail t =>
      match s.threads t with
      | .sending call (b :: rest) locked => some
          { s.leave t locked with
            broken := s.broken || decide (s.frames[call]? ≠ some (b :: rest)) }
      | _ => none

/-- A send is begun only while no send is in progress that it is not kept apart from, and
while no frame was left incomplete. -/
def Exclusive (s : State ι) : Label ι → Prop
  | .build _ => (∀ t, (s.threads t).sends ≠ some false) ∧ s.broken = false
  | .emitTimeCode _ _ => (∀ t, (s.threads t).sends = none) ∧ s.broken = false
  | _ => True

/-- Every step, with what it requires. -/
inductive Steps (ndebug : Bool) (s : State ι) : Label ι → State ι → Prop where
  | lock {t : ι} {request : Request} (hpc : s.threads t = .idle) (hfree : s.send_buf_mtx_ = none) :
      Steps ndebug s (.lock t request)
        { s.goto t (.building request) with send_buf_mtx_ := some t }
  | build {t : ι} {request : Request} {data : List UInt8} {node : Node}
      (hpc : s.threads t = .building request)
      (hdata : request.handOver ndebug s.node = .ok (some data, node)) :
      Steps ndebug s (.build t)
        { s.goto t (.sending s.frames.length data true) with
          node := node
          frames := s.frames ++ [data] }
  | refuse {t : ι} {request : Request} {node : Node} (hpc : s.threads t = .building request) :
      Steps ndebug s (.refuse t) { s.leave t true with node := node }
  | emitTimeCode {t : ι} {timecode : UInt8} (hpc : s.threads t = .idle) :
      Steps ndebug s (.emitTimeCode t timecode)
        { s.goto t (.sending s.frames.length (Node.timeCodePacket timecode) false) with
          frames := s.frames ++ [Node.timeCodePacket timecode] }
  | send {t : ι} {n call : Nat} {rest : List UInt8} {locked : Bool}
      (hpc : s.threads t = .sending call rest locked) :
      Steps ndebug s (.send t n)
        { s.goto t (.sending call (rest.drop n) locked) with
          wire := s.wire ++ tagged call (rest.take n) }
  | finish {t : ι} {call : Nat} {locked : Bool} (hpc : s.threads t = .sending call [] locked) :
      Steps ndebug s (.finish t) (s.leave t locked)
  | fail {t : ι} {call : Nat} {rest : List UInt8} {locked : Bool} (hrest : rest ≠ [])
      (hpc : s.threads t = .sending call rest locked) :
      Steps ndebug s (.fail t)
        { s.leave t locked with
          broken := s.broken || decide (s.frames[call]? ≠ some rest) }

theorem steps_of_step {ndebug : Bool} {s s' : State ι} {l : Label ι}
    (h : step ndebug s l = some s') : Steps ndebug s l s' := by
  cases l with
  | lock t request =>
      rw [step] at h
      split at h
      · rename_i hpc
        split at h
        · rename_i hfree
          cases h
          exact .lock hpc (Option.isNone_iff_eq_none.mp hfree)
        · contradiction
      · contradiction
  | build t =>
      rw [step] at h
      split at h
      · rename_i hpc
        split at h
        · rename_i hdata
          cases h
          exact .build hpc hdata
        · contradiction
      · contradiction
  | refuse t =>
      rw [step] at h
      split at h
      · rename_i hpc
        split at h
        · cases h
          exact .refuse hpc
        · contradiction
      · contradiction
  | emitTimeCode t timecode =>
      rw [step] at h
      split at h
      · rename_i hpc
        split at h
        · cases h
          exact .emitTimeCode hpc
        · contradiction
      · contradiction
  | send t n =>
      rw [step] at h
      split at h
      · rename_i hpc
        split at h
        · cases h
          exact .send hpc
        · contradiction
      · contradiction
  | finish t =>
      rw [step] at h
      split at h
      · rename_i hpc
        cases h
        exact .finish hpc
      · contradiction
  | fail t =>
      rw [step] at h
      split at h
      · rename_i hpc
        cases h
        exact .fail (List.cons_ne_nil _ _) hpc
      · contradiction

end Steps

/-- Where the wire stands. -/
inductive Standing {ι : Type} (s : State ι) : Prop where
  /-- No send is in progress and every frame on the wire is complete. -/
  | quiet (hthreads : ∀ t, (s.threads t).sends = none) (hbroken : s.broken = false)
      (hwire : Complete s.frames s.wire)
  /-- One send is in progress, and its frame is the last. -/
  | active (t : ι) (call : Nat) (handed rest : List UInt8) (locked : Bool)
      (hpc : s.threads t = .sending call rest locked)
      (hothers : ∀ t', t' ≠ t → (s.threads t').sends = none) (hbroken : s.broken = false)
      (hwire : Ongoing s.frames s.wire call handed rest)
  /-- The last frame was left incomplete, and nothing follows. -/
  | cut (hthreads : ∀ t, (s.threads t).sends = none) (hbroken : s.broken = true)
      (hwire : Whole s.frames s.wire)

structure Orderly {ι : Type} (s : State ι) : Prop where
  framed : ∀ data ∈ s.frames, ∃ frame : Frame, data = frame.encode
  exclusive : ∀ t, (s.threads t).holds = true → s.send_buf_mtx_ = some t
  standing : Standing s

/-- Spans that are frames are the frames of something. -/
theorem exists_frames {spans : List (List UInt8)}
    (h : ∀ data ∈ spans, ∃ frame : Frame, data = frame.encode) :
    ∃ frames : List Frame, spans = frames.map Frame.encode := by
  induction spans with
  | nil => exact ⟨[], rfl⟩
  | cons data spans ih =>
      obtain ⟨hdata, hspans⟩ := List.forall_mem_cons.mp h
      obtain ⟨frame, rfl⟩ := hdata
      obtain ⟨frames, rfl⟩ := ih hspans
      exact ⟨frame :: frames, rfl⟩

namespace Standing

variable {ι : Type} {s s' : State ι}

/-- Nothing matters but what is on the wire and who is sending. -/
theorem congr (h : Standing s) (hthreads : s'.threads = s.threads) (hframes : s'.frames = s.frames)
    (hwire : s'.wire = s.wire) (hbroken : s'.broken = s.broken) : Standing s' := by
  cases h with
  | quiet hquiet hfine hcomplete =>
      refine .quiet ?_ (hbroken.trans hfine) ?_
      · rw [hthreads]
        exact hquiet
      · rw [hframes, hwire]
        exact hcomplete
  | active t call handed rest locked hpc hothers hfine hongoing =>
      refine .active t call handed rest locked ?_ ?_ (hbroken.trans hfine) ?_
      · rw [hthreads]
        exact hpc
      · rw [hthreads]
        exact hothers
      · rw [hframes, hwire]
        exact hongoing
  | cut hquiet hcut hwhole =>
      refine .cut ?_ (hbroken.trans hcut) ?_
      · rw [hthreads]
        exact hquiet
      · rw [hframes, hwire]
        exact hwhole

/-- With no send in progress and none broken, the wire is complete. -/
theorem complete (h : Standing s) (hthreads : ∀ t, (s.threads t).sends = none)
    (hbroken : s.broken = false) : Complete s.frames s.wire := by
  cases h with
  | quiet _ _ hcomplete => exact hcomplete
  | active t call handed rest locked hpc =>
      have hnone := hthreads t
      rw [hpc] at hnone
      contradiction
  | cut _ hcut =>
      rw [hbroken] at hcut
      contradiction

theorem whole (h : Standing s) : Whole s.frames s.wire := by
  cases h with
  | quiet _ _ hcomplete => exact .inl hcomplete
  | active t call handed rest locked _ _ _ hongoing => exact hongoing.whole
  | cut _ _ hwhole => exact hwhole

end Standing

theorem Orderly.initial {ι : Type} (node : Node) : Orderly ({ node } : State ι) := by
  refine ⟨?_, nofun, .quiet (fun _ => rfl) rfl complete_nil⟩
  exact fun data hdata => absurd hdata List.not_mem_nil

section Invariant

variable {ι : Type} [DecidableEq ι] {s s' : State ι} {t : ι} {pc : Pc} {locked : Bool}

@[simp] theorem goto_self (s : State ι) (t : ι) (pc : Pc) : (s.goto t pc).threads t = pc :=
  Function.update_self ..

theorem goto_of_ne {t' : ι} (hne : t' ≠ t) (pc : Pc) :
    (s.goto t pc).threads t' = s.threads t' :=
  Function.update_of_ne hne ..

theorem exclusive_goto (h : ∀ t, (s.threads t).holds = true → s.send_buf_mtx_ = some t)
    (hpc : pc.holds = true → s.send_buf_mtx_ = some t) (t' : ι)
    (hholds : ((s.goto t pc).threads t').holds = true) : s.send_buf_mtx_ = some t' := by
  by_cases hne : t' = t
  · subst hne
    rw [goto_self] at hholds
    exact hpc hholds
  · rw [goto_of_ne hne] at hholds
    exact h t' hholds

theorem exclusive_leave (h : ∀ t, (s.threads t).holds = true → s.send_buf_mtx_ = some t)
    (hpc : (s.threads t).holds = locked) (t' : ι)
    (hholds : ((s.leave t locked).threads t').holds = true) :
    (s.leave t locked).send_buf_mtx_ = some t' := by
  by_cases hne : t' = t
  · subst hne
    rw [State.leave, goto_self] at hholds
    contradiction
  · have hother : (s.threads t').holds = true := by
      rw [State.leave, goto_of_ne hne] at hholds
      exact hholds
    cases locked with
    | false => exact h t' hother
    | true =>
        -- Both threads would have the mutex.
        have hsame := (h t' hother).symm.trans (h t hpc)
        exact absurd (Option.some.inj hsame) hne

theorem sends_goto (hpc : pc.sends = none) (h : ∀ t', t' ≠ t → (s.threads t').sends = none)
    (t' : ι) : ((s.goto t pc).threads t').sends = none := by
  by_cases hne : t' = t
  · subst hne
    rw [goto_self]
    exact hpc
  · rw [goto_of_ne hne]
    exact h t' hne

namespace Standing

/-- A thread outside `sendAll` moves on and stays outside. -/
theorem goto (h : Standing s) (hpc : (s.threads t).sends = none) (hnew : pc.sends = none) :
    Standing (s.goto t pc) := by
  cases h with
  | quiet hquiet hfine hcomplete =>
      exact .quiet (sends_goto hnew fun t' _ => hquiet t') hfine hcomplete
  | active t₀ call handed rest locked hactive hothers hfine hongoing =>
      have hne : t₀ ≠ t := by
        rintro rfl
        rw [hactive] at hpc
        contradiction
      refine .active t₀ call handed rest locked ?_ ?_ hfine hongoing
      · rw [goto_of_ne hne]
        exact hactive
      · intro t' hne'
        by_cases hself : t' = t
        · subst hself
          rw [goto_self]
          exact hnew
        · rw [goto_of_ne hself]
          exact hothers t' hne'
  | cut hquiet hcut hwhole =>
      exact .cut (sends_goto hnew fun t' _ => hquiet t') hcut hwhole

/-- A thread in `sendAll` is the one whose frame is the last on the wire. -/
theorem ongoing (h : Standing s) {call : Nat} {rest : List UInt8}
    (hpc : s.threads t = .sending call rest locked) :
    ∃ handed, (∀ t', t' ≠ t → (s.threads t').sends = none) ∧ s.broken = false ∧
      Ongoing s.frames s.wire call handed rest := by
  have hsends : (s.threads t).sends = some locked := by
    rw [hpc]
    rfl
  cases h with
  | quiet hquiet =>
      rw [hquiet t] at hsends
      contradiction
  | active t₀ call₀ handed rest₀ locked₀ hactive hothers hfine hongoing =>
      by_cases hne : t = t₀
      · subst hne
        cases hactive.symm.trans hpc
        exact ⟨handed, hothers, hfine, hongoing⟩
      · rw [hothers t hne] at hsends
        contradiction
  | cut hquiet =>
      rw [hquiet t] at hsends
      contradiction

/-- A send is begun. -/
theorem start (h : Standing s) (hthreads : ∀ t, (s.threads t).sends = none)
    (hbroken : s.broken = false) (t : ι) (data : List UInt8) (locked : Bool) :
    Standing { s.goto t (.sending s.frames.length data locked) with
      frames := s.frames ++ [data] } := by
  refine .active t s.frames.length [] data locked (goto_self ..) ?_ hbroken
    ((h.complete hthreads hbroken).start data)
  intro t' hne
  exact (congrArg Pc.sends (goto_of_ne hne _)).trans (hthreads t')

end Standing

theorem Orderly.step {ndebug : Bool} {l : Label ι} (ho : Orderly s)
    (hstep : Steps ndebug s l s') (hguard : Exclusive s l) : Orderly s' := by
  obtain ⟨hframed, hexclusive, hstanding⟩ := ho
  have hholds : ∀ {t pc}, s.threads t = pc → (s.threads t).holds = pc.holds :=
    fun hpc => congrArg Pc.holds hpc
  have hsends : ∀ {t pc}, s.threads t = pc → (s.threads t).sends = pc.sends :=
    fun hpc => congrArg Pc.sends hpc
  cases hstep with
  | @lock t request hpc hfree =>
      refine ⟨hframed, ?_, (hstanding.goto (hsends hpc) rfl).congr rfl rfl rfl rfl⟩
      intro t' hlocked
      by_cases hne : t' = t
      · rw [hne]
      · have hother : (s.threads t').holds = true :=
          (congrArg Pc.holds (goto_of_ne hne _)).symm.trans hlocked
        have hbusy := hexclusive t' hother
        rw [hfree] at hbusy
        contradiction
  | @build t request data node hpc hdata =>
      have howner := hexclusive t (hholds hpc)
      have hquiet : ∀ t', (s.threads t').sends = none := by
        intro t'
        cases hother : s.threads t' with
        | idle => rfl
        | building request => rfl
        | sending call rest locked =>
            cases locked with
            | false => exact absurd (hsends hother) (hguard.1 t')
            | true =>
                -- The mutex keeps the other sender out.
                have hsame := howner.symm.trans (hexclusive t' (hholds hother))
                rw [← Option.some.inj hsame, hpc] at hother
                contradiction
      refine ⟨?_, exclusive_goto hexclusive fun _ => howner, ?_⟩
      · intro frame hframe
        obtain hold | hnew := List.mem_append.mp hframe
        · exact hframed frame hold
        · rw [List.mem_singleton.mp hnew]
          exact Request.handOver_frame hdata
      · exact (hstanding.start hquiet hguard.2 t data true).congr rfl rfl rfl rfl
  | @refuse t request node hpc =>
      refine ⟨hframed, exclusive_leave hexclusive (hholds hpc), ?_⟩
      exact (hstanding.goto (hsends hpc) rfl).congr rfl rfl rfl rfl
  | @emitTimeCode t timecode hpc =>
      refine ⟨?_, exclusive_goto hexclusive nofun, ?_⟩
      · intro frame hframe
        obtain hold | hnew := List.mem_append.mp hframe
        · exact hframed frame hold
        · rw [List.mem_singleton.mp hnew]
          exact ⟨_, Node.timeCodePacket_eq timecode⟩
      · exact hstanding.start hguard.1 hguard.2 t (Node.timeCodePacket timecode) false
  | @send t n call rest locked hpc =>
      obtain ⟨handed, hothers, hfine, hongoing⟩ := hstanding.ongoing hpc
      refine ⟨hframed, exclusive_goto hexclusive fun hlocked => ?_, ?_⟩
      · exact hexclusive t ((hholds hpc).trans hlocked)
      · refine .active t call (handed ++ rest.take n) (rest.drop n) locked (goto_self ..) ?_ hfine
          (hongoing.hand n)
        intro t' hne
        exact (congrArg Pc.sends (goto_of_ne hne _)).trans (hothers t' hne)
  | @finish t call locked hpc =>
      obtain ⟨handed, hothers, hfine, hongoing⟩ := hstanding.ongoing hpc
      refine ⟨hframed, exclusive_leave hexclusive (hholds hpc), ?_⟩
      exact .quiet (sends_goto rfl hothers) hfine hongoing.complete
  | @fail t call rest locked hrest hpc =>
      obtain ⟨handed, hothers, hfine, hongoing⟩ := hstanding.ongoing hpc
      refine ⟨hframed, exclusive_leave hexclusive (hholds hpc), ?_⟩
      by_cases hnone : handed = []
      · subst hnone
        have hblock : s.frames[call]? = some rest := hongoing.block
        refine .quiet (sends_goto rfl hothers) ?_ hongoing.none
        simp [hblock, hfine]
      · have hblock : s.frames[call]? ≠ some rest := by
          rw [hongoing.block]
          simpa using hnone
        refine .cut (sends_goto rfl hothers) ?_ hongoing.whole
        simp [hblock]

/-- In every run in which sends are begun exclusively, the wire carries whole frames at all
times: complete ones, and behind them at most a proper prefix of one. -/
theorem whole_of_exclusive (ndebug : Bool) (node : Node)
    (h : Reaches (step ndebug) Exclusive ({ node } : State ι) s) :
    Whole s.frames s.wire ∧ ∃ (frames : List Frame) (part : List UInt8),
      s.wire.map Prod.snd = (frames.map Frame.encode).flatten ++ part ∧
      (part = [] ∨ ∃ frame : Frame, part <+: frame.encode ∧ part ≠ frame.encode) := by
  have ho : Orderly s := by
    apply h.invariant (Orderly.initial node)
    intro t u l _ hguard hstep ht
    exact ht.step (steps_of_step hstep) hguard
  have hwhole := ho.standing.whole
  obtain ⟨complete, part, hbytes, hcomplete, hpart⟩ := hwhole.elements
  obtain ⟨frames, rfl⟩ := exists_frames fun data hdata => ho.framed data (hcomplete data hdata)
  refine ⟨hwhole, frames, part, hbytes, hpart.imp_right ?_⟩
  rintro ⟨data, hdata, hprefix⟩
  obtain ⟨frame, rfl⟩ := ho.framed data hdata
  exact ⟨frame, hprefix⟩

end Invariant

instance {n : Nat} (s : State (Fin n)) (l : Label (Fin n)) : Decidable (Exclusive s l) :=
  match l with
  | .build _ => inferInstanceAs
      (Decidable ((∀ t, (s.threads t).sends ≠ some false) ∧ s.broken = false))
  | .emitTimeCode _ _ => inferInstanceAs
      (Decidable ((∀ t, (s.threads t).sends = none) ∧ s.broken = false))
  | .lock _ _ | .refuse _ | .send _ _ | .finish _ | .fail _ => isTrue trivial

/-- A connected node with buffers that grow. -/
def connected (range : TransactionRange) : Node :=
  Node.ofConfig { send_buffer_size := 0, range := range } { incoming := [] }

/-- A write of one byte, in a frame of 30 bytes. -/
def writeOne : Request := .command ⟨[], [], 0xFE⟩ 0x20 (.write 0 [0xAA])

/-- Reached: a write in three pieces, a time code behind it, and a write that was cut off. -/
theorem whole_of_exclusive_cut : ∃ s : State (Fin 2),
    (s.frames.length = 3 ∧ s.wire.length = 56 ∧ s.broken = true) ∧ Whole s.frames s.wire := by
  have hreached : ∃ s : State (Fin 2), Reaches (step true) Exclusive { node := connected {} } s ∧
      (s.frames.length = 3 ∧ s.wire.length = 56 ∧ s.broken = true) := by
    apply Reaches.exists_of_run [.lock 0 writeOne, .build 0, .send 0 12, .send 0 8, .send 0 10,
      .finish 0, .emitTimeCode 1 0x07, .send 1 14, .finish 1, .lock 1 writeOne, .build 1,
      .send 1 12, .fail 1]
    decide +kernel
  obtain ⟨s, hreach, hs⟩ := hreached
  exact ⟨s, hs, (whole_of_exclusive true (connected {}) hreach).1⟩

/-- A time code gets between the pieces of a write; and a write follows one that was cut
off. -/
theorem wire_not_whole :
    (∃ s : State (Fin 2), Reaches (step true) always { node := connected {} } s ∧
      s.broken = false ∧ ¬Whole s.frames s.wire) ∧
    (∃ s : State (Fin 2), Reaches (step true) always { node := connected {} } s ∧
      s.broken = true ∧ ¬Whole s.frames s.wire) := by
  have hreached : ∀ (labels : List (Label (Fin 2))) (broken : Bool),
      (run (step true) always { node := connected {} } labels).any (fun s => decide
        (s.broken = broken ∧ ¬((∀ a ∈ s.wire, ∀ b ∈ s.wire, a.1 = b.1) ∨
          ∃ number < s.frames.length, tagged number (s.frames.getD number []) <+: s.wire))) =
        true →
      ∃ s : State (Fin 2), Reaches (step true) always { node := connected {} } s ∧
        s.broken = broken ∧ ¬Whole s.frames s.wire := by
    intro labels broken hrun
    obtain ⟨s, hreach, hbroken, hbegins⟩ := Reaches.exists_of_run labels hrun
    exact ⟨s, hreach, hbroken, fun hwhole => hbegins hwhole.begins⟩
  constructor
  · apply hreached [.lock 0 writeOne, .build 0, .send 0 12, .emitTimeCode 1 0x07, .send 1 14,
      .finish 1, .send 0 18, .finish 0] false
    decide +kernel
  · apply hreached [.lock 0 writeOne, .build 0, .send 0 12, .fail 0, .lock 1 writeOne, .build 1,
      .send 1 30, .finish 1] true
    decide +kernel

end SpwRmap.Wire
