import SpwRmap.Lib.Transition
import SpwRmap.Node.Position

/-!
# The heads of the receive loop

A `Head` is the state in which a round of `recvAndParseOnePacket_` begins. The loop
follows the positions of the stream: from a head that stands at a position, a frame
that lets the call go on leads to a head that stands at the next position. Where the
positions end the call ends too, at once or, if the frame there was cut off, at a head
with nothing left to receive.
-/

namespace SpwRmap

open Span Stream Transition Receiver

structure Head where
  receiver : Receiver
  total_size : Nat
  recv_buffer : Window

namespace Head

/-- The head with which a call begins. -/
def start (self : Receiver) : Head := ⟨self, 0, self.wholeBuffer⟩

/-- The lines of a round in front of the `switch`. -/
def opening (head : Head) : Checked (Opening × Receiver) :=
  head.receiver.openFrame head.total_size head.recv_buffer

/-- One round. -/
def frame (head : Head) : Checked (Round × Receiver) :=
  head.receiver.receiveFrame head.total_size head.recv_buffer

/-- The rest of a call. -/
def loop (head : Head) (fuel : Nat) : Checked (Except ErrorCode Nat × Receiver) :=
  receiveLoop fuel head.receiver head.total_size head.recv_buffer

/-- The head that follows, if the call does not end with this round. -/
def step (head : Head) (_ : Unit) : Option Head :=
  match head.frame with
  | .ok (.again total_size recv_buffer, receiver) => some ⟨receiver, total_size, recv_buffer⟩
  | .ok (.restart, receiver) => some ⟨receiver, 0, receiver.wholeBuffer⟩
  | _ => none

section

variable {head head' : Head} {origin : Receiver} {backend : Backend} {p q : Position}

theorem loop_step (h : head.step () = some head') (fuel : Nat) :
    head.loop (fuel + 1) = head'.loop fuel := by
  rw [step] at h
  split at h
  · rename_i hframe
    obtain rfl := Option.some.inj h
    exact congrArg (· >>= _) hframe
  · rename_i hframe
    obtain rfl := Option.some.inj h
    exact congrArg (· >>= _) hframe
  · contradiction

theorem step_again {total_size : Nat} {recv_buffer : Window} {receiver : Receiver}
    (h : head.frame = .ok (.again total_size recv_buffer, receiver)) :
    head.step () = some ⟨receiver, total_size, recv_buffer⟩ := by
  rw [step, h]

theorem step_restart {receiver : Receiver} (h : head.frame = .ok (.restart, receiver)) :
    head.step () = some ⟨receiver, 0, receiver.wholeBuffer⟩ := by
  rw [step, h]

theorem loop_done {res : Except ErrorCode Nat} {receiver : Receiver}
    (h : head.frame = .ok (.done res, receiver)) (fuel : Nat) :
    head.loop (fuel + 1) = .ok (res, receiver) :=
  congrArg (· >>= _) h

theorem loop_eof {total_size : Nat} {receiver : Receiver}
    (h : head.frame = .ok (.eof total_size, receiver)) (fuel : Nat) :
    head.loop (fuel + 1) = receiver.parseReceived total_size :=
  congrArg (· >>= _) h

/-- The head stands at a position. -/
def At (origin : Receiver) (backend : Backend) (p : Position) (head : Head) : Prop :=
  ∃ calls buf, buf.length = p.capacity ∧
    head = ⟨origin.moved { backend with incoming := p.stream, calls } buf, p.total_size, p.window⟩

/-- Nothing is left to receive. -/
def Spent (origin : Receiver) (backend : Backend) (head : Head) : Prop :=
  ∃ calls buf, head.receiver = origin.moved { backend with incoming := [], calls } buf

/-- A round that stops in front of the `switch`. -/
theorem At.opening_stop (h : At origin backend p head)
    (hrejected : ¬ (p.Opened ∧ p.Fits origin.buffer_policy_)) :
    ∃ res receiver, (res = .ok 0 ∨ ∃ e, res = .error e) ∧ receiver.parsed = origin.parsed ∧
      head.opening = .ok (.stop res, receiver) := by
  obtain ⟨calls, buf, hbuf, rfl⟩ := h
  obtain ⟨res, calls', hres, hopen⟩ := openFrame_stop (p := p)
    (moved_backend origin { backend with incoming := p.stream, calls } buf) rfl hrejected
  refine ⟨res, _, hres, ?_, hopen⟩
  rfl

/-- A round that forms a sub-span behind the end of the buffer. -/
theorem At.opening_wraps (h : At origin backend p head) (hopened : p.Opened)
    (hfits : p.Fits origin.buffer_policy_) (hwraps : p.Wraps) :
    head.opening = .error .outOfRange := by
  obtain ⟨calls, buf, hbuf, rfl⟩ := h
  exact openFrame_wraps
    (moved_backend origin { backend with incoming := p.stream, calls } buf) rfl hbuf hopened hfits
    hwraps

/-- A round that asks for a buffer larger than any vector. -/
theorem At.opening_tooLong (h : At origin backend p head) (hopened : p.Opened)
    (hfits : p.Fits origin.buffer_policy_) (hlong : p.TooLong) (hwraps : ¬ p.Wraps) :
    head.opening = .error .lengthError := by
  obtain ⟨calls, buf, hbuf, rfl⟩ := h
  exact openFrame_tooLong
    (moved_backend origin { backend with incoming := p.stream, calls } buf) rfl hbuf hopened hfits
    hlong hwraps

/-- In both cases the call does not return. -/
theorem At.opening_fault (h : At origin backend p head) (hopened : p.Opened)
    (hfits : p.Fits origin.buffer_policy_) (hlong : p.TooLong) :
    ∃ fault, head.opening = .error fault := by
  by_cases hwraps : p.Wraps
  · exact ⟨.outOfRange, h.opening_wraps hopened hfits hwraps⟩
  · exact ⟨.lengthError, h.opening_tooLong hopened hfits hlong hwraps⟩

/-- Any other round gets to the `switch`, with room for the payload. -/
theorem At.opening_frame (h : At origin backend p head) (hopened : p.Opened)
    (hfits : p.Fits origin.buffer_policy_) (hlong : ¬ p.TooLong) :
    ∃ calls buf, buf.length = p.grown ∧ head.opening =
      .ok (.frame p.header p.announced p.room,
        origin.moved { backend with incoming := p.stream.drop 12, calls } buf) := by
  obtain ⟨calls, buf, hbuf, rfl⟩ := h
  exact openFrame_frame
    (moved_backend origin { backend with incoming := p.stream, calls } buf) rfl hbuf hopened hfits
    hlong

theorem frame_of_stop {res : Except ErrorCode Nat} {receiver : Receiver}
    (h : head.opening = .ok (.stop res, receiver)) : head.frame = .ok (.done res, receiver) :=
  (receiveFrame_open _ _ _).trans (congrArg (· >>= _) h)

theorem frame_of_error {fault : Fault} (h : head.opening = .error fault) :
    head.frame = .error fault :=
  (receiveFrame_open _ _ _).trans (congrArg (· >>= _) h)

theorem At.frame_switch (h : At origin backend p head) (hopened : p.Opened)
    (hfits : p.Fits origin.buffer_policy_) (hlong : ¬ p.TooLong) :
    ∃ calls buf, buf.length = p.grown ∧
      head.frame =
        (origin.moved { backend with incoming := p.stream.drop 12, calls } buf).receiveBody
          p.header p.total_size p.announced p.room := by
  obtain ⟨calls, buf, hlen, hopen⟩ := h.opening_frame hopened hfits hlong
  refine ⟨calls, buf, hlen, ?_⟩
  obtain ⟨calls', buf', -, rfl⟩ := h
  exact (receiveFrame_open _ _ _).trans (congrArg (· >>= _) hopen)

/-- The stream past the frame at a position. -/
theorem drop_past (p : Position) : (p.stream.drop 12).drop p.announced =
    p.stream.drop (12 + p.announced) := by
  rw [List.drop_drop]

/-- The frames before the last position let the loop go on to the next one. -/
theorem At.step_next (h : At origin backend p head)
    (hnext : p.next origin.buffer_policy_ = some q) :
    ∃ head', head.step () = some head' ∧ At origin backend q head' := by
  obtain ⟨⟨hopened, hfits, hlong, hcomplete⟩, hq⟩ := Position.next_eq_some hnext
  obtain ⟨calls, buf, hbuf, hframe⟩ := h.frame_switch hopened hfits hlong
  have hb := moved_backend origin { backend with incoming := p.stream.drop 12, calls } buf
  have hlen : p.announced ≤ (p.stream.drop 12).length := by
    rw [Position.Truncated] at hcomplete
    rw [List.length_drop]
    omega
  obtain ⟨htype, rfl⟩ | ⟨htype, rfl⟩ | ⟨htime, rfl⟩ := hq
  · obtain ⟨calls', buf', hbuf', hbody⟩ := receiveBody_continue hb htype p.announced_le_room
      (by rw [moved_recv_buf, hbuf]; exact p.room_inside) p.total_size
    rw [hbody, Source.exact_of_le hlen] at hframe
    refine ⟨_, step_again hframe, calls', buf', hbuf'.trans hbuf, ?_⟩
    simp only [Source.skip, drop_past, Position.window, Position.past, Position.room,
      Nat.sub_sub]
    rfl
  · obtain ⟨calls', hbody⟩ := receiveBody_discard hb htype p.announced p.total_size
      p.room
    rw [hbody, ignored, if_pos hlen] at hframe
    refine ⟨_, step_restart hframe, calls', buf, hbuf, ?_⟩
    simp only [Source.skip, drop_past, wholeBuffer, moved_recv_buf, hbuf, Position.window,
      Position.past]
    rfl
  · obtain ⟨htype, hheader, hzero⟩ := htime
    obtain ⟨calls', hbody⟩ := receiveBody_time hb htype hheader p.announced p.total_size
      p.room
    have htwo := p.announced_timeCode hheader
    rw [htwo] at hlen
    rw [hbody, Source.exact_of_le hlen] at hframe
    simp only [p.second_byte, hzero, ne_eq, not_true, if_false] at hframe
    refine ⟨_, step_again hframe, calls', buf, hbuf, ?_⟩
    simp only [Source.skip, Position.past, Position.window, Position.room, List.drop_drop, htwo]
    rfl

/-- A frame that is cut off and not the last one of its packet ends the call with an error,
or leaves nothing to receive. -/
theorem At.frame_cut (h : At origin backend p head)
    (hnext : p.next origin.buffer_policy_ = none) (hopened : p.Opened)
    (hfits : p.Fits origin.buffer_policy_) (hlong : ¬ p.TooLong) (htype : p.type ≠ 0x00) :
    (∃ e receiver, head.frame = .ok (.done (.error e), receiver) ∧
      receiver.parsed = origin.parsed) ∨
    (∃ head', head.step () = some head' ∧ Spent origin backend head') := by
  obtain ⟨calls, buf, hbuf, hframe⟩ := h.frame_switch hopened hfits hlong
  have hb := moved_backend origin { backend with incoming := p.stream.drop 12, calls } buf
  have hspent (htrunc : p.Truncated) : (p.stream.drop 12).drop p.announced = [] := by
    have hlen := hopened.1
    rw [Position.Truncated] at htrunc
    rw [drop_past]
    exact List.drop_eq_nil_of_le (by omega)
  obtain htype | htype | htype : p.type = 0x02 ∨ p.type = 0x01 ∨ p.type = 0x30 ∨ p.type = 0x31 := by
    have := hopened.2.1
    simp only [List.mem_cons, List.not_mem_nil, or_false] at this
    tauto
  · have htrunc := Position.truncated_of_next_none hnext hopened hfits hlong (.inl htype)
    obtain ⟨calls', buf', -, hbody⟩ := receiveBody_continue hb htype p.announced_le_room
      (by rw [moved_recv_buf, hbuf]; exact p.room_inside) p.total_size
    rw [hbody] at hframe
    split at hframe
    · exact .inl ⟨_, _, hframe, rfl⟩
    · refine .inr ⟨_, step_again hframe, calls', buf', ?_⟩
      simp only [Source.skip, hspent htrunc]
      rfl
  · have htrunc := Position.truncated_of_next_none hnext hopened hfits hlong (.inr (.inl htype))
    obtain ⟨calls', hbody⟩ := receiveBody_discard hb htype p.announced p.total_size
      p.room
    rw [hbody] at hframe
    split at hframe
    · exact .inl ⟨_, _, hframe, rfl⟩
    · refine .inr ⟨_, step_restart hframe, calls', buf, ?_⟩
      simp only [Source.skip, hspent htrunc]
      rfl
  · by_cases hheader : p.header.drop 2 = timeCodeHeader
    · obtain ⟨calls', hbody⟩ := receiveBody_time hb htype hheader p.announced p.total_size
        p.room
      rw [hbody] at hframe
      split at hframe
      · exact .inl ⟨_, _, hframe, rfl⟩
      · split at hframe
        · exact .inl ⟨_, _, hframe, rfl⟩
        · rename_i hsecond
          have hzero : p.stream.getD 13 0 = 0x00 :=
            p.second_byte.symm.trans (Decidable.not_not.mp hsecond)
          have htrunc := Position.truncated_of_next_none hnext hopened hfits hlong
            (.inr (.inr ⟨htype, hheader, hzero⟩))
          refine .inr ⟨_, step_again hframe, calls', buf, ?_⟩
          have hnil := hspent htrunc
          rw [p.announced_timeCode hheader] at hnil
          simp only [Source.skip, hnil]
          rfl
    · refine .inl ⟨_, _, hframe.trans (receiveBody_time_malformed htype hheader _ _), rfl⟩

/-- The last frame of a packet ends the loop. -/
theorem At.frame_final (h : At origin backend p head) (hopened : p.Opened)
    (hfits : p.Fits origin.buffer_policy_) (hlong : ¬ p.TooLong) (htype : p.type = 0x00) :
    ∃ calls buf, buf.length = p.grown ∧ head.frame =
      .ok (match { backend with incoming := p.stream.drop 12 }.exact p.announced with
        | .error e => .done (.error e)
        | .ok size => .eof (p.total_size + size),
        origin.moved { backend with incoming := p.stream.drop (12 + p.announced), calls } buf) := by
  obtain ⟨calls, buf, hbuf, hframe⟩ := h.frame_switch hopened hfits hlong
  have hb := moved_backend origin { backend with incoming := p.stream.drop 12, calls } buf
  obtain ⟨calls', buf', hbuf', hbody⟩ := receiveBody_final hb htype p.announced_le_room
    (by rw [moved_recv_buf, hbuf]; exact p.room_inside) p.total_size
  refine ⟨calls', buf', hbuf'.trans hbuf, ?_⟩
  rw [hframe, hbody, ← drop_past]
  rfl

/-- With nothing left the call ends in the next round. -/
theorem Spent.opening_eq (h : Spent origin backend head) :
    ∃ res receiver, (res = .ok 0 ∨ ∃ e, backend.atEnd = some e ∧ res = .error e) ∧
      receiver.parsed = origin.parsed ∧ head.opening = .ok (.stop res, receiver) := by
  obtain ⟨calls, buf, hreceiver⟩ := h
  obtain ⟨res, calls', hres, hopen⟩ := openFrame_end
    (moved_backend origin { backend with incoming := [], calls } buf) (by simp) head.total_size
    head.recv_buffer
  refine ⟨res, _, hres, ?_, (congrArg (openFrame · _ _) hreceiver).trans hopen⟩
  rfl

/-- Where the positions end, a further round has nothing left to receive. -/
theorem At.spent_of_step (h : At origin backend p head)
    (hnext : p.next origin.buffer_policy_ = none) (hstep : head.step () = some head') :
    Spent origin backend head' := by
  by_cases hrejected : ¬ (p.Opened ∧ p.Fits origin.buffer_policy_)
  · obtain ⟨res, receiver, -, -, hopen⟩ := h.opening_stop hrejected
    rw [step, frame_of_stop hopen] at hstep
    contradiction
  obtain ⟨hopened, hfits⟩ := Decidable.not_not.mp hrejected
  by_cases hlong : p.TooLong
  · obtain ⟨fault, hopen⟩ := h.opening_fault hopened hfits hlong
    rw [step, frame_of_error hopen] at hstep
    contradiction
  by_cases htype : p.type = 0x00
  · obtain ⟨calls, buf, -, hframe⟩ := h.frame_final hopened hfits hlong htype
    split at hframe
    · rw [step, hframe] at hstep
      contradiction
    · rw [step, hframe] at hstep
      contradiction
  · obtain ⟨e, receiver, hframe, -⟩ | ⟨u, hu, hspent⟩ :=
      h.frame_cut hnext hopened hfits hlong htype
    · rw [step, hframe] at hstep
      contradiction
    · obtain rfl := Option.some.inj (hstep.symm.trans hu)
      exact hspent

/-- The loop comes to every position of the stream, and has fuel left there. -/
theorem At.reaches_after (h : At origin backend p head) {fuel : Nat}
    (hfuel : p.stream.length < fuel) (n : Nat) :
    ∃ head' fuel', At origin backend (p.after origin.buffer_policy_ n) head' ∧
      (p.after origin.buffer_policy_ n).stream.length < fuel' ∧
      head.loop fuel = head'.loop fuel' ∧ Reaches step always head head' := by
  induction n generalizing p head fuel with
  | zero => exact ⟨head, fuel, h, hfuel, rfl, .refl⟩
  | succ n ih =>
      rw [Position.after]
      cases hnext : p.next origin.buffer_policy_ with
      | none => exact ⟨head, fuel, h, hfuel, rfl, .refl⟩
      | some q =>
          obtain ⟨fuel, rfl⟩ := Nat.exists_eq_add_one.mpr (Nat.zero_lt_of_lt hfuel)
          obtain ⟨head₁, hstep, hat⟩ := h.step_next hnext
          have hless := (Position.next_stream hnext).2
          have hfuel : q.stream.length < fuel := by omega
          obtain ⟨head', fuel', hat', hfuel', hloop, hreach⟩ := ih hat hfuel
          refine ⟨head', fuel', hat', hfuel', (loop_step hstep fuel).trans hloop, ?_⟩
          exact (Reaches.snoc .refl trivial hstep).trans hreach

/-- Every head stands at a position of the stream or has nothing left to receive. -/
theorem At.of_reaches (h : At origin backend p head) (hreach : Reaches step always head head') :
    (∃ n, At origin backend (p.after origin.buffer_policy_ n) head') ∨
      Spent origin backend head' := by
  apply hreach.invariant (P := fun t =>
    (∃ n, At origin backend (p.after origin.buffer_policy_ n) t) ∨ Spent origin backend t)
    (.inl ⟨0, h⟩)
  rintro t u _ - - hstep (⟨n, hat⟩ | hspent)
  · cases hnext : (p.after origin.buffer_policy_ n).next origin.buffer_policy_ with
    | some q =>
        obtain ⟨head'', hstep', hat'⟩ := hat.step_next hnext
        obtain rfl := Option.some.inj (hstep.symm.trans hstep')
        refine .inl ⟨n + 1, ?_⟩
        rw [Position.after_add, Position.after, hnext]
        exact hat'
    | none => exact .inr (hat.spent_of_step hnext hstep)
  · obtain ⟨res, receiver, -, -, hopen⟩ := hspent.opening_eq
    rw [step, frame_of_stop hopen] at hstep
    contradiction

end

end Head

/-- The position at which a call begins. -/
def Position.start (self : Receiver) (backend : Backend) : Position :=
  ⟨0, self.recv_buf_.length, backend.incoming, Nat.zero_le _⟩

theorem Head.at_start {self : Receiver} {backend : Backend}
    (hb : self.tcp_backend_ = some backend) :
    At self backend (.start self backend) (.start self) := by
  refine ⟨backend.calls, self.recv_buf_, rfl, ?_⟩
  obtain ⟨tcp_backend_, recv_buf_, packet_parser_, buffer_policy_, parsed⟩ := self
  obtain rfl : tcp_backend_ = some backend := hb
  rfl

end SpwRmap
