import SpwRmap.Node.Heads
import SpwRmap.Packet.Corruption

/-!
# Streams that end early, and lengths that wrap

At the end of the stream `recvExact_` returns zero, and the loop looks at that only for a
header. After a cut-off time code, error end or continued segment the next header is
missing, so that the call returns zero. The last segment of a packet is another matter:
zero is added to the size gathered so far and `parse` runs on the segments before it, or
on an empty span.

The room check adds the announced length to the size gathered so far as `size_t`. A sum
that wraps makes the buffer shorter than the sub-span that is then taken of it, and a large
sum that does not is more than a vector can hold.
-/

namespace SpwRmap

open Span Stream Transition Receiver

namespace Position

/-- The stream ends in the last segment of a packet, for which the buffer has room, or in
a frame to whose length the buffer cannot grow. -/
def CutData (policy : BufferPolicy) (p : Position) : Prop :=
  p.Opened ∧ p.Fits policy ∧ p.Truncated ∧ (p.type = 0x00 ∨ p.TooLong)

/-- The length of the frame makes the new size of the buffer wrap. -/
def Overflows (policy : BufferPolicy) (p : Position) : Prop :=
  p.Opened ∧ p.Fits policy ∧ p.Wraps

instance (policy : BufferPolicy) (p : Position) : Decidable (p.CutData policy) :=
  inferInstanceAs (Decidable (_ ∧ _))
instance (policy : BufferPolicy) (p : Position) : Decidable (p.Overflows policy) :=
  inferInstanceAs (Decidable (_ ∧ _))

end Position

/-- No packet comes from a stream that ends inside the frame at `p`: a positive size means
that the frame is complete, and a frame that is not makes the call return zero or an error
without a parse. -/
def RejectsTruncation (self : Receiver) (p : Position) : Prop :=
  (∀ size receiver, self.recvAndParseOnePacket_ = .ok (.ok size, receiver) → 0 < size →
    ¬ p.Truncated) ∧
  (p.Truncated → ∃ res receiver, self.recvAndParseOnePacket_ = .ok (res, receiver) ∧
    (res = .ok 0 ∨ ∃ e, res = .error e) ∧ receiver.parsed = self.parsed)

section Truncation

variable {self : Receiver} {backend : Backend} {p : Position} {head : Head}

/-- A call that returns nothing keeps what the claim on positive sizes says. -/
theorem RejectsTruncation.of_returns
    (h : p.Truncated → ∃ res receiver, self.recvAndParseOnePacket_ = .ok (res, receiver) ∧
      (res = .ok 0 ∨ ∃ e, res = .error e) ∧ receiver.parsed = self.parsed) :
    RejectsTruncation self p := by
  refine ⟨?_, h⟩
  intro size receiver hrun hpos htrunc
  obtain ⟨res, receiver', hrun', hres, -⟩ := h htrunc
  have hsize := (Prod.mk.inj (Except.ok.inj (hrun.symm.trans hrun'))).1
  obtain rfl | ⟨e, rfl⟩ := hres
  · exact Nat.lt_irrefl 0 (Except.ok.inj hsize ▸ hpos)
  · contradiction

/-- The call is the loop from the last position on. -/
theorem recvAndParseOnePacket_last (hb : self.tcp_backend_ = some backend) :
    ∃ head fuel,
      Head.At self backend ((Position.start self backend).last self.buffer_policy_) head ∧
      ((Position.start self backend).last self.buffer_policy_).stream.length < fuel ∧
      self.recvAndParseOnePacket_ = head.loop fuel := by
  have hfuel : (Position.start self backend).stream.length < backend.incoming.length + 1 :=
    Nat.lt_succ_self _
  obtain ⟨head, fuel, hat, hlast, hloop, -⟩ :=
    (Head.at_start hb).reaches_after hfuel (Position.start self backend).stream.length
  refine ⟨head, fuel, hat, hlast, ?_⟩
  rw [recvAndParseOnePacket_, hb]
  exact hloop

/-- Where the last position is not cut in data, a cut-off frame returns nothing. -/
theorem loop_truncated (hat : Head.At self backend p head) (hend : backend.atEnd = none)
    (hnext : p.next self.buffer_policy_ = none) (hcut : ¬ p.CutData self.buffer_policy_)
    {fuel : Nat} (hfuel : p.stream.length < fuel) (htrunc : p.Truncated) :
    ∃ res receiver, head.loop fuel = .ok (res, receiver) ∧
      (res = .ok 0 ∨ ∃ e, res = .error e) ∧ receiver.parsed = self.parsed := by
  obtain ⟨fuel, rfl⟩ := Nat.exists_eq_add_one.mpr (Nat.zero_lt_of_lt hfuel)
  by_cases hrejected : ¬ (p.Opened ∧ p.Fits self.buffer_policy_)
  · obtain ⟨res, receiver, hres, hparsed, hopen⟩ := hat.opening_stop hrejected
    exact ⟨res, receiver, Head.loop_done (Head.frame_of_stop hopen) fuel, hres, hparsed⟩
  obtain ⟨hopened, hfits⟩ := Decidable.not_not.mp hrejected
  have hlong : ¬ p.TooLong := fun h => hcut ⟨hopened, hfits, htrunc, .inr h⟩
  have htype : p.type ≠ 0x00 := fun h => hcut ⟨hopened, hfits, htrunc, .inl h⟩
  rcases hat.frame_cut hnext hopened hfits hlong htype with
    ⟨e, receiver, hframe, hparsed⟩ | ⟨head', hstep, hspent⟩
  · exact ⟨.error e, receiver, Head.loop_done hframe fuel, .inr ⟨e, rfl⟩, hparsed⟩
  · obtain ⟨res, receiver, hres, hparsed, hopen⟩ := hspent.opening_eq
    have hlen := hopened.1
    obtain ⟨fuel, rfl⟩ := Nat.exists_eq_add_one.mpr (show 0 < fuel by omega)
    refine ⟨res, receiver, ?_, ?_, hparsed⟩
    · rw [Head.loop_step hstep]
      exact Head.loop_done (Head.frame_of_stop hopen) fuel
    · obtain rfl | ⟨e, he, -⟩ := hres
      · exact .inl rfl
      · rw [hend] at he
        contradiction

/-- A last segment that is cut off is parsed as if it were empty. -/
theorem loop_cutData (hat : Head.At self backend p head) (hend : backend.atEnd = none)
    (hcut : p.CutData self.buffer_policy_) {fuel : Nat} (hfuel : p.stream.length < fuel) :
    (∃ fault, head.loop fuel = .error fault) ∨
    (∃ res receiver packet, head.loop fuel = .ok (res, receiver) ∧
      receiver.parsed = self.parsed ++ [packet]) := by
  obtain ⟨fuel, rfl⟩ := Nat.exists_eq_add_one.mpr (Nat.zero_lt_of_lt hfuel)
  obtain ⟨hopened, hfits, htrunc, hdata⟩ := hcut
  by_cases hlong : p.TooLong
  · obtain ⟨fault, hopen⟩ := hat.opening_fault hopened hfits hlong
    have hframe := Head.frame_of_error hopen
    exact .inl ⟨fault, congrArg (· >>= _) hframe⟩
  have htype : p.type = 0x00 := hdata.resolve_right hlong
  obtain ⟨calls, buf, hbuf, hframe⟩ := hat.frame_final hopened hfits hlong htype
  have hshort : (p.stream.drop 12).length < p.announced := by
    have hlen := hopened.1
    rw [Position.Truncated] at htrunc
    rw [List.length_drop]
    omega
  rw [Source.exact_of_lt (b := { backend with incoming := p.stream.drop 12 }) hshort hend] at hframe
  have hinside : 0 + (p.total_size + 0) ≤ buf.length := by
    have := p.le_grown
    omega
  rw [Head.loop_eof hframe, parseReceived, moved_recv_buf, subspan_eq hinside, ok_bind]
  cases hparse : self.packet_parser_.parse ((buf.drop 0).take (p.total_size + 0)) with
  | error fault => exact .inl ⟨fault, congrArg (· >>= _) hparse⟩
  | ok parsed =>
      obtain ⟨status, parser⟩ := parsed
      refine .inr ?_
      by_cases hsuccess : status = .Success
      · exact ⟨_, _, _, (congrArg (· >>= _) hparse).trans (if_neg (not_not_intro hsuccess)), rfl⟩
      · exact ⟨_, _, _, (congrArg (· >>= _) hparse).trans (if_pos hsuccess), rfl⟩

/-- A stream that ends with zero bytes never yields a packet, exactly if the frame in which
the call stops is no data that was cut off. -/
theorem recvAndParseOnePacket_rejects_iff (hb : self.tcp_backend_ = some backend)
    (hend : backend.atEnd = none) :
    RejectsTruncation self ((Position.start self backend).last self.buffer_policy_) ↔
      ¬ ((Position.start self backend).last self.buffer_policy_).CutData self.buffer_policy_ := by
  obtain ⟨head, fuel, hat, hfuel, hrun⟩ := recvAndParseOnePacket_last hb
  constructor
  · rintro ⟨-, hreturns⟩ hcut
    obtain ⟨res, receiver, hres, -, hparsed⟩ := hreturns hcut.2.2.1
    rw [hrun] at hres
    rcases loop_cutData hat hend hcut hfuel with
      ⟨fault, hfault⟩ | ⟨res', receiver', packet, hres', hparsed'⟩
    · rw [hfault] at hres
      contradiction
    · obtain ⟨-, rfl⟩ := Prod.mk.inj (Except.ok.inj (hres.symm.trans hres'))
      rw [hparsed] at hparsed'
      simp at hparsed'
  · intro hcut
    apply RejectsTruncation.of_returns
    intro htrunc
    rw [hrun]
    exact loop_truncated hat hend Position.next_last hcut hfuel htrunc

end Truncation

/-- The stream ends inside a continued segment. -/
def cutSegment : Receiver where
  tcp_backend_ := some { incoming := [0x02, 0, 0, 0, 0, 0, 0, 0, 0, 0, 0, 9, 0x01, 0x34] }
  recv_buf_ := []

theorem recvAndParseOnePacket_rejects_cutSegment :
    RejectsTruncation cutSegment ((Position.start cutSegment
      { incoming := [0x02, 0, 0, 0, 0, 0, 0, 0, 0, 0, 0, 9, 0x01, 0x34] }).last .AutoResize) := by
  have hbackend : cutSegment.tcp_backend_ =
      some { incoming := [0x02, 0, 0, 0, 0, 0, 0, 0, 0, 0, 0, 9, 0x01, 0x34] } := rfl
  exact (recvAndParseOnePacket_rejects_iff hbackend rfl).mpr (by decide)

/-- A write reply in a continued segment, and the header of a last segment of one byte that
never arrives. -/
def cutReply : Receiver where
  tcp_backend_ := some {
    incoming := [0x02, 0, 0, 0, 0, 0, 0, 0, 0, 0, 0, 9,
      0x01, 0x34, 0x01, 0x3C, 0x00, 0xFE, 0x00, 0x20, 0x74,
      0x00, 0, 0, 0, 0, 0, 0, 0, 0, 0, 0, 1] }
  recv_buf_ := []

/-- The call returns the size of the first segment, with a packet that parsed. -/
theorem recvAndParseOnePacket_cutReply :
    ∃ backend, cutReply.tcp_backend_ = some backend ∧ backend.atEnd = none ∧
      ¬ RejectsTruncation cutReply
        ((Position.start cutReply backend).last cutReply.buffer_policy_) := by
  refine ⟨_, rfl, rfl, ?_⟩
  rintro ⟨hpositive, -⟩
  have hres : cutReply.recvAndParseOnePacket_.map (·.1) = .ok (.ok 9) := by decide +kernel
  cases hrun : cutReply.recvAndParseOnePacket_ with
  | error fault =>
      rw [hrun] at hres
      contradiction
  | ok outcome =>
      obtain ⟨res, receiver⟩ := outcome
      rw [hrun] at hres
      obtain rfl : res = .ok 9 := Except.ok.inj hres
      exact hpositive 9 receiver hrun (by decide) (by decide)

/-- A last segment of one byte that never arrives, and nothing before it. -/
def cutHeader : Receiver where
  tcp_backend_ := some { incoming := [0x00, 0, 0, 0, 0, 0, 0, 0, 0, 0, 0, 1] }
  recv_buf_ := []

/-- The parser is called with the empty span, and reads its first byte. -/
theorem recvAndParseOnePacket_cutHeader :
    ¬PacketParser.Returns (PacketParser.parse {} []) ∧
    cutHeader.recvAndParseOnePacket_ = .error .outOfRange := by
  constructor
  · rintro ⟨status, next, hparse⟩
    rw [PacketParser.parse_nil] at hparse
    contradiction
  · have hfault : cutHeader.recvAndParseOnePacket_.map (·.1) = .error .outOfRange := by
      decide +kernel
    cases hrun : cutHeader.recvAndParseOnePacket_ with
    | ok outcome =>
        rw [hrun] at hfault
        contradiction
    | error fault =>
        rw [hrun] at hfault
        exact congrArg _ (Except.error.inj hfault)

/-- In the round that begins here: a payload is received into the part of `recv_buf_` from the
gathered size on, which has room for it; or the call returns before, or `recv_buf_` cannot
grow. -/
def Head.Sound (head : Head) : Prop :=
  head.opening = .error .lengthError ∨ ∃ opening receiver, head.opening = .ok (opening, receiver) ∧
    match opening with
    | .stop res => res = .ok 0 ∨ ∃ e, res = .error e
    | .frame header dataLength recv_buffer =>
        header.getD 0 0 = 0x00 ∨ header.getD 0 0 = 0x02 →
          recv_buffer.offset = head.total_size ∧
          recv_buffer.offset + recv_buffer.size = receiver.recv_buf_.length ∧
          dataLength ≤ recv_buffer.size

section Bounds

variable {self : Receiver} {backend : Backend} {p : Position} {head : Head}

theorem Head.At.sound (hat : Head.At self backend p head)
    (hover : ¬ p.Overflows self.buffer_policy_) : head.Sound := by
  by_cases hrejected : ¬ (p.Opened ∧ p.Fits self.buffer_policy_)
  · obtain ⟨res, receiver, hres, -, hopen⟩ := hat.opening_stop hrejected
    exact .inr ⟨_, receiver, hopen, hres⟩
  obtain ⟨hopened, hfits⟩ := Decidable.not_not.mp hrejected
  have hwraps : ¬ p.Wraps := fun h => hover ⟨hopened, hfits, h⟩
  by_cases hlong : p.TooLong
  · exact .inl (hat.opening_tooLong hopened hfits hlong hwraps)
  obtain ⟨calls, buf, hbuf, hopen⟩ := hat.opening_frame hopened hfits hlong
  refine .inr ⟨_, _, hopen, ?_⟩
  intro htype
  obtain ⟨calls', buf', -, rfl⟩ := hat
  refine ⟨rfl, ?_, p.announced_le_room⟩
  have := p.le_grown
  rw [moved_recv_buf, hbuf]
  exact Nat.add_sub_cancel' this

theorem Head.At.not_sound (hat : Head.At self backend p head)
    (hover : p.Overflows self.buffer_policy_) : ¬ head.Sound := by
  obtain ⟨hopened, hfits, hwraps⟩ := hover
  rintro (hopen | ⟨opening, receiver, hopen, -⟩)
  · rw [hat.opening_wraps hopened hfits hwraps] at hopen
    cases hopen
  · rw [hat.opening_wraps hopened hfits hwraps] at hopen
    contradiction

/-- The call comes to the frame at the last position. -/
theorem exists_not_sound (hb : self.tcp_backend_ = some backend)
    (hover : ((Position.start self backend).last self.buffer_policy_).Overflows
      self.buffer_policy_) :
    ∃ head, Reaches Head.step always (.start self) head ∧ ¬ head.Sound := by
  obtain ⟨head, fuel, hat, -, -, hreach⟩ := (Head.at_start hb).reaches_after
    (Nat.lt_succ_self _) (Position.start self backend).stream.length
  exact ⟨head, hreach, hat.not_sound hover⟩

/-- In every round of a call the payload lies inside the buffer, exactly if the frame in which
the call stops does not make the size of the buffer wrap. -/
theorem payload_inside_iff (hb : self.tcp_backend_ = some backend) :
    (∀ head, Reaches Head.step always (.start self) head → head.Sound) ↔
      ¬ ((Position.start self backend).last self.buffer_policy_).Overflows self.buffer_policy_ := by
  constructor
  · intro hsound hover
    obtain ⟨head, hreach, hnot⟩ := exists_not_sound hb hover
    exact hnot (hsound head hreach)
  · intro hover head hreach
    obtain ⟨n, hat⟩ | hspent := (Head.at_start hb).of_reaches hreach
    · apply hat.sound
      -- An overflow is the end of the call, so it would be the one at the last position.
      intro hover'
      apply hover
      rw [← Position.after_eq_last (n := n)]
      · exact hover'
      · rw [Position.next, if_neg]
        rintro ⟨-, -, hlong, -⟩
        exact hlong hover'.2.2.tooLong
    · obtain ⟨res, receiver, hres, -, hopen⟩ := hspent.opening_eq
      refine .inr ⟨_, receiver, hopen, ?_⟩
      obtain rfl | ⟨e, -, rfl⟩ := hres
      · exact .inl rfl
      · exact .inr ⟨e, rfl⟩

end Bounds

theorem payload_inside_cutSegment :
    ¬ ((Position.start cutSegment
      { incoming := [0x02, 0, 0, 0, 0, 0, 0, 0, 0, 0, 0, 9, 0x01, 0x34] }).last
        .AutoResize).Overflows .AutoResize ∧
      ∀ head, Reaches Head.step always (.start cutSegment) head → head.Sound := by
  have hbackend : cutSegment.tcp_backend_ =
      some { incoming := [0x02, 0, 0, 0, 0, 0, 0, 0, 0, 0, 0, 9, 0x01, 0x34] } := rfl
  have hfits : ¬ ((Position.start cutSegment
      { incoming := [0x02, 0, 0, 0, 0, 0, 0, 0, 0, 0, 0, 9, 0x01, 0x34] }).last
        .AutoResize).Overflows .AutoResize := by decide
  exact ⟨hfits, (payload_inside_iff hbackend).mpr hfits⟩

/-- One byte, and a frame that announces all but one of the `2 ^ 64` sizes. -/
def wrappingLength : Receiver where
  tcp_backend_ := some {
    incoming := [0x02, 0, 0, 0, 0, 0, 0, 0, 0, 0, 0, 1, 0xAA,
      0x00, 0, 0, 0, 0xFF, 0xFF, 0xFF, 0xFF, 0xFF, 0xFF, 0xFF, 0xFF] }
  recv_buf_ := [0x00]

/-- The buffer is resized to no bytes, and the sub-span starts behind its end. -/
theorem payload_outside_wrappingLength :
    ¬ ∀ head, Reaches Head.step always (.start wrappingLength) head → head.Sound := by
  intro hsound
  have hbackend : wrappingLength.tcp_backend_ = some {
      incoming := [0x02, 0, 0, 0, 0, 0, 0, 0, 0, 0, 0, 1, 0xAA,
        0x00, 0, 0, 0, 0xFF, 0xFF, 0xFF, 0xFF, 0xFF, 0xFF, 0xFF, 0xFF] } := rfl
  obtain ⟨head, hreach, hnot⟩ := exists_not_sound hbackend (by decide)
  exact hnot (hsound head hreach)

end SpwRmap
