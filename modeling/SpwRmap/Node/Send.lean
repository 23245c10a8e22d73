import SpwRmap.Node.Basic
import SpwRmap.Node.Reassembly

/-!
# What the send paths put on the wire

Every send path reserves room, builds a packet behind the first 12 bytes of
`send_buf_` and lets `send_` fill those in. On a connected node with an
automatically resized buffer, whose socket takes all bytes, the result is one frame
of type `0x00` around the wire image of the packet, and nothing but `send_buf_` and
the bytes sent has changed. The read command is the exception: its first estimate
leaves out the frame header, so it needs a buffer that is large enough already. A packet
that the index of the builder does not count is never sent.
-/

namespace SpwRmap

open Span Bytes

/-- The frame in which `send_` hands over a packet. -/
def Frame.single (packet : List UInt8) : Frame where
  type := 0x00
  payload := packet

/-- With room, a builder writes the packet and nothing else, as far as its index counts. -/
def Builds (build : List UInt8 → Checked BuildResult) (packet : List UInt8) : Prop :=
  ∀ out, packet.length ≤ out.length → build out =
    if packet.length ≤ INT_MAX then
      .ok (.ok packet.length, packet ++ out.drop packet.length)
    else .error .overflow

theorem ReadPacketBuilder.builds (ndebug : Bool) (config : ReadPacketConfig)
    (hreply : config.replyAddress.length ≤ 12) :
    Builds (ReadPacketBuilder.build ndebug config) (ReadPacketBuilder.wire config) := by
  intro out hout
  rw [wire_length config hreply] at hout ⊢
  split
  · rename_i hint
    exact build_eq ndebug config out hreply hout hint
  · rename_i hint
    exact build_overflow ndebug config out hreply hout (Nat.lt_of_not_le hint)

theorem WritePacketBuilder.builds (ndebug : Bool) (config : WritePacketConfig)
    (hreply : config.replyAddress.length ≤ 12) :
    Builds (WritePacketBuilder.build ndebug config) (WritePacketBuilder.wire config) := by
  intro out hout
  rw [wire_length config hreply] at hout ⊢
  split
  · rename_i hint
    exact build_eq ndebug config out hreply hout hint
  · rename_i hint
    exact build_overflow ndebug config out hreply hout (Nat.lt_of_not_le hint)

theorem ReadReplyPacketBuilder.builds (config : ReadReplyPacketConfig) :
    Builds (ReadReplyPacketBuilder.build config) (ReadReplyPacketBuilder.wire config) := by
  intro out hout
  rw [wire_length config] at hout ⊢
  split
  · rename_i hint
    exact build_eq config out hout hint
  · rename_i hint
    exact build_overflow config out hout (Nat.lt_of_not_le hint)

theorem WriteReplyPacketBuilder.builds (config : WriteReplyPacketConfig) :
    Builds (WriteReplyPacketBuilder.build config) (WriteReplyPacketBuilder.wire config) := by
  intro out hout
  rw [wire_length config] at hout ⊢
  split
  · rename_i hint
    exact build_eq config out hout hint
  · rename_i hint
    exact build_overflow config out hout (Nat.lt_of_not_le hint)

namespace Node

variable {self : Node} {env : Environment} {packet : List UInt8}

/-- Connected, with buffers that grow. -/
structure Ready (node : Node) : Prop where
  connected : node.receiver.tcp_backend_.isSome
  autoResize : node.receiver.buffer_policy_ = .AutoResize

def withBuffer (self : Node) (buf : List UInt8) : Node := { self with send_buf_ := buf }

/-- The node after a packet was sent from the buffer `buf`. -/
def transmitted (self : Node) (packet buf : List UInt8) : Node :=
  { self with
    send_buf_ := buf
    handed := self.handed ++ [⟨(Frame.single packet).encode, .sent⟩]
    sent := self.sent ++ (Frame.single packet).encode }

@[simp] theorem withBuffer_send_buf (self : Node) (buf : List UInt8) :
    (self.withBuffer buf).send_buf_ = buf := rfl

theorem withBuffer_writeConfig (self : Node) (buf : List UInt8) (target_node : TargetNode)
    (transaction_id : UInt16) (memory_address : UInt32) (data : List UInt8) :
    (self.withBuffer buf).writeConfig target_node transaction_id memory_address data =
      self.writeConfig target_node transaction_id memory_address data := rfl

theorem Ready.withBuffer (hready : Ready self) (buf : List UInt8) : Ready (self.withBuffer buf) :=
  ⟨hready.connected, hready.autoResize⟩

theorem Ready.not_isNone (hready : Ready self) : ¬self.receiver.tcp_backend_.isNone = true := by
  rw [Option.isNone_eq_false_iff.mpr hready.connected]
  exact Bool.false_ne_true

theorem sendAll_eq (hready : Ready self) (hsend : env.sendAll = .sent) (data : List UInt8) :
    self.sendAll env data = .ok (.ok (), { self with
      handed := self.handed ++ [⟨data, .sent⟩]
      sent := self.sent ++ data }) := by
  obtain ⟨backend, hbackend⟩ := Option.isSome_iff_exists.mp hready.connected
  simp only [sendAll, hbackend, hsend]

/-- The twelve stores of `send_` are one store of the header of a frame. -/
theorem send_stores (self : Node) (env : Environment) (payload : List UInt8) :
    self.send_ env payload.length =
      (Cursor.start self.send_buf_).putAll (Frame.single payload).header >>= fun c =>
        subspan c.out 0 (payload.length + 12) >>= fun data =>
          (self.withBuffer c.out).sendAll env data := by
  simp only [send_, Cursor.put_eq, Cursor.putAll_bind_putAll]
  rfl

/-- `send_` completes the frame around the packet that is already in the buffer, and hands
it over. -/
theorem send_hands (self : Node) (env : Environment) {front rest : List UInt8}
    (hfront : front.length = 12) (hbuf : self.send_buf_ = front ++ (packet ++ rest)) :
    self.send_ env packet.length =
      (self.withBuffer ((Frame.single packet).encode ++ rest)).sendAll env
        (Frame.single packet).encode := by
  let frame := Frame.single packet
  have hroom : frame.header.length ≤ self.send_buf_.length := by
    rw [hbuf, List.length_append, hfront, Frame.header_length]
    omega
  have hout : (Cursor.after self.send_buf_ frame.header).out = frame.encode ++ rest := by
    simp only [Cursor.after, Frame.header_length, hbuf, List.drop_left' hfront, Frame.encode,
      List.append_assoc]
    rfl
  have hdata : subspan (frame.encode ++ rest) 0 (packet.length + 12) = .ok frame.encode := by
    have hlen : frame.encode.length = packet.length + 12 := by
      rw [Frame.encode_length, Nat.add_comm]
      rfl
    rw [subspan_eq (by simp [hlen]), List.drop_zero, List.take_left' hlen]
  have hint : ([] : List UInt8).length + frame.header.length ≤ INT_MAX := by
    rw [Frame.header_length]
    decide
  rw [send_stores, Cursor.start_eq, Cursor.after_putAll _ (by simpa using hroom) hint, ok_bind,
    List.nil_append, hout, hdata, ok_bind]

theorem send_eq (hready : Ready self) (hsend : env.sendAll = .sent) {front rest : List UInt8}
    (hfront : front.length = 12) (hbuf : self.send_buf_ = front ++ (packet ++ rest)) :
    ∃ buf, self.send_ env packet.length = .ok (.ok (), self.transmitted packet buf) := by
  refine ⟨(Frame.single packet).encode ++ rest, ?_⟩
  rw [send_hands self env hfront hbuf]
  exact sendAll_eq (hready.withBuffer _) hsend _

/-- What `build` leaves of the buffer: its first 12 bytes, the packet and the bytes behind. -/
def built (self : Node) (packet : List UInt8) : List UInt8 :=
  self.send_buf_.take 12 ++ (packet ++ (self.send_buf_.drop 12).drop packet.length)

/-- A packet is built behind the first 12 bytes of a buffer with room. -/
theorem buildPacket_built {build : List UInt8 → Checked BuildResult} (hbuild : Builds build packet)
    (hroom : packet.length + 12 ≤ self.send_buf_.length) (hint : packet.length ≤ INT_MAX) :
    self.buildPacket build = .ok (.ok packet.length, self.withBuffer (self.built packet)) := by
  have hout := hbuild (self.send_buf_.drop 12) (by rw [List.length_drop]; omega)
  rw [if_pos hint] at hout
  rw [buildPacket, dropFront_eq (by omega), ok_bind, hout, ok_bind]
  rfl

theorem buildPacket_overflow {build : List UInt8 → Checked BuildResult}
    (hbuild : Builds build packet) (hroom : packet.length + 12 ≤ self.send_buf_.length)
    (hint : ¬packet.length ≤ INT_MAX) : self.buildPacket build = .error .overflow := by
  have hout := hbuild (self.send_buf_.drop 12) (by rw [List.length_drop]; omega)
  rw [if_neg hint] at hout
  rw [buildPacket, dropFront_eq (by omega), ok_bind, hout, error_bind]

/-- A packet is built behind the first 12 bytes of a buffer with room and sent from
there. -/
theorem build_send {build : List UInt8 → Checked BuildResult} (hready : Ready self)
    (hsend : env.sendAll = .sent) (hbuild : Builds build packet)
    (hroom : packet.length + 12 ≤ self.send_buf_.length) (hint : packet.length ≤ INT_MAX) :
    ∃ buf buf', self.buildPacket build = .ok (.ok packet.length, self.withBuffer buf) ∧
      packet.length + 12 ≤ buf.length ∧
      (self.withBuffer buf).send_ env packet.length =
        .ok (.ok (), self.transmitted packet buf') := by
  have hfront : (self.send_buf_.take 12).length = 12 := List.length_take_of_le (by omega)
  obtain ⟨buf', hsent⟩ := send_eq (hready.withBuffer (self.built packet)) hsend hfront rfl
  refine ⟨self.built packet, buf', buildPacket_built hbuild hroom hint, ?_, hsent⟩
  simp only [built, List.length_append, hfront]
  omega

/-- A buffer that grows has the room asked for afterwards. -/
theorem ensureSendRoom_eq (hready : Ready self) (size : Nat) :
    ∃ buf, self.ensureSendRoom size = .ok (self.withBuffer buf) ∧
      buf.length = max size self.send_buf_.length := by
  rw [ensureSendRoom]
  by_cases hgrow : size > self.send_buf_.length
  · refine ⟨resize 0 self.send_buf_ size, ?_, ?_⟩
    · rw [if_pos hgrow, if_neg (by simp [hready.autoResize])]
      rfl
    · rw [resize_length]
      omega
  · exact ⟨self.send_buf_, if_neg hgrow, by omega⟩

theorem ensureSendRoom_of_le {size : Nat} (h : size ≤ self.send_buf_.length) :
    self.ensureSendRoom size = .ok self :=
  if_neg (by omega)

/-- The first estimate of `sendReadPacket_` has one byte more than the packet. -/
theorem readEstimate_eq (self : Node) (target_node : TargetNode) (transaction_id : UInt16)
    (memory_address data_length : UInt32) :
    target_node.targetSpaceWireAddress.length + (target_node.replyAddress.length + 3) / 4 * 4 +
      4 + 12 + 1 = ReadPacketBuilder.getTotalSize
        (self.readConfig target_node transaction_id memory_address data_length) + 1 := by
  simp only [ReadPacketBuilder.getTotalSize, readConfig]
  omega

/-- The estimate of `sendWritePacket_` is the size of the packet. -/
theorem writeEstimate_eq (self : Node) (target_node : TargetNode) (transaction_id : UInt16)
    (memory_address : UInt32) (data : List UInt8) :
    target_node.targetSpaceWireAddress.length + (target_node.replyAddress.length + 3) / 4 * 4 +
      4 + 12 + 1 + data.length = WritePacketBuilder.getTotalSize
        (self.writeConfig target_node transaction_id memory_address data) := by
  simp only [WritePacketBuilder.getTotalSize, writeConfig]
  omega

/-- In a buffer that is too short, the builder of a read command refuses. -/
theorem buildPacket_short (ndebug : Bool) {config : ReadPacketConfig}
    (hheader : 12 ≤ self.send_buf_.length)
    (hshort : self.send_buf_.length < ReadPacketBuilder.getTotalSize config + 12) :
    self.buildPacket (ReadPacketBuilder.build ndebug config) =
      .ok (.error (.errc .no_buffer_space), self) := by
  have hbuild : ReadPacketBuilder.build ndebug config (self.send_buf_.drop 12) =
      .ok (.error (.errc .no_buffer_space), self.send_buf_.drop 12) := by
    rw [ReadPacketBuilder.build, if_pos]
    rw [List.length_drop]
    omega
  rw [buildPacket, dropFront_eq hheader, ok_bind, hbuild]
  simp only [ok_bind, List.take_append_drop, pure_eq_ok]

section Commands

variable (ndebug : Bool) (hready : Ready self) {target_node : TargetNode}
variable (hreply : target_node.replyAddress.length ≤ 12)
variable (transaction_id : UInt16) (memory_address : UInt32)
include hready hreply

theorem sendWritePacket_eq (hsend : env.sendAll = .sent) (data : List UInt8)
    (hint : WritePacketBuilder.getTotalSize
      (self.writeConfig target_node transaction_id memory_address data) ≤ INT_MAX) :
    ∃ buf, self.sendWritePacket_ ndebug env target_node transaction_id memory_address data =
      .ok (.ok (), self.transmitted (WritePacketBuilder.wire
        (self.writeConfig target_node transaction_id memory_address data)) buf) := by
  let config := self.writeConfig target_node transaction_id memory_address data
  have hlen : (WritePacketBuilder.wire config).length = WritePacketBuilder.getTotalSize config :=
    WritePacketBuilder.wire_length config hreply
  have hestimate : _ = WritePacketBuilder.getTotalSize config :=
    self.writeEstimate_eq target_node transaction_id memory_address data
  obtain ⟨buf, hensure, hsize⟩ :=
    ensureSendRoom_eq hready (WritePacketBuilder.getTotalSize config + 12)
  obtain ⟨buf₁, buf₂, hpacket, -, hsent⟩ := build_send (hready.withBuffer buf) hsend
    (WritePacketBuilder.builds ndebug config hreply) (by rw [withBuffer_send_buf]; omega)
    (hlen.trans_le hint)
  refine ⟨buf₂, ?_⟩
  rw [hlen] at hsent
  rw [sendWritePacket_, if_neg hready.not_isNone, hestimate]
  simp only [hensure]
  exact (congrArg (· >>= _) hpacket).trans hsent

theorem sendReadPacket_eq (hsend : env.sendAll = .sent) (data_length : UInt32)
    (hroom : ReadPacketBuilder.getTotalSize
      (self.readConfig target_node transaction_id memory_address data_length) + 12 ≤
        self.send_buf_.length)
    (hint : ReadPacketBuilder.getTotalSize
      (self.readConfig target_node transaction_id memory_address data_length) ≤ INT_MAX) :
    ∃ buf, self.sendReadPacket_ ndebug env target_node transaction_id memory_address data_length =
      .ok (.ok (), self.transmitted (ReadPacketBuilder.wire
        (self.readConfig target_node transaction_id memory_address data_length)) buf) := by
  have hestimate := self.readEstimate_eq target_node transaction_id memory_address data_length
  have hreplyAddress : (self.readConfig target_node transaction_id memory_address
      data_length).replyAddress.length ≤ 12 := hreply
  generalize hconfig : self.readConfig target_node transaction_id memory_address data_length =
    config at hroom hint hestimate hreplyAddress ⊢
  have hlen := ReadPacketBuilder.wire_length config hreplyAddress
  obtain ⟨buf, buf', hpacket, hkeeps, hsent⟩ := build_send hready hsend
    (ReadPacketBuilder.builds ndebug config hreplyAddress) (by omega) (by omega)
  rw [hlen] at hkeeps hsent
  refine ⟨buf', ?_⟩
  rw [sendReadPacket_, if_neg hready.not_isNone, hestimate]
  simp only [ensureSendRoom_of_le (show ReadPacketBuilder.getTotalSize config + 1 ≤
    self.send_buf_.length by omega), hconfig, hpacket, ok_bind]
  simp only [ensureSendRoom_of_le (show ReadPacketBuilder.getTotalSize config + 12 ≤
    (self.withBuffer buf).send_buf_.length from hkeeps)]
  exact hsent

omit hreply in
/-- In a smaller buffer the packet does not fit, because the estimate that the
buffer is grown to leaves out the frame header. -/
theorem sendReadPacket_short (env : Environment) (data_length : UInt32)
    (hshort : self.send_buf_.length < ReadPacketBuilder.getTotalSize
      (self.readConfig target_node transaction_id memory_address data_length) + 12) :
    ∃ buf, self.sendReadPacket_ ndebug env target_node transaction_id memory_address data_length =
        .ok (.error (.errc .no_buffer_space), self.withBuffer buf) ∧
      buf.length < ReadPacketBuilder.getTotalSize
        (self.readConfig target_node transaction_id memory_address data_length) + 12 := by
  have hestimate := self.readEstimate_eq target_node transaction_id memory_address data_length
  obtain ⟨buf, hensure, hsize⟩ := ensureSendRoom_eq hready (ReadPacketBuilder.getTotalSize
    (self.readConfig target_node transaction_id memory_address data_length) + 1)
  have hconfig : (self.withBuffer buf).readConfig target_node transaction_id memory_address
    data_length = self.readConfig target_node transaction_id memory_address data_length := rfl
  have hlow : 16 ≤ ReadPacketBuilder.getTotalSize
      (self.readConfig target_node transaction_id memory_address data_length) := by
    rw [ReadPacketBuilder.getTotalSize]
    omega
  generalize self.readConfig target_node transaction_id memory_address data_length =
    config at *
  have hpacket : (self.withBuffer buf).buildPacket (ReadPacketBuilder.build ndebug config) =
      .ok (.error (.errc .no_buffer_space), self.withBuffer buf) :=
    buildPacket_short ndebug (by rw [withBuffer_send_buf]; omega)
      (by rw [withBuffer_send_buf]; omega)
  refine ⟨buf, ?_, by omega⟩
  rw [sendReadPacket_, if_neg hready.not_isNone, hestimate]
  simp only [hensure, hconfig, hpacket, ok_bind, pure_eq_ok]

end Commands

/-- Both replies of `poll`. -/
theorem sendReply_eq {build : List UInt8 → Checked BuildResult} (hready : Ready self)
    (hsend : env.sendAll = .sent) (hbuild : Builds build packet)
    (hint : packet.length ≤ INT_MAX) :
    ∃ buf, self.sendReply env packet.length build =
      .ok (.ok true, self.transmitted packet buf) := by
  obtain ⟨buf, hensure, hsize⟩ := ensureSendRoom_eq hready (packet.length + 12)
  obtain ⟨buf₁, buf₂, hpacket, -, hsent⟩ := build_send (hready.withBuffer buf) hsend hbuild
    (by rw [withBuffer_send_buf]; omega) hint
  refine ⟨buf₂, ?_⟩
  simp only [sendReply, hensure]
  refine (congrArg (· >>= _) hpacket).trans ?_
  simp only [ok_bind]
  exact congrArg (· >>= _) hsent

end Node

end SpwRmap
