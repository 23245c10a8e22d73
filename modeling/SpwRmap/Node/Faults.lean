import SpwRmap.Node.Calls
import SpwRmap.Node.Chunking

/-!
# What the paths of a node can fault on, and what they leave alone

A call that sends or receives stops, if it does, at an access out of range or at an
assertion: with a backend in place there is no null pointer to follow, and no loop runs
on. A send path changes the send buffer and the bytes sent, and nothing else; a receive
path changes the receiver, and neither drops a backend nor finds one.
-/

namespace SpwRmap

open Span Outcome Stream

/-- A computation that faults on its data only. -/
abbrev Contained {α : Type} (x : Checked α) : Prop := Yields Fault.OfData (fun _ => True) x

theorem subspan_contained {α : Type} (s : List α) (off len : Nat) :
    Contained (subspan s off len) := by
  rw [subspan]
  split
  · trivial
  · trivial

theorem dropFront_contained {α : Type} (s : List α) (off : Nat) :
    Contained (dropFront s off) := by
  rw [dropFront]
  split
  · trivial
  · trivial

theorem check_contained (ndebug : Bool) (condition : Prop) [Decidable condition] :
    Contained (check ndebug condition) := by
  rw [check]
  split
  · trivial
  · trivial

/-- Stores stay inside the span. -/
theorem putAll_yields (c : Cursor) (bytes : List UInt8) :
    Yields Fault.OfData (fun c' => c'.out.length = c.out.length) (c.putAll bytes) := by
  induction bytes generalizing c with
  | nil => exact rfl
  | cons b bs ih =>
      rw [Cursor.putAll, Cursor.put]
      split
      · split
        · exact (ih _).mono fun c' hlength => hlength.trans List.length_set
        · trivial
      · trivial

theorem putAll_contained (c : Cursor) (bytes : List UInt8) : Contained (c.putAll bytes) :=
  (putAll_yields c bytes).mono fun _ _ => trivial

theorem putCommandHeader_contained (ndebug : Bool) (f : CommandFields) (out : List UInt8) :
    Contained (putCommandHeader ndebug f out) := by
  simp only [putCommandHeader, Cursor.put_eq, Cursor.putRepeat_eq, Cursor.putAll_bind_putAll]
  apply (putAll_contained _ _).bind
  intro c _
  apply (check_contained ndebug _).bind
  intro _ _
  apply (putAll_contained _ _).bind
  intro c _
  apply (subspan_contained _ _ _).bind
  intro body _
  exact putAll_contained _ _

theorem putReplyHeader_contained (f : ReplyFields) (out : List UInt8) :
    Contained (putReplyHeader f out) := by
  simp only [putReplyHeader, Cursor.put_eq, Cursor.putAll_bind_putAll]
  apply (putAll_contained _ _).bind
  intro c _
  exact putAll_contained _ _

theorem ReadPacketBuilder.build_contained (ndebug : Bool) (config : ReadPacketConfig)
    (out : List UInt8) : Contained (build ndebug config out) := by
  rw [build]
  split
  · trivial
  · apply (putCommandHeader_contained ndebug _ out).bind
    intro c _
    trivial

theorem WritePacketBuilder.build_contained (ndebug : Bool) (config : WritePacketConfig)
    (out : List UInt8) : Contained (build ndebug config out) := by
  rw [build]
  split
  · trivial
  · apply (putCommandHeader_contained ndebug _ out).bind
    intro c _
    simp only [Cursor.put_eq, Cursor.putAll_bind_putAll]
    apply (putAll_contained _ _).bind
    intro c _
    trivial

theorem ReadReplyPacketBuilder.build_contained (config : ReadReplyPacketConfig)
    (out : List UInt8) : Contained (build config out) := by
  rw [build]
  split
  · trivial
  · apply (putReplyHeader_contained _ out).bind
    intro c _
    simp only [Cursor.put_eq, Cursor.putAll_bind_putAll]
    apply (putAll_contained _ _).bind
    intro c _
    apply (subspan_contained _ _ _).bind
    intro body _
    apply (putAll_contained _ _).bind
    intro c _
    trivial

theorem WriteReplyPacketBuilder.build_contained (config : WriteReplyPacketConfig)
    (out : List UInt8) : Contained (build config out) := by
  rw [build]
  split
  · trivial
  · apply (putReplyHeader_contained _ out).bind
    intro c _
    apply (subspan_contained _ _ _).bind
    intro body _
    simp only [Cursor.put_eq]
    apply (putAll_contained _ _).bind
    intro c _
    trivial

namespace Node

variable {self node : Node}

/-- `node` is `self` with other bytes in the send buffer and more of them sent. -/
def Transmits (self node : Node) : Prop :=
  ∃ buf handed sent, node = { self with send_buf_ := buf, handed := handed, sent := sent }

theorem Transmits.receiver_eq (h : Transmits self node) : node.receiver = self.receiver := by
  obtain ⟨buf, handed, sent, rfl⟩ := h
  rfl

/-- What a send path returns and leaves. It has called `sendAll` once and on one frame if
it succeeds. -/
structure Sends {α : Type} (env : Environment) (node : Node) (r : Except ErrorCode α × Node) :
    Prop where
  transmits : Transmits node r.2
  frame : env.sendAll = .sent → ∀ a, r.1 = .ok a →
    ∃ frame : Frame, r.2.sent = node.sent ++ frame.encode

section Sends

variable {α : Type} {env : Environment}

/-- An error returned before the call of `sendAll`. -/
theorem Sends.refused (e : ErrorCode) (buf : List UInt8) :
    Sends env self ((.error e, self.withBuffer buf) : Except ErrorCode α × Node) := by
  constructor
  case transmits => exact ⟨buf, self.handed, self.sent, rfl⟩
  case frame =>
    intro _ a ha
    cases ha

theorem Sends.of_withBuffer {buf : List UInt8} {r : Except ErrorCode α × Node}
    (h : Sends env (self.withBuffer buf) r) : Sends env self r := by
  obtain ⟨⟨buf', handed, sent, hr⟩, hframe⟩ := h
  exact ⟨⟨buf', handed, sent, hr⟩, hframe⟩

end Sends

theorem sendAll_yields (self : Node) (env : Environment)
    (hbackend : self.receiver.tcp_backend_.isSome) (frame : Frame) :
    Yields Fault.OfData (Sends env self) (self.sendAll env frame.encode) := by
  obtain ⟨backend, hsome⟩ := Option.isSome_iff_exists.mp hbackend
  rw [sendAll, hsome]
  cases hsend : env.sendAll with
  | sent => exact ⟨⟨_, _, _, rfl⟩, fun _ _ _ => ⟨frame, rfl⟩⟩
  | failed e accepted =>
      refine ⟨⟨_, _, _, rfl⟩, ?_⟩
      intro hsent
      rw [hsend] at hsent
      cases hsent

/-- Whatever is in the buffer, `send_` sends it as the payload of one frame. -/
theorem send_yields (self : Node) (env : Environment)
    (hbackend : self.receiver.tcp_backend_.isSome) (total_size : Nat) :
    Yields Fault.OfData (Sends env self) (self.send_ env total_size) := by
  by_cases hroom : total_size + 12 ≤ self.send_buf_.length
  · let payload := (self.send_buf_.drop 12).take total_size
    have hlength : payload.length = total_size := by
      rw [List.length_take_of_le]
      rw [List.length_drop]
      omega
    have hheader : (Frame.single payload).header.length ≤ self.send_buf_.length := by
      rw [Frame.header_length]
      omega
    have hdata : subspan (Cursor.after self.send_buf_ (Frame.single payload).header).out 0
        (payload.length + 12) = .ok (Frame.single payload).encode := by
      have hout : (Cursor.after self.send_buf_ (Frame.single payload).header).out =
          (Frame.single payload).encode ++ self.send_buf_.drop (12 + total_size) := by
        rw [Cursor.after, Frame.header_length, Frame.encode, List.append_assoc, ← List.drop_drop]
        exact congrArg ((Frame.single payload).header ++ ·)
          (List.take_append_drop total_size (self.send_buf_.drop 12)).symm
      have hencode : (Frame.single payload).encode.length = payload.length + 12 := by
        rw [Frame.encode_length, Nat.add_comm]
        rfl
      rw [hout, subspan_eq (by simp [hencode]), List.drop_zero, List.take_left' hencode]
    have hint : ([] : List UInt8).length + (Frame.single payload).header.length ≤ INT_MAX := by
      rw [Frame.header_length]
      decide
    rw [← hlength, send_stores, Cursor.start_eq,
      Cursor.after_putAll _ (by simpa using hheader) hint, ok_bind, List.nil_append, hdata, ok_bind]
    have hsend := sendAll_yields
      (self.withBuffer (Cursor.after self.send_buf_ (Frame.single payload).header).out) env hbackend
      (Frame.single payload)
    exact hsend.mono fun r hr => hr.of_withBuffer
  · -- What is left of the buffer behind the header is shorter than the packet.
    simp only [send_, Cursor.put_eq, Cursor.putAll_bind_putAll]
    apply (putAll_yields _ _).bind
    intro c hlength
    rw [subspan, if_neg]
    · trivial
    · rw [hlength, Nat.zero_add]
      exact hroom

theorem ensureSendRoom_buffer {size : Nat} (h : self.ensureSendRoom size = .ok node) :
    ∃ buf, node = self.withBuffer buf := by
  rw [ensureSendRoom] at h
  split at h
  · split at h
    · contradiction
    · cases h
      exact ⟨_, rfl⟩
  · cases h
    exact ⟨self.send_buf_, rfl⟩

theorem buildPacket_yields {build : List UInt8 → Checked BuildResult}
    (hbuild : ∀ out, Contained (build out)) :
    Yields Fault.OfData (fun r => ∃ buf, r.2 = self.withBuffer buf) (self.buildPacket build) := by
  rw [buildPacket]
  apply (dropFront_contained _ _).bind
  intro out _
  apply (hbuild out).bind
  intro r _
  exact ⟨_, rfl⟩

theorem sendReadPacket_yields (self : Node) (ndebug : Bool) (env : Environment)
    (target_node : TargetNode) (transaction_id : UInt16) (memory_address data_length : UInt32) :
    Yields Fault.OfData (Sends env self)
      (self.sendReadPacket_ ndebug env target_node transaction_id memory_address data_length) := by
  rw [sendReadPacket_]
  split
  · exact Sends.refused _ self.send_buf_
  · rename_i hbackend
    have hsome := Option.isNone_eq_false_iff.mp (eq_false_of_ne_true hbackend)
    dsimp only
    split
    · exact Sends.refused _ self.send_buf_
    · rename_i node hroom
      obtain ⟨buf, rfl⟩ := ensureSendRoom_buffer hroom
      apply (buildPacket_yields (ReadPacketBuilder.build_contained ndebug _)).bind
      rintro ⟨res, built⟩ ⟨buf', rfl⟩
      cases res with
      | error e => exact Sends.refused e buf'
      | ok size =>
          dsimp only
          split
          · exact Sends.refused _ buf'
          · rename_i roomy hroom
            obtain ⟨buf'', rfl⟩ := ensureSendRoom_buffer hroom
            apply (send_yields (((self.withBuffer buf).withBuffer buf').withBuffer buf'') env hsome
              _).mono
            intro r hr
            exact hr.of_withBuffer.of_withBuffer.of_withBuffer

theorem sendWritePacket_yields (self : Node) (ndebug : Bool) (env : Environment)
    (target_node : TargetNode) (transaction_id : UInt16) (memory_address : UInt32)
    (data : List UInt8) :
    Yields Fault.OfData (Sends env self)
      (self.sendWritePacket_ ndebug env target_node transaction_id memory_address data) := by
  rw [sendWritePacket_]
  split
  · exact Sends.refused _ self.send_buf_
  · rename_i hbackend
    have hsome := Option.isNone_eq_false_iff.mp (eq_false_of_ne_true hbackend)
    dsimp only
    split
    · exact Sends.refused _ self.send_buf_
    · rename_i node hroom
      obtain ⟨buf, rfl⟩ := ensureSendRoom_buffer hroom
      apply (buildPacket_yields (WritePacketBuilder.build_contained ndebug _)).bind
      rintro ⟨res, built⟩ ⟨buf', rfl⟩
      cases res with
      | error e => exact Sends.refused e buf'
      | ok size =>
          apply (send_yields ((self.withBuffer buf).withBuffer buf') env hsome _).mono
          intro r hr
          exact hr.of_withBuffer.of_withBuffer

/-- Both send paths of a command look for the backend before they use it. -/
theorem sendCommand_not_connected (ndebug : Bool) (env : Environment) (target_node : TargetNode)
    (transaction_id : UInt16) (command : Command) (hnone : self.receiver.tcp_backend_ = none) :
    self.sendCommand ndebug target_node transaction_id env command =
      .ok (.error (.errc .not_connected), self) := by
  cases command with
  | read memory_address data_length => simp [sendCommand, sendReadPacket_, hnone]
  | write memory_address data => simp [sendCommand, sendWritePacket_, hnone]

theorem sendCommand_yields (self : Node) (ndebug : Bool) (env : Environment)
    (target_node : TargetNode) (transaction_id : UInt16) (command : Command) :
    Yields Fault.OfData (Sends env self)
      (self.sendCommand ndebug target_node transaction_id env command) := by
  cases command with
  | read memory_address data_length =>
      exact self.sendReadPacket_yields ndebug env target_node transaction_id _ _
  | write memory_address data =>
      exact self.sendWritePacket_yields ndebug env target_node transaction_id _ _

/-- The reply of `poll` relies on the backend that the command came from. -/
theorem sendReply_yields (self : Node) (env : Environment)
    (hbackend : self.receiver.tcp_backend_.isSome) (total_size : Nat)
    {build : List UInt8 → Checked BuildResult} (hbuild : ∀ out, Contained (build out)) :
    Yields Fault.OfData (Sends env self) (self.sendReply env total_size build) := by
  rw [sendReply]
  split
  · exact Sends.refused _ self.send_buf_
  · rename_i node hroom
    obtain ⟨buf, rfl⟩ := ensureSendRoom_buffer hroom
    apply (buildPacket_yields hbuild).bind
    rintro ⟨res, built⟩ ⟨buf', rfl⟩
    cases res with
    | error e => exact Sends.refused e buf'
    | ok size =>
        apply (send_yields ((self.withBuffer buf).withBuffer buf') env hbackend total_size).bind
        rintro ⟨res, sent⟩ hsent
        have hsent := hsent.of_withBuffer.of_withBuffer
        cases res with
        | error e =>
            refine ⟨hsent.transmits, ?_⟩
            intro _ a ha
            cases ha
        | ok _ => exact ⟨hsent.transmits, fun hsend _ _ => hsent.frame hsend () rfl⟩

end Node

theorem Receiver.Alike.refl {r : Receiver} (h : r.tcp_backend_.isSome) : Receiver.Alike r r := by
  obtain ⟨backend, hb⟩ := Option.isSome_iff_exists.mp h
  refine ⟨backend, backend.delivery, backend.calls, hb, ?_⟩
  rw [Receiver.moved, ← hb]

/-- Without a backend nothing is received, and with one it stays. -/
theorem Receiver.recvAndParseOnePacket_yields (self : Receiver) :
    Yields Fault.OfData (fun r => r.2.tcp_backend_.isSome = self.tcp_backend_.isSome ∧
        (self.tcp_backend_ = none → r = (.error (.errc .not_connected), self)))
      self.recvAndParseOnePacket_ := by
  cases hb : self.tcp_backend_ with
  | none =>
      rw [recvAndParseOnePacket_, hb]
      exact ⟨by rw [hb], fun _ => rfl⟩
  | some backend =>
      have hsome : self.tcp_backend_.isSome := by rw [hb]; rfl
      have hremaining : self.remaining.length < backend.incoming.length + 1 := by
        simp [remaining, hb]
      rw [recvAndParseOnePacket_, hb]
      apply (receiveLoop_alike _ (Alike.refl hsome) 0 self.wholeBuffer hremaining).yields.mono
      rintro r ⟨_, -, ⟨backend', _, _, hb', -⟩, -⟩
      rw [hb']
      refine ⟨rfl, ?_⟩
      intro hnone
      cases hnone

end SpwRmap
