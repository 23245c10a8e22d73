import SpwRmap.Node.Accounts
import SpwRmap.Node.Policy

/-!
# Lengths on the wire

A length goes through three bytes of a packet header, whatever it is. The builders shift and
mask it without a look at its size, while the size of the packet and the data behind the
header keep the length as it is. So the field holds the length exactly if that is below
`2 ^ 24`, for every packet that a builder makes and for every packet that a call hands to
the socket.
-/

namespace SpwRmap

open Span Bytes Outcome PacketParser crc

/-- Whatever a computation returns has the property. -/
abbrev Leaves {α : Type} (P : α → Prop) (x : Checked α) : Prop := Yields (fun _ => True) P x

theorem Leaves.of_ok {α : Type} {P : α → Prop} {x : Checked α} {a : α} (h : Leaves P x)
    (hx : x = .ok a) : P a := by
  rw [hx] at h
  exact h

/-- Stores that succeed have all been made, inside the span. -/
theorem putAll_leaves {orig written : List UInt8} (h : written.length ≤ orig.length)
    (bytes : List UInt8) :
    Leaves (fun c => c = Cursor.after orig (written ++ bytes) ∧
        (written ++ bytes).length ≤ orig.length)
      ((Cursor.after orig written).putAll bytes) := by
  induction bytes generalizing written with
  | nil =>
      rw [List.append_nil]
      exact ⟨rfl, h⟩
  | cons b bytes ih =>
      rw [Cursor.putAll]
      by_cases hroom : written.length < orig.length
      · by_cases hint : written.length < INT_MAX
        · rw [Cursor.after_put b hroom hint, ok_bind]
          have hlength : (written ++ [b]).length ≤ orig.length := by
            rw [List.length_append]
            exact hroom
          have hrest := ih hlength
          rw [List.append_assoc, List.singleton_append] at hrest
          exact hrest
        · rw [Cursor.after_put_overflow b (Nat.not_lt.mp hint)]
          trivial
      · have hfull :
            ¬(Cursor.after orig written).head < (Cursor.after orig written).out.length := by
          simp only [Cursor.after, List.length_append, List.length_drop]
          omega
        rw [Cursor.put, if_neg hfull]
        split
        · trivial
        · trivial

theorem start_putAll_leaves (out bytes : List UInt8) :
    Leaves (fun c => c = Cursor.after out bytes ∧ bytes.length ≤ out.length)
      ((Cursor.start out).putAll bytes) := by
  have hstart : ([] : List UInt8).length ≤ out.length := Nat.zero_le _
  exact putAll_leaves hstart bytes

/-- A reply-address field inside the address space is padded to whole words. With an address
of more than 16 bytes the number of padding bytes has wrapped around. -/
theorem replyAddressPadding_of_lt {n : Nat} (h : n + replyAddressPadding n < 2 ^ 64) :
    n + replyAddressPadding n = (n + 3) / 4 * 4 := by
  by_cases hn : n ≤ 16
  · clear h
    interval_cases n <;> rfl
  · exfalso
    have hmask : (n - 1) &&& 0x0C ≤ 0x0C := Nat.and_le_right
    have hfield : replyAddressFieldSize n = ((n - 1) &&& 0x0C) + 0x04 := if_pos (by omega)
    rw [replyAddressPadding, hfield, if_pos (Nat.succ_ne_zero _), sizeSub] at h
    omega

/-- A header that ends with the data length `n`, and its checksum. -/
def EndsWithLength (n : Nat) (written : List UInt8) : Prop :=
  ∃ front checksum, written = front ++ (toBigEndian 3 n ++ [checksum])

/-- In a span of the address space the header has the length that `getTotalSize` counts. -/
theorem putCommandHeader_length (ndebug : Bool) (f : CommandFields) (out : List UInt8) :
    Leaves (fun c => ∃ written, c = Cursor.after out written ∧ written.length ≤ out.length ∧
        EndsWithLength f.dataLength written ∧
        (out.length < 2 ^ 64 → written.length =
          f.targetSpaceWireAddress.length + 4 + (f.replyAddress.length + 3) / 4 * 4 + 12))
      (putCommandHeader ndebug f out) := by
  simp only [putCommandHeader, Cursor.put_eq, Cursor.putRepeat_eq, Cursor.putAll_bind_putAll]
  apply (start_putAll_leaves out _).bind
  rintro c ⟨rfl, hout⟩
  apply Yields.any.bind
  intro _ _
  apply (putAll_leaves hout _).bind
  rintro c ⟨rfl, hout⟩
  apply Yields.any.bind
  intro body _
  apply (putAll_leaves hout _).mono
  rintro c ⟨rfl, hout⟩
  refine ⟨_, rfl, hout, ?_, ?_⟩
  · refine ⟨f.targetSpaceWireAddress ++
      [f.targetLogicalAddress, RMAPProtocolIdentifier, f.instruction, f.key] ++
      List.replicate (replyAddressPadding f.replyAddress.length) 0x00 ++ f.replyAddress ++
      f.initiatorLogicalAddress :: toBigEndian 2 f.transactionID.toNat ++
      f.extendedAddress :: toBigEndian 4 f.address.toNat, calcCRC body, ?_⟩
    simp [toBigEndian]
  · intro hspace
    simp only [List.length_append, List.length_cons, List.length_nil, List.length_replicate]
      at hout ⊢
    have hpadding : f.replyAddress.length + replyAddressPadding f.replyAddress.length =
        (f.replyAddress.length + 3) / 4 * 4 := by
      apply replyAddressPadding_of_lt
      omega
    omega

/-- The length `n`, as far as three bytes hold it, stands `k` bytes before the end of the
packet. -/
def LengthAt (k n : Nat) (packet : List UInt8) : Prop :=
  ∀ rest, numberOf (packet ++ rest) (packet.length - k) 3 = n % 2 ^ 24

/-- The field is found from the end of the header. -/
theorem EndsWithLength.lengthAt {n : Nat} {header : List UInt8} (h : EndsWithLength n header) :
    LengthAt 4 n header := by
  intro rest
  obtain ⟨front, checksum, rfl⟩ := h
  have hoffset : (front ++ (toBigEndian 3 n ++ [checksum])).length - 4 = front.length + 0 := by
    simp
  rw [hoffset, List.append_assoc, numberOf_append, List.append_assoc]
  exact numberOf_toBigEndian 3 n _

theorem EndsWithLength.length {n : Nat} {header : List UInt8} (h : EndsWithLength n header) :
    4 ≤ header.length := by
  obtain ⟨front, checksum, rfl⟩ := h
  simp

/-- Data and their checksum follow the header. -/
theorem EndsWithLength.lengthAt_data {n : Nat} {header : List UInt8} (h : EndsWithLength n header)
    (data : List UInt8) (checksum : UInt8) :
    LengthAt (5 + data.length) n (header ++ (data ++ [checksum])) := by
  intro rest
  have hlength := h.length
  have hoffset : (header ++ (data ++ [checksum])).length - (5 + data.length) =
      header.length - 4 := by
    simp only [List.length_append, List.length_singleton]
    omega
  rw [hoffset, List.append_assoc]
  exact h.lengthAt _

theorem LengthAt.whole {k n : Nat} {packet : List UInt8} (h : LengthAt k n packet) :
    numberOf packet (packet.length - k) 3 = n % 2 ^ 24 := by
  have hfield := h []
  rw [List.append_nil] at hfield
  exact hfield

/-- A builder keeps the length of its span. If it returns a size, that is the size of a
packet with the property at the start of the span. -/
structure Writes (out : List UInt8) (P : List UInt8 → Prop) (r : BuildResult) : Prop where
  length : r.2.length = out.length
  packet : ∀ size, r.1 = .ok size →
    ∃ packet rest, r.2 = packet ++ rest ∧ size = packet.length ∧ P packet

theorem Writes.refused {out : List UInt8} {P : List UInt8 → Prop} (e : ErrorCode) :
    Writes out P (.error e, out) := by
  refine ⟨rfl, ?_⟩
  intro size h
  cases h

theorem Writes.after {out packet : List UInt8} {P : List UInt8 → Prop}
    (hroom : packet.length ≤ out.length) (hP : P packet) :
    Writes out P (.ok (Cursor.after out packet).head, (Cursor.after out packet).out) := by
  refine ⟨?_, ?_⟩
  · simp only [Cursor.after, List.length_append, List.length_drop]
    omega
  · intro size h
    cases h
    exact ⟨packet, _, rfl, rfl, hP⟩

/-- The field of a built packet, in the span. -/
theorem Writes.field {out written : List UInt8} {P : List UInt8 → Prop} {k n size : Nat}
    (h : Writes out P (.ok size, written)) (hP : ∀ packet, P packet → LengthAt k n packet) :
    numberOf written (size - k) 3 = n % 2 ^ 24 := by
  obtain ⟨packet, rest, hwritten, rfl, hpacket⟩ := h.packet size rfl
  have hspan : written = packet ++ rest := hwritten
  rw [hspan]
  exact hP packet hpacket rest

theorem ReadPacketBuilder.build_writes (ndebug : Bool) (config : ReadPacketConfig)
    (out : List UInt8) :
    Leaves (Writes out fun packet => LengthAt 4 config.dataLength.toNat packet ∧
        (out.length < 2 ^ 64 → packet.length = getTotalSize config))
      (build ndebug config out) := by
  rw [build]
  split
  · exact .refused _
  · apply (putCommandHeader_length ndebug (fields config) out).bind
    rintro c ⟨header, rfl, hout, hheader, hlength⟩
    exact .after hout ⟨hheader.lengthAt, hlength⟩

theorem WritePacketBuilder.build_writes (ndebug : Bool) (config : WritePacketConfig)
    (out : List UInt8) :
    Leaves (Writes out fun packet =>
        LengthAt (5 + config.data.length) config.data.length packet ∧
        (out.length < 2 ^ 64 → packet.length = getTotalSize config))
      (build ndebug config out) := by
  rw [build]
  split
  · exact .refused _
  · apply (putCommandHeader_length ndebug (fields config) out).bind
    rintro c ⟨header, rfl, hout, hheader, hlength⟩
    apply (putAll_leaves hout config.data).bind
    rintro c ⟨rfl, hout⟩
    rw [Cursor.put_eq]
    apply (putAll_leaves hout _).bind
    rintro c ⟨rfl, hout⟩
    refine .after hout ⟨?_, ?_⟩
    · rw [List.append_assoc]
      exact hheader.lengthAt_data config.data _
    · intro hspace
      rw [List.length_append, List.length_append, hlength hspace]
      rfl

theorem ReadReplyPacketBuilder.endsWithLength (config : ReadReplyPacketConfig) :
    EndsWithLength config.data.length
      (config.replyAddress ++ (header config ++ [calcCRC (header config)])) := by
  refine ⟨config.replyAddress ++ ((fields config).header ++ [0x00]), calcCRC (header config), ?_⟩
  simp [header]

theorem ReadReplyPacketBuilder.build_length {config : ReadReplyPacketConfig}
    {out written : List UInt8} {size : Nat} (hbuild : build config out = .ok (.ok size, written)) :
    numberOf written (size - (5 + config.data.length)) 3 = config.data.length % 2 ^ 24 := by
  by_cases hroom : out.length < getTotalSize config
  · rw [build, if_pos hroom] at hbuild
    cases hbuild
  · by_cases hint : getTotalSize config ≤ INT_MAX
    case neg =>
      rw [build_overflow config out (Nat.not_lt.mp hroom) (Nat.not_le.mp hint)] at hbuild
      cases hbuild
    rw [build_eq config out (Nat.not_lt.mp hroom) hint, ← wire_length config] at hbuild
    cases hbuild
    have hsplit : wire config =
        config.replyAddress ++ (header config ++ [calcCRC (header config)]) ++
          (config.data ++ [calcCRC config.data]) := by
      simp [wire]
    rw [hsplit]
    exact (endsWithLength config).lengthAt_data _ _ _

/-- The number of bytes from the length field of a command to the end of its packet. -/
def Command.lengthOffset : Command → Nat
  | .read _ _ => 4
  | .write _ data => 5 + data.length

/-- Lengths are `size_t` values, that of a frame to the target with `size` bytes of data
included. -/
def TargetNode.InMemory (target_node : TargetNode) (size : Nat) : Prop :=
  target_node.targetSpaceWireAddress.length + target_node.replyAddress.length + size + 32 < 2 ^ 64

/-- The data that a command carries in its packet. -/
def Command.carried : Command → Nat
  | .read _ _ => 0
  | .write _ data => data.length

namespace Node

variable {self mid node : Node} {env : Environment} {P : List UInt8 → Prop}

/-- Since `self`, `sendAll` was called on frames only, each of them around a packet with the
property, and the socket has taken from these calls what it has taken. -/
def HandedOnly (P : List UInt8 → Prop) (self node : Node) : Prop :=
  ∃ calls : List SendAllCall, node.handed = self.handed ++ calls ∧
    node.sent = self.sent ++ calls.flatMap SendAllCall.taken ∧
    ∀ call ∈ calls, ∃ packet, P packet ∧ call.data = (Frame.single packet).encode

/-- Moreover, the send buffer is still in the address space. -/
structure Hands (P : List UInt8 → Prop) (before after : Node) : Prop where
  handed : HandedOnly P before after
  buffer : after.send_buf_.length < 2 ^ 64

/-- Nothing was sent, and the send buffer is as it was. -/
structure Silent (before after : Node) : Prop where
  handed : after.handed = before.handed
  sent : after.sent = before.sent
  send_buf : after.send_buf_ = before.send_buf_

theorem Hands.of_handed (hhanded : node.handed = self.handed) (hsent : node.sent = self.sent)
    (hbuf : node.send_buf_.length < 2 ^ 64) : Hands P self node :=
  ⟨⟨[], by simp [hhanded], by simp [hsent], by simp⟩, hbuf⟩

theorem Hands.trans (h : Hands P self mid) (h' : Hands P mid node) : Hands P self node := by
  obtain ⟨calls, hhanded, hsent, hcalls⟩ := h.handed
  obtain ⟨calls', hhanded', hsent', hcalls'⟩ := h'.handed
  refine ⟨⟨calls ++ calls', ?_, ?_, ?_⟩, h'.buffer⟩
  · rw [hhanded', hhanded, List.append_assoc]
  · rw [hsent', hsent, List.flatMap_append, List.append_assoc]
  · intro call hcall
    obtain hcall | hcall := List.mem_append.mp hcall
    · exact hcalls call hcall
    · exact hcalls' call hcall

theorem Hands.silent (h : Hands P self mid) (h' : Silent mid node) : Hands P self node := by
  refine h.trans (.of_handed h'.handed h'.sent ?_)
  rw [h'.send_buf]
  exact h.buffer

theorem Hands.of_withBuffer {buf : List UInt8} (h : Hands P (self.withBuffer buf) node) :
    Hands P self node :=
  ⟨h.handed, h.buffer⟩

theorem ensureSendRoom_bounded {size : Nat} (hbuf : self.send_buf_.length < 2 ^ 64)
    (hsize : size < 2 ^ 64) (h : self.ensureSendRoom size = .ok node) :
    ∃ buf, node = self.withBuffer buf ∧ buf.length < 2 ^ 64 := by
  rw [ensureSendRoom] at h
  split at h
  · split at h
    · cases h
    · cases h
      refine ⟨_, rfl, ?_⟩
      rw [resize_length]
      exact hsize
  · cases h
    exact ⟨self.send_buf_, rfl, hbuf⟩

/-- A packet in the buffer is handed over, perhaps not to its end. -/
theorem send_hands_over (self : Node) {front packet rest : List UInt8} (hfront : front.length = 12)
    (hbuf : self.send_buf_ = front ++ (packet ++ rest)) (hspace : self.send_buf_.length < 2 ^ 64)
    (hP : P packet) (env : Environment) :
    Leaves (fun r => Hands P self r.2) (self.send_ env packet.length) := by
  have hlength : ((Frame.single packet).encode ++ rest).length < 2 ^ 64 := by
    have hencode : (Frame.single packet).encode.length = 12 + packet.length :=
      Frame.encode_length _
    rw [hbuf] at hspace
    simp only [List.length_append] at hspace ⊢
    omega
  have hhands : ∀ outcome : SendOutcome, Hands P self
      { self.withBuffer ((Frame.single packet).encode ++ rest) with
        handed := self.handed ++ [⟨(Frame.single packet).encode, outcome⟩]
        sent := self.sent ++ SendAllCall.taken ⟨(Frame.single packet).encode, outcome⟩ } := by
    intro outcome
    refine ⟨⟨[⟨(Frame.single packet).encode, outcome⟩], rfl, ?_, ?_⟩, hlength⟩
    · rw [List.flatMap_singleton]
    · intro call hcall
      rw [List.mem_singleton] at hcall
      exact ⟨packet, hP, hcall ▸ rfl⟩
  rw [send_hands self env hfront hbuf, sendAll]
  split
  · trivial
  · dsimp only
    split
    · rename_i hsent
      rw [hsent]
      exact hhands .sent
    · rename_i hfailed
      rw [hfailed]
      exact hhands (.failed _ _)

/-- A builder leaves its packet behind the first 12 bytes of the buffer, where `send_` finds
it. -/
theorem buildPacket_hands {build : List UInt8 → Checked BuildResult} {Q : List UInt8 → Prop}
    {total : Nat} (hbuf : self.send_buf_.length < 2 ^ 64)
    (hbuild : ∀ out, Leaves (Writes out fun packet =>
      Q packet ∧ (out.length < 2 ^ 64 → packet.length = total)) (build out))
    (hP : ∀ packet, Q packet → P packet) (env : Environment) :
    Leaves (fun r => Hands P self r.2 ∧
        ∀ size, r.1 = .ok size → total + 12 ≤ r.2.send_buf_.length ∧
          Leaves (fun sent => Hands P self sent.2) (r.2.send_ env total))
      (self.buildPacket build) := by
  rw [buildPacket, dropFront]
  split
  · rename_i hfront
    rw [ok_bind]
    apply (hbuild _).bind
    rintro ⟨res, written⟩ hwrites
    have hkept : (self.send_buf_.take 12 ++ written).length = self.send_buf_.length := by
      rw [List.length_append, hwrites.length, ← List.length_append, List.take_append_drop]
    have hbuilt : (self.send_buf_.take 12 ++ written).length < 2 ^ 64 := by
      rw [hkept]
      exact hbuf
    refine ⟨.of_handed rfl rfl hbuilt, ?_⟩
    intro size hsize
    obtain ⟨packet, rest, hwritten, -, hpacket, htotal⟩ := hwrites.packet size hsize
    have hspan : written = packet ++ rest := hwritten
    subst hspan
    have hhead : (self.send_buf_.take 12).length = 12 := List.length_take_of_le hfront
    rw [← htotal (by rw [List.length_drop]; omega)]
    refine ⟨?_, ?_⟩
    · simp only [List.length_append, hhead]
      omega
    · apply (send_hands_over _ hhead rfl hbuilt (hP packet hpacket) env).mono
      intro sent hsent
      exact ⟨hsent.handed, hsent.buffer⟩
  · trivial

theorem sendReadPacket_hands (ndebug : Bool) (env : Environment) {target_node : TargetNode}
    (transaction_id : UInt16) {memory_address data_length : UInt32}
    (hspace : target_node.InMemory 0) (hbuf : self.send_buf_.length < 2 ^ 64)
    (hP : ∀ packet, LengthAt 4 data_length.toNat packet → P packet) :
    Leaves (fun r => Hands P self r.2)
      (self.sendReadPacket_ ndebug env target_node transaction_id memory_address data_length) := by
  rw [sendReadPacket_]
  split
  · exact .of_handed rfl rfl hbuf
  · dsimp only
    split
    · exact .of_handed rfl rfl hbuf
    · rename_i node hroom
      rw [TargetNode.InMemory] at hspace
      obtain ⟨buf, rfl, hlength⟩ := ensureSendRoom_bounded hbuf (by omega) hroom
      apply (buildPacket_hands hlength (ReadPacketBuilder.build_writes ndebug _) hP env).bind
      rintro ⟨res, built⟩ ⟨hbuilt, hsend⟩
      cases res with
      | error e => exact hbuilt.of_withBuffer
      | ok size =>
          obtain ⟨hlarge, hsend⟩ := hsend size rfl
          dsimp only
          rw [ensureSendRoom_of_le hlarge]
          exact hsend.mono fun r hr => hr.of_withBuffer

theorem sendWritePacket_hands (ndebug : Bool) (env : Environment) {target_node : TargetNode}
    (transaction_id : UInt16) {memory_address : UInt32} {data : List UInt8}
    (hspace : target_node.InMemory data.length) (hbuf : self.send_buf_.length < 2 ^ 64)
    (hP : ∀ packet, LengthAt (5 + data.length) data.length packet → P packet) :
    Leaves (fun r => Hands P self r.2)
      (self.sendWritePacket_ ndebug env target_node transaction_id memory_address data) := by
  rw [sendWritePacket_]
  split
  · exact .of_handed rfl rfl hbuf
  · dsimp only
    split
    · exact .of_handed rfl rfl hbuf
    · rename_i node hroom
      rw [TargetNode.InMemory] at hspace
      obtain ⟨buf, rfl, hlength⟩ := ensureSendRoom_bounded hbuf (by omega) hroom
      apply (buildPacket_hands hlength (WritePacketBuilder.build_writes ndebug _) hP env).bind
      rintro ⟨res, built⟩ ⟨hbuilt, hsend⟩
      cases res with
      | error e => exact hbuilt.of_withBuffer
      | ok size =>
          obtain ⟨-, hsend⟩ := hsend size rfl
          exact hsend.mono fun r hr => hr.of_withBuffer

theorem releaseTransactionID_silent (ndebug : Bool) (self : Node) (transaction_id : UInt16) :
    Leaves (Silent self) (self.releaseTransactionID_ ndebug transaction_id) := by
  rw [releaseTransactionID_]
  split
  · apply Yields.any.bind
    intro _ _
    exact ⟨rfl, rfl, rfl⟩
  · exact ⟨rfl, rfl, rfl⟩

theorem forceReleaseTransaction_silent (ndebug : Bool) (self : Node) (index : Nat) :
    Leaves (Silent self) (self.forceReleaseTransaction_ ndebug index) := by
  rw [forceReleaseTransaction_]
  dsimp only
  split
  · rename_i callback _
    rw [runErrorCallback, finish]
    apply (releaseTransactionID_silent ndebug _ callback.transaction_id).bind
    intro node hnode
    exact ⟨hnode.handed, hnode.sent, hnode.send_buf⟩
  · apply (releaseTransactionID_silent ndebug _ _).mono
    intro node hnode
    exact ⟨hnode.handed, hnode.sent, hnode.send_buf⟩

theorem allocateLoop_silent (ndebug : Bool) (fuel : Nat) (self : Node) (now : Nat → Int) :
    Leaves (fun r => Silent self r.2) (allocateLoop ndebug fuel self now) := by
  induction fuel generalizing self now with
  | zero => trivial
  | succ fuel ih =>
      rw [allocateLoop]
      split
      · exact ⟨rfl, rfl, rfl⟩
      · exact ⟨rfl, rfl, rfl⟩
      · rename_i index _
        apply (forceReleaseTransaction_silent ndebug self index).bind
        intro node hnode
        apply (ih node fun round => now (round + 1)).mono
        intro r hr
        exact ⟨hr.handed.trans hnode.handed, hr.sent.trans hnode.sent,
          hr.send_buf.trans hnode.send_buf⟩

theorem cancelTransaction_silent (ndebug : Bool) (self : Node) (transaction_id : UInt16) :
    Leaves (Silent self) (self.cancelTransaction_ ndebug transaction_id) := by
  rw [cancelTransaction_]
  split
  · exact ⟨rfl, rfl, rfl⟩
  · apply (releaseTransactionID_silent ndebug _ _).mono
    intro node hnode
    exact ⟨hnode.handed, hnode.sent, hnode.send_buf⟩

/-- What survives the start of an operation and a cancellation survives all attempts: by
induction on them. -/
theorem attemptLoop_keeps {ndebug : Bool} {target_node : TargetNode} {command : Command}
    {Q : Node → Prop} {C : Environment → Prop}
    (hstart : ∀ node env, C env → Q node →
      Leaves (fun r => Q r.2) (node.start ndebug target_node env command))
    (hcancel : ∀ node transaction_id, Q node →
      Leaves Q (node.cancelTransaction_ ndebug transaction_id))
    (attempts : Nat) (h : Q self) {env : Nat → Environment} (henv : ∀ attempt, C (env attempt)) :
    Leaves (fun r => Q r.2.2) (attemptLoop ndebug target_node command attempts self env) := by
  induction attempts generalizing self env with
  | zero => exact h
  | succ attempts ih =>
      rw [attemptLoop]
      apply (hstart self (env 0) (henv 0) h).bind
      rintro ⟨async_op, node⟩ hnode
      have hrest : ∀ next : Node, Q next →
          Leaves (fun r : Except ErrorCode Unit × List Nat × Node => Q r.2.2)
            (do
              let r ← attemptLoop ndebug target_node command attempts next
                fun attempt => env (attempt + 1)
              return (r.1, async_op.future :: r.2.1, r.2.2)) := by
        intro next hnext
        apply (ih hnext fun attempt => henv (attempt + 1)).bind
        exact fun _ hlast => hlast
      dsimp only
      split
      · exact hnode
      · split
        · exact (hcancel node _ hnode).bind hrest
        · exact hrest node hnode

section Calls

variable (ndebug : Bool) {target_node : TargetNode} (command : Command)
variable (hspace : target_node.InMemory command.carried)
variable (hP : ∀ packet, LengthAt command.lengthOffset command.dataLength packet → P packet)
include hspace hP

/-- A command hands over its packet or nothing. -/
theorem sendCommand_hands (transaction_id : UInt16) (env : Environment)
    (hbuf : self.send_buf_.length < 2 ^ 64) :
    Leaves (fun r => Hands P self r.2)
      (self.sendCommand ndebug target_node transaction_id env command) := by
  cases command with
  | read memory_address data_length =>
      exact sendReadPacket_hands ndebug env transaction_id hspace hbuf hP
  | write memory_address data =>
      exact sendWritePacket_hands ndebug env transaction_id hspace hbuf hP

theorem start_hands (env : Environment) (hbuf : self.send_buf_.length < 2 ^ 64) :
    Leaves (fun r => Hands P self r.2) (self.start ndebug target_node env command) := by
  rw [start_eq, startAsyncOperation_]
  apply (allocateLoop_silent ndebug 2 _ env.now).bind
  rintro ⟨res, node⟩ hnode
  have hfirst : Hands P self node :=
    .of_handed hnode.handed hnode.sent (hnode.send_buf ▸ hbuf)
  cases res with
  | error e => exact ⟨hfirst.handed, hfirst.buffer⟩
  | ok transaction_id =>
      dsimp only
      refine (sendCommand_hands ndebug command hspace hP transaction_id env ?_).bind ?_
      · exact hfirst.buffer
      · rintro ⟨res, sent⟩ hsent
        have hhands : Hands P self sent := hfirst.trans ⟨hsent.handed, hsent.buffer⟩
        cases res with
        | ok _ => exact hhands
        | error e =>
            apply (releaseTransactionID_silent ndebug _ transaction_id).bind
            intro released hreleased
            exact hhands.silent ⟨hreleased.handed, hreleased.sent, hreleased.send_buf⟩

theorem attemptLoop_hands (attempts : Nat) (env : Nat → Environment)
    (hbuf : self.send_buf_.length < 2 ^ 64) :
    Leaves (fun r => Hands P self r.2.2)
      (attemptLoop ndebug target_node command attempts self env) := by
  refine attemptLoop_keeps (Q := Hands P self) (C := fun _ => True) ?_ ?_ attempts ?_ ?_
  · intro node env _ hnode
    apply (start_hands ndebug command hspace hP env hnode.buffer).mono
    exact fun _ hr => hnode.trans hr
  · intro node transaction_id hnode
    apply (cancelTransaction_silent ndebug node transaction_id).mono
    exact fun _ hnext => hnode.silent hnext
  · exact .of_handed rfl rfl hbuf
  · exact fun _ => trivial

end Calls

end Node

/-- What three bytes keep of a length is the length, if they can hold it. -/
theorem mod_eq_iff {n m : Nat} (h : n = m % 2 ^ 24) : n = m ↔ m < 2 ^ 24 := by
  rw [h]
  exact Nat.mod_eq_iff_lt (by decide)

/-- The length field of every packet that a builder makes, and of every packet that `read`,
`readAsync`, `write` and `writeAsync` hand over, is the length asked for, exactly if that is
below `2 ^ 24`. -/
theorem length_denoted_iff (ndebug : Bool) :
    (∀ config out size written,
      ReadPacketBuilder.build ndebug config out = .ok (.ok size, written) →
      (numberOf written (size - 4) 3 = config.dataLength.toNat ↔
        config.dataLength.toNat < 2 ^ 24)) ∧
    (∀ config out size written,
      WritePacketBuilder.build ndebug config out = .ok (.ok size, written) →
      (numberOf written (size - (5 + config.data.length)) 3 = config.data.length ↔
        config.data.length < 2 ^ 24)) ∧
    (∀ config out size written,
      ReadReplyPacketBuilder.build config out = .ok (.ok size, written) →
      (numberOf written (size - (5 + config.data.length)) 3 = config.data.length ↔
        config.data.length < 2 ^ 24)) ∧
    (∀ (node : Node) target_node, node.send_buf_.length < 2 ^ 64 →
      (∀ env memory_address size retry_count, target_node.InMemory 0 →
        Leaves (fun r => node.HandedOnly (fun packet =>
            numberOf packet (packet.length - 4) 3 = size ↔ size < 2 ^ 24) r.2.2)
          (node.read ndebug env target_node memory_address size retry_count)) ∧
      (∀ env memory_address data retry_count, target_node.InMemory data.length →
        Leaves (fun r => node.HandedOnly (fun packet =>
            numberOf packet (packet.length - (5 + data.length)) 3 = data.length ↔
              data.length < 2 ^ 24) r.2.2)
          (node.write ndebug env target_node memory_address data retry_count)) ∧
      (∀ env memory_address data_length, target_node.InMemory 0 →
        Leaves (fun r => node.HandedOnly (fun packet =>
            numberOf packet (packet.length - 4) 3 = data_length.toNat ↔
              data_length.toNat < 2 ^ 24) r.2)
          (node.startReadAsyncOperation_ ndebug env target_node memory_address data_length)) ∧
      ∀ env memory_address data, target_node.InMemory data.length →
        Leaves (fun r => node.HandedOnly (fun packet =>
            numberOf packet (packet.length - (5 + data.length)) 3 = data.length ↔
              data.length < 2 ^ 24) r.2)
          (node.startWriteAsyncOperation_ ndebug env target_node memory_address data)) := by
  refine ⟨?_, ?_, ?_, ?_⟩
  · intro config out size written hbuild
    have hwrites := (ReadPacketBuilder.build_writes ndebug config out).of_ok hbuild
    exact mod_eq_iff (hwrites.field fun packet h => h.1)
  · intro config out size written hbuild
    have hwrites := (WritePacketBuilder.build_writes ndebug config out).of_ok hbuild
    exact mod_eq_iff (hwrites.field fun packet h => h.1)
  · intro config out size written hbuild
    exact mod_eq_iff (ReadReplyPacketBuilder.build_length hbuild)
  · intro node target_node hbuf
    refine ⟨?_, ?_, ?_, ?_⟩
    · intro env memory_address size retry_count hspace
      have hlength : (UInt32.ofNat size).toNat % 2 ^ 24 = size % 2 ^ 24 := by
        rw [UInt32.toNat_ofNat']
        exact Nat.mod_mod_of_dvd _ (by decide)
      apply (Node.attemptLoop_hands ndebug (.read memory_address (UInt32.ofNat size)) hspace
        (fun packet h => mod_eq_iff (h.whole.trans hlength)) _ _ hbuf).mono
      intro r hr
      exact hr.handed
    · intro env memory_address data retry_count hspace
      apply (Node.attemptLoop_hands ndebug (.write memory_address data) hspace
        (fun packet h => mod_eq_iff h.whole) _ _ hbuf).mono
      intro r hr
      exact hr.handed
    · intro env memory_address data_length hspace
      apply (Node.start_hands ndebug (.read memory_address data_length) hspace
        (fun packet h => mod_eq_iff h.whole) env hbuf).mono
      intro r hr
      exact hr.handed
    · intro env memory_address data hspace
      apply (Node.start_hands ndebug (.write memory_address data) hspace
        (fun packet h => mod_eq_iff h.whole) env hbuf).mono
      intro r hr
      exact hr.handed

/-- A read of four bytes, and a call of `read` with a buffer of four bytes. -/
theorem length_denoted_iff_four :
    (∃ written, ReadPacketBuilder.build true { targetLogicalAddress := 0x34, dataLength := 4 }
      (List.replicate 16 0xFF) = .ok (.ok 16, written) ∧ numberOf written 12 3 = 4) ∧
    Leaves (fun r => (SendPath.nodeOf {} .Fixed (List.replicate 64 0)).HandedOnly (fun packet =>
        numberOf packet (packet.length - 4) 3 = 4 ↔ 4 < 2 ^ 24) r.2.2)
      ((SendPath.nodeOf {} .Fixed (List.replicate 64 0)).read true (fun _ => {})
        ⟨[3], [5], 0x34⟩ 0x20 4 0) := by
  obtain ⟨hread, -, -, hcalls⟩ := length_denoted_iff true
  refine ⟨⟨_, rfl, ?_⟩, ?_⟩
  · exact (hread { targetLogicalAddress := 0x34, dataLength := 4 } (List.replicate 16 0xFF)
      16 _ rfl).mpr (by decide)
  · have hspace : TargetNode.InMemory ⟨[3], [5], 0x34⟩ 0 := by
      rw [TargetNode.InMemory]
      decide
    exact (hcalls (SendPath.nodeOf {} .Fixed (List.replicate 64 0)) ⟨[3], [5], 0x34⟩
      (by decide)).1 _ 0x20 4 0 hspace

/-- A read of `2 ^ 24 + 4` bytes is built without complaint, and asks for four. -/
theorem build_truncates : ∃ written,
    ReadPacketBuilder.build true { targetLogicalAddress := 0x34, dataLength := 0x01000004 }
      (List.replicate 16 0xFF) = .ok (.ok 16, written) ∧
    numberOf written 12 3 = 4 ∧ numberOf written 12 3 ≠ (0x01000004 : UInt32).toNat := by
  refine ⟨_, rfl, ?_, ?_⟩
  · decide
  · decide

end SpwRmap
