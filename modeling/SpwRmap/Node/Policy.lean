import SpwRmap.Node.Calls

/-!
# The two policies of the send buffer

Four paths send a packet: the two commands and the two replies of `poll`. Each compares a
size of its own with the send buffer before it builds, and the builder compares again with
what is left behind the frame header. A path keeps to its policy if it hands one whole
frame to `sendAll`, or refuses with a fixed buffer that is too small and leaves the node
alone. Every path does with a packet that an `int` counts, but the read command: its estimate
leaves out the frame header.
-/

namespace SpwRmap

open Span

/-- `sendAll` is given the first `size + 12` bytes of the send buffer, the frame around the
packet, and the result of the path is that of `sendAll`. -/
def Node.HandsOver (self : Node) (env : Environment) (size : Nat) (packet : List UInt8)
    (result : Checked (Except ErrorCode Bool × Node)) : Prop :=
  ∃ buf, size + 12 ≤ buf.length ∧ buf.take (size + 12) = (Frame.single packet).encode ∧
    result = ((self.withBuffer buf).sendAll env (buf.take (size + 12))).map
      fun r => (r.1.map fun _ => true, r.2)

/-- A packet to send, with what its path is called with. -/
inductive SendPath where
  | readCommand (target_node : TargetNode) (transaction_id : UInt16)
      (memory_address data_length : UInt32)
  | writeCommand (target_node : TargetNode) (transaction_id : UInt16) (memory_address : UInt32)
      (data : List UInt8)
  | readReply (packet : Packet) (data : List UInt8)
  | writeReply (packet : Packet)

namespace SendPath

def isReadCommand : SendPath → Bool
  | .readCommand .. => true
  | _ => false

def replyAddress : SendPath → List UInt8
  | .readCommand target_node .. => target_node.replyAddress
  | .writeCommand target_node .. => target_node.replyAddress
  | .readReply packet _ => packet.replyAddress
  | .writeReply packet => packet.replyAddress

/-- `getTotalSize(config)`. -/
def totalSize (self : Node) : SendPath → Nat
  | .readCommand target_node transaction_id memory_address data_length =>
      ReadPacketBuilder.getTotalSize
        (self.readConfig target_node transaction_id memory_address data_length)
  | .writeCommand target_node transaction_id memory_address data =>
      WritePacketBuilder.getTotalSize
        (self.writeConfig target_node transaction_id memory_address data)
  | .readReply packet data =>
      ReadReplyPacketBuilder.getTotalSize (Node.readReplyConfig packet data)
  | .writeReply packet => WriteReplyPacketBuilder.getTotalSize (Node.writeReplyConfig packet)

def wire (self : Node) : SendPath → List UInt8
  | .readCommand target_node transaction_id memory_address data_length =>
      ReadPacketBuilder.wire
        (self.readConfig target_node transaction_id memory_address data_length)
  | .writeCommand target_node transaction_id memory_address data =>
      WritePacketBuilder.wire (self.writeConfig target_node transaction_id memory_address data)
  | .readReply packet data => ReadReplyPacketBuilder.wire (Node.readReplyConfig packet data)
  | .writeReply packet => WriteReplyPacketBuilder.wire (Node.writeReplyConfig packet)

/-- A command answers with nothing, a reply of `poll` with `true`. -/
def run (ndebug : Bool) (self : Node) (env : Environment) :
    SendPath → Checked (Except ErrorCode Bool × Node)
  | .readCommand target_node transaction_id memory_address data_length =>
      (self.sendReadPacket_ ndebug env target_node transaction_id memory_address data_length).map
        fun r => (r.1.map fun _ => true, r.2)
  | .writeCommand target_node transaction_id memory_address data =>
      (self.sendWritePacket_ ndebug env target_node transaction_id memory_address data).map
        fun r => (r.1.map fun _ => true, r.2)
  | .readReply packet data =>
      self.sendReply env (ReadReplyPacketBuilder.getTotalSize (Node.readReplyConfig packet data))
        (ReadReplyPacketBuilder.build (Node.readReplyConfig packet data))
  | .writeReply packet =>
      self.sendReply env (WriteReplyPacketBuilder.getTotalSize (Node.writeReplyConfig packet))
        (WriteReplyPacketBuilder.build (Node.writeReplyConfig packet))

theorem wire_length (self : Node) (path : SendPath) (hreply : path.replyAddress.length ≤ 12) :
    (path.wire self).length = path.totalSize self := by
  cases path with
  | readCommand target_node transaction_id memory_address data_length =>
      exact ReadPacketBuilder.wire_length _ hreply
  | writeCommand target_node transaction_id memory_address data =>
      exact WritePacketBuilder.wire_length _ hreply
  | readReply packet data => exact ReadReplyPacketBuilder.wire_length _
  | writeReply packet => exact WriteReplyPacketBuilder.wire_length _

end SendPath

namespace Node

variable {self : Node} {env : Environment} {packet : List UInt8}

theorem not_isNone (hbackend : self.receiver.tcp_backend_.isSome) :
    ¬self.receiver.tcp_backend_.isNone = true := by
  rw [Option.isNone_eq_false_iff.mpr hbackend]
  exact Bool.false_ne_true

/-- A buffer with room for the frame, or one that may grow. -/
def Fits (self : Node) (size : Nat) : Prop :=
  self.receiver.buffer_policy_ = .Fixed → size ≤ self.send_buf_.length

theorem ensureSendRoom_fits {size : Nat} (h : self.Fits size) :
    ∃ buf, self.ensureSendRoom size = .ok (self.withBuffer buf) ∧ size ≤ buf.length := by
  rw [ensureSendRoom]
  by_cases hroom : size ≤ self.send_buf_.length
  · exact ⟨self.send_buf_, if_neg (Nat.not_lt.mpr hroom), hroom⟩
  · refine ⟨resize 0 self.send_buf_ size, ?_, (resize_length _ _ _).ge⟩
    rw [if_pos (Nat.lt_of_not_le hroom), if_neg fun hfixed => hroom (h hfixed)]
    rfl

theorem ensureSendRoom_refused {size : Nat} (hfixed : self.receiver.buffer_policy_ = .Fixed)
    (hshort : self.send_buf_.length < size) :
    self.ensureSendRoom size = .error (.errc .no_buffer_space) := by
  rw [ensureSendRoom, if_pos hshort, if_pos hfixed]

/-- The packet that was built behind the first 12 bytes is handed over from there. -/
theorem built_handsOver (self : Node) (env : Environment) (buf : List UInt8)
    (hroom : packet.length + 12 ≤ buf.length) :
    self.HandsOver env packet.length packet
      ((((self.withBuffer buf).withBuffer ((self.withBuffer buf).built packet)).send_ env
        packet.length).map fun r => (r.1.map fun _ => true, r.2)) := by
  have hfront : (buf.take 12).length = 12 := List.length_take_of_le (by omega)
  have hencode : (Frame.single packet).encode.length = packet.length + 12 := by
    rw [Frame.encode_length, Nat.add_comm]
    rfl
  refine ⟨(Frame.single packet).encode ++ (buf.drop 12).drop packet.length, ?_, ?_, ?_⟩
  · rw [List.length_append, hencode]
    omega
  · exact List.take_left' hencode
  · rw [send_hands _ env hfront rfl, List.take_left' hencode]
    rfl

/-- Both replies of `poll`. -/
theorem sendReply_handsOver {build : List UInt8 → Checked BuildResult} {size : Nat}
    (env : Environment) (hbuild : Builds build packet) (hlen : packet.length = size)
    (hfits : self.Fits (size + 12)) (hint : size ≤ INT_MAX) :
    self.HandsOver env size packet (self.sendReply env size build) := by
  subst hlen
  obtain ⟨buf, hensure, hroom⟩ := ensureSendRoom_fits hfits
  have hhands := self.built_handsOver env buf hroom
  rw [sendReply, hensure]
  dsimp only
  rw [buildPacket_built hbuild hroom hint, ok_bind]
  dsimp only
  cases hsent : ((self.withBuffer buf).withBuffer ((self.withBuffer buf).built packet)).send_ env
      packet.length with
  | error fault =>
      rw [hsent] at hhands
      exact hhands
  | ok r =>
      rw [hsent] at hhands
      obtain ⟨res, node⟩ := r
      cases res with
      | error e => exact hhands
      | ok _ => exact hhands

/-- The builder faults on a packet that its index does not count. -/
theorem sendReply_overflow {build : List UInt8 → Checked BuildResult} {size : Nat}
    (env : Environment) (hbuild : Builds build packet) (hlen : packet.length = size)
    (hfits : self.Fits (size + 12)) (hint : ¬size ≤ INT_MAX) :
    self.sendReply env size build = .error .overflow := by
  subst hlen
  obtain ⟨buf, hensure, hroom⟩ := ensureSendRoom_fits hfits
  rw [sendReply, hensure]
  dsimp only
  rw [buildPacket_overflow hbuild hroom hint, error_bind]

theorem sendReply_refused {build : List UInt8 → Checked BuildResult} {size : Nat}
    (env : Environment) (hfixed : self.receiver.buffer_policy_ = .Fixed)
    (hshort : self.send_buf_.length < size + 12) :
    self.sendReply env size build = .ok (.error (.errc .no_buffer_space), self) := by
  rw [sendReply, ensureSendRoom_refused hfixed hshort]

section Commands

variable (ndebug : Bool) (env : Environment) {target_node : TargetNode}
variable (hbackend : self.receiver.tcp_backend_.isSome)
variable (hreply : target_node.replyAddress.length ≤ 12)
variable (transaction_id : UInt16) (memory_address : UInt32)
include hbackend hreply

theorem sendWritePacket_handsOver (data : List UInt8)
    (hfits : self.Fits (WritePacketBuilder.getTotalSize
      (self.writeConfig target_node transaction_id memory_address data) + 12))
    (hint : WritePacketBuilder.getTotalSize
      (self.writeConfig target_node transaction_id memory_address data) ≤ INT_MAX) :
    self.HandsOver env (WritePacketBuilder.getTotalSize
        (self.writeConfig target_node transaction_id memory_address data))
      (WritePacketBuilder.wire (self.writeConfig target_node transaction_id memory_address data))
      ((self.sendWritePacket_ ndebug env target_node transaction_id memory_address data).map
        fun r => (r.1.map fun _ => true, r.2)) := by
  have hestimate := self.writeEstimate_eq target_node transaction_id memory_address data
  obtain ⟨buf, hensure, hroom⟩ := ensureSendRoom_fits hfits
  have hbuilds := WritePacketBuilder.builds ndebug
    (self.writeConfig target_node transaction_id memory_address data) hreply
  have hlen := WritePacketBuilder.wire_length
    (self.writeConfig target_node transaction_id memory_address data) hreply
  rw [← hlen] at hroom
  have hhands := self.built_handsOver env buf hroom
  rw [sendWritePacket_, if_neg (not_isNone hbackend), hestimate]
  dsimp only
  rw [hensure]
  dsimp only
  rw [withBuffer_writeConfig, buildPacket_built hbuilds hroom (hlen.trans_le hint), ok_bind]
  rw [hlen] at hhands
  exact hhands

theorem sendWritePacket_overflow (data : List UInt8)
    (hfits : self.Fits (WritePacketBuilder.getTotalSize
      (self.writeConfig target_node transaction_id memory_address data) + 12))
    (hint : ¬WritePacketBuilder.getTotalSize
      (self.writeConfig target_node transaction_id memory_address data) ≤ INT_MAX) :
    self.sendWritePacket_ ndebug env target_node transaction_id memory_address data =
      .error .overflow := by
  have hestimate := self.writeEstimate_eq target_node transaction_id memory_address data
  obtain ⟨buf, hensure, hroom⟩ := ensureSendRoom_fits hfits
  have hbuilds := WritePacketBuilder.builds ndebug
    (self.writeConfig target_node transaction_id memory_address data) hreply
  have hlen := WritePacketBuilder.wire_length
    (self.writeConfig target_node transaction_id memory_address data) hreply
  rw [← hlen] at hroom hint
  rw [sendWritePacket_, if_neg (not_isNone hbackend), hestimate]
  dsimp only
  rw [hensure]
  dsimp only
  rw [withBuffer_writeConfig, buildPacket_overflow hbuilds hroom hint, error_bind]

theorem sendReadPacket_handsOver (data_length : UInt32)
    (hroom : ReadPacketBuilder.getTotalSize
      (self.readConfig target_node transaction_id memory_address data_length) + 12 ≤
        self.send_buf_.length)
    (hint : ReadPacketBuilder.getTotalSize
      (self.readConfig target_node transaction_id memory_address data_length) ≤ INT_MAX) :
    self.HandsOver env (ReadPacketBuilder.getTotalSize
        (self.readConfig target_node transaction_id memory_address data_length))
      (ReadPacketBuilder.wire
        (self.readConfig target_node transaction_id memory_address data_length))
      ((self.sendReadPacket_ ndebug env target_node transaction_id memory_address
        data_length).map fun r => (r.1.map fun _ => true, r.2)) := by
  have hestimate := self.readEstimate_eq target_node transaction_id memory_address data_length
  have hbuilds := ReadPacketBuilder.builds ndebug
    (self.readConfig target_node transaction_id memory_address data_length) hreply
  have hlen := ReadPacketBuilder.wire_length
    (self.readConfig target_node transaction_id memory_address data_length) hreply
  have hlarge := hroom
  rw [← hlen] at hlarge
  have hhands := self.built_handsOver env self.send_buf_ hlarge
  rw [sendReadPacket_, if_neg (not_isNone hbackend), hestimate]
  dsimp only
  rw [ensureSendRoom_of_le (Nat.le_trans (Nat.add_le_add_left (by decide) _) hroom)]
  dsimp only
  rw [buildPacket_built hbuilds hlarge (hlen.trans_le hint), ok_bind]
  dsimp only
  rw [ensureSendRoom_of_le]
  · rw [hlen] at hhands
    exact hhands
  · rw [withBuffer_send_buf, built, List.length_append, List.length_take_of_le, ← hlen]
    · rw [List.length_append]
      omega
    · omega

theorem sendReadPacket_overflow (data_length : UInt32)
    (hroom : ReadPacketBuilder.getTotalSize
      (self.readConfig target_node transaction_id memory_address data_length) + 12 ≤
        self.send_buf_.length)
    (hint : ¬ReadPacketBuilder.getTotalSize
      (self.readConfig target_node transaction_id memory_address data_length) ≤ INT_MAX) :
    self.sendReadPacket_ ndebug env target_node transaction_id memory_address data_length =
      .error .overflow := by
  have hestimate := self.readEstimate_eq target_node transaction_id memory_address data_length
  have hbuilds := ReadPacketBuilder.builds ndebug
    (self.readConfig target_node transaction_id memory_address data_length) hreply
  have hlen := ReadPacketBuilder.wire_length
    (self.readConfig target_node transaction_id memory_address data_length) hreply
  have hlarge := hroom
  rw [← hlen] at hlarge hint
  rw [sendReadPacket_, if_neg (not_isNone hbackend), hestimate]
  dsimp only
  rw [ensureSendRoom_of_le (Nat.le_trans (Nat.add_le_add_left (by decide) _) hroom)]
  dsimp only
  rw [buildPacket_overflow hbuilds hlarge hint, error_bind]

omit hreply in
/-- A fixed buffer without room for the frame is refused before or by the builder. -/
theorem sendReadPacket_refused (data_length : UInt32)
    (hfixed : self.receiver.buffer_policy_ = .Fixed)
    (hshort : self.send_buf_.length < ReadPacketBuilder.getTotalSize
      (self.readConfig target_node transaction_id memory_address data_length) + 12) :
    self.sendReadPacket_ ndebug env target_node transaction_id memory_address data_length =
      .ok (.error (.errc .no_buffer_space), self) := by
  have hestimate := self.readEstimate_eq target_node transaction_id memory_address data_length
  have hlow : 16 ≤ ReadPacketBuilder.getTotalSize
      (self.readConfig target_node transaction_id memory_address data_length) := by
    rw [ReadPacketBuilder.getTotalSize]
    omega
  rw [sendReadPacket_, if_neg (not_isNone hbackend), hestimate]
  dsimp only
  by_cases hroom : ReadPacketBuilder.getTotalSize
      (self.readConfig target_node transaction_id memory_address data_length) + 1 ≤
        self.send_buf_.length
  · rw [ensureSendRoom_of_le hroom]
    dsimp only
    rw [buildPacket_short ndebug (by omega) hshort, ok_bind]
    rfl
  · rw [ensureSendRoom_refused hfixed (Nat.lt_of_not_le hroom)]
    rfl

omit hreply in
theorem sendWritePacket_refused (data : List UInt8)
    (hfixed : self.receiver.buffer_policy_ = .Fixed)
    (hshort : self.send_buf_.length < WritePacketBuilder.getTotalSize
      (self.writeConfig target_node transaction_id memory_address data) + 12) :
    self.sendWritePacket_ ndebug env target_node transaction_id memory_address data =
      .ok (.error (.errc .no_buffer_space), self) := by
  have hestimate := self.writeEstimate_eq target_node transaction_id memory_address data
  rw [sendWritePacket_, if_neg (not_isNone hbackend), hestimate]
  dsimp only
  rw [ensureSendRoom_refused hfixed hshort]
  rfl

end Commands

/-- What is handed over was in the send buffer, and still is. -/
theorem HandsOver.length_le {size : Nat} {res : Except ErrorCode Bool} {node : Node}
    (h : self.HandsOver env size packet (.ok (res, node))) :
    size + 12 ≤ node.send_buf_.length := by
  obtain ⟨buf, hroom, -, hresult⟩ := h
  rw [sendAll] at hresult
  split at hresult
  · cases hresult
  · split at hresult
    · cases hresult
      exact hroom
    · cases hresult
      exact hroom

end Node

/-- A call that faults hands nothing over. -/
theorem Node.not_handsOver_error {self : Node} {env : Environment} {size : Nat}
    {packet : List UInt8} (hbackend : self.receiver.tcp_backend_.isSome) (fault : Fault) :
    ¬self.HandsOver env size packet (.error fault) := by
  rintro ⟨buf, -, -, hresult⟩
  obtain ⟨backend, hbackend⟩ := Option.isSome_iff_exists.mp hbackend
  have hsame : (self.withBuffer buf).receiver.tcp_backend_ = some backend := hbackend
  simp only [sendAll, hsame] at hresult
  split at hresult
  · cases hresult
  · cases hresult

/-- With a fixed buffer that is too small for the frame the path refuses and leaves the node
alone. In every other case it hands the frame over. -/
def SendPath.PolicyKept (self : Node) (env : Environment) (path : SendPath)
    (result : Checked (Except ErrorCode Bool × Node)) : Prop :=
  (¬self.Fits (path.totalSize self + 12) →
    result = .ok (.error (.errc .no_buffer_space), self)) ∧
  (self.Fits (path.totalSize self + 12) →
    self.HandsOver env (path.totalSize self) (path.wire self) result)

namespace SendPath

variable {self : Node}

theorem autoResize_of_ne (h : self.receiver.buffer_policy_ ≠ .Fixed) :
    self.receiver.buffer_policy_ = .AutoResize := by
  cases hpolicy : self.receiver.buffer_policy_ with
  | Fixed => exact absurd hpolicy h
  | AutoResize => rfl

theorem not_fits_iff {size : Nat} : ¬self.Fits size ↔
    self.receiver.buffer_policy_ = .Fixed ∧ self.send_buf_.length < size := by
  rw [Node.Fits, Classical.not_imp, Nat.not_le]

/-- A buffer that may grow is grown to less than the frame of a read command. -/
theorem readCommand_not_kept (ndebug : Bool) (env : Environment) {target_node : TargetNode}
    {transaction_id : UInt16} {memory_address data_length : UInt32}
    (hbackend : self.receiver.tcp_backend_.isSome)
    (hpolicy : self.receiver.buffer_policy_ ≠ .Fixed)
    (hshort : self.send_buf_.length < totalSize self
      (.readCommand target_node transaction_id memory_address data_length) + 12) :
    ∃ buf, run ndebug self env (.readCommand target_node transaction_id memory_address
        data_length) = .ok (.error (.errc .no_buffer_space), self.withBuffer buf) ∧
      ¬PolicyKept self env (.readCommand target_node transaction_id memory_address data_length)
        (.ok (.error (.errc .no_buffer_space), self.withBuffer buf)) := by
  have hready : self.Ready := ⟨hbackend, autoResize_of_ne hpolicy⟩
  obtain ⟨buf, hrun, hsmall⟩ := Node.sendReadPacket_short ndebug hready transaction_id
    memory_address env data_length hshort
  refine ⟨buf, ?_, ?_⟩
  · rw [run, hrun]
    rfl
  · intro hkept
    have hhands := hkept.2 fun hfixed => absurd hfixed hpolicy
    exact absurd hhands.length_le (Nat.not_le.mpr hsmall)

/-- A path that faults where it should send. -/
theorem not_policyKept_error (hbackend : self.receiver.tcp_backend_.isSome) {env : Environment}
    {path : SendPath} (hfits : self.Fits (path.totalSize self + 12)) (fault : Fault) :
    ¬path.PolicyKept self env (.error fault) := by
  intro hkept
  exact Node.not_handsOver_error hbackend fault (hkept.2 hfits)

/-- Both replies of `poll` keep to their policy as far as their builder's index counts. -/
theorem reply_policyKept_iff (env : Environment) (hbackend : self.receiver.tcp_backend_.isSome)
    (path : SendPath) {build : List UInt8 → Checked BuildResult}
    (hbuild : Builds build (path.wire self))
    (hlen : (path.wire self).length = path.totalSize self)
    {result : Checked (Except ErrorCode Bool × Node)}
    (hrun : result = self.sendReply env (path.totalSize self) build) :
    path.PolicyKept self env result ↔
      (self.Fits (path.totalSize self + 12) → path.totalSize self ≤ INT_MAX) := by
  subst hrun
  constructor
  · intro hkept hfits
    by_contra hint
    rw [Node.sendReply_overflow env hbuild hlen hfits hint] at hkept
    exact not_policyKept_error hbackend hfits .overflow hkept
  · intro hint
    constructor
    · intro hfits
      obtain ⟨hfixed, hshort⟩ := not_fits_iff.mp hfits
      exact Node.sendReply_refused env hfixed hshort
    · intro hfits
      exact Node.sendReply_handsOver env hbuild hlen hfits (hint hfits)

/-- The policy is kept on every path but the read command, and there if the buffer is fixed
or large enough for the frame already; and whenever the builder is called with a buffer that
has room, only if an `int` counts the packet. -/
theorem run_policyKept_iff (ndebug : Bool) (env : Environment) (path : SendPath)
    (hbackend : self.receiver.tcp_backend_.isSome) (hreply : path.replyAddress.length ≤ 12) :
    path.PolicyKept self env (path.run ndebug self env) ↔
      (path.isReadCommand = true → self.receiver.buffer_policy_ = .Fixed ∨
        path.totalSize self + 12 ≤ self.send_buf_.length) ∧
      (self.Fits (path.totalSize self + 12) → path.totalSize self ≤ INT_MAX) := by
  have hlen := path.wire_length self hreply
  cases path with
  | readCommand target_node transaction_id memory_address data_length =>
      by_cases hlarge : self.receiver.buffer_policy_ = .Fixed ∨
          totalSize self (.readCommand target_node transaction_id memory_address data_length) +
            12 ≤ self.send_buf_.length
      · rw [and_iff_right fun _ => hlarge]
        constructor
        · intro hkept hfits
          by_contra hint
          have hrun := Node.sendReadPacket_overflow ndebug env hbackend hreply transaction_id
            memory_address data_length (hlarge.elim hfits id) hint
          rw [run, hrun] at hkept
          exact not_policyKept_error hbackend hfits .overflow hkept
        · intro hint
          constructor
          · intro hfits
            obtain ⟨hfixed, hshort⟩ := not_fits_iff.mp hfits
            rw [run, Node.sendReadPacket_refused ndebug env hbackend _ _ _ hfixed hshort]
            rfl
          · intro hfits
            exact Node.sendReadPacket_handsOver ndebug env hbackend hreply _ _ _
              (hlarge.elim hfits id) (hint hfits)
      · refine iff_of_false ?_ fun h => hlarge (h.1 rfl)
        obtain ⟨hpolicy, hshort⟩ := not_or.mp hlarge
        obtain ⟨buf, hrun, hbroken⟩ := readCommand_not_kept ndebug env hbackend hpolicy
          (Nat.lt_of_not_le hshort)
        rw [hrun]
        exact hbroken
  | writeCommand target_node transaction_id memory_address data =>
      refine Iff.trans ?_ (and_iff_right fun h => absurd h Bool.false_ne_true).symm
      constructor
      · intro hkept hfits
        by_contra hint
        have hrun := Node.sendWritePacket_overflow ndebug env hbackend hreply transaction_id
          memory_address data hfits hint
        rw [run, hrun] at hkept
        exact not_policyKept_error hbackend hfits .overflow hkept
      · intro hint
        constructor
        · intro hfits
          obtain ⟨hfixed, hshort⟩ := not_fits_iff.mp hfits
          rw [run, Node.sendWritePacket_refused ndebug env hbackend _ _ _ hfixed hshort]
          rfl
        · intro hfits
          exact Node.sendWritePacket_handsOver ndebug env hbackend hreply _ _ _ hfits (hint hfits)
  | readReply packet data =>
      refine Iff.trans ?_ (and_iff_right fun h => absurd h Bool.false_ne_true).symm
      exact reply_policyKept_iff env hbackend (.readReply packet data)
        (ReadReplyPacketBuilder.builds _) hlen rfl
  | writeReply packet =>
      refine Iff.trans ?_ (and_iff_right fun h => absurd h Bool.false_ne_true).symm
      exact reply_policyKept_iff env hbackend (.writeReply packet)
        (WriteReplyPacketBuilder.builds _) hlen rfl

/-- A connected node with a given policy and send buffer. -/
def nodeOf (range : TransactionRange) (policy : BufferPolicy) (send_buf_ : List UInt8) : Node where
  receiver :=
    { tcp_backend_ := some { incoming := [] }
      recv_buf_ := []
      buffer_policy_ := policy }
  send_buf_ := send_buf_
  range := range

/-- A write of two bytes from an empty buffer that may grow. -/
theorem run_policyKept_iff_write :
    PolicyKept (nodeOf {} .AutoResize []) {} (.writeCommand ⟨[3], [5], 0xFE⟩ 7 0x20 [1, 2])
      (run true (nodeOf {} .AutoResize []) {} (.writeCommand ⟨[3], [5], 0xFE⟩ 7 0x20 [1, 2])) :=
  (run_policyKept_iff true {} _ rfl (by decide)).mpr
    ⟨fun h => absurd h Bool.false_ne_true, fun _ => by decide⟩

/-- A read command from the same buffer is refused, though the buffer may grow. -/
theorem readCommand_refused : ∃ node : Node,
    run true (nodeOf {} .AutoResize []) {} (.readCommand ⟨[], [], 0xFE⟩ 7 0x20 4) =
      .ok (.error (.errc .no_buffer_space), node) ∧
    ¬PolicyKept (nodeOf {} .AutoResize []) {} (.readCommand ⟨[], [], 0xFE⟩ 7 0x20 4)
      (run true (nodeOf {} .AutoResize []) {} (.readCommand ⟨[], [], 0xFE⟩ 7 0x20 4)) := by
  have hshort : (nodeOf {} .AutoResize []).send_buf_.length <
      totalSize (nodeOf {} .AutoResize []) (.readCommand ⟨[], [], 0xFE⟩ 7 0x20 4) + 12 := by decide
  obtain ⟨buf, hrun, hbroken⟩ := readCommand_not_kept true {} rfl (by decide) hshort
  exact ⟨_, hrun, by rw [hrun]; exact hbroken⟩

end SendPath

end SpwRmap
