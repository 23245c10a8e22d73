import Mathlib.Data.List.Flatten
import SpwRmap.Node.Lengths

/-!
# How a target answers

`poll` answers every command that it accepts with one frame, built from the record of the
parser and the data of the callback. The reply names the two logical addresses the other way
round, always has the increment bit and, for a write, the verify bit; and it is sent whether
or not the command asks for one. So a reply corresponds to its command exactly for commands
that could not tell the difference, and the replies are those asked for exactly if every
command asks.
-/

namespace SpwRmap

open Span Bytes Outcome PacketParser Grammar crc

/-- A round that ends the call with a size has received nothing. -/
def Round.EndsEmpty : Round → Prop
  | .done (.ok size) => size = 0
  | _ => True

namespace Receiver

theorem receiveBody_endsEmpty (self : Receiver) (header : List UInt8) (total_size dataLength : Nat)
    (recv_buffer : Window) :
    Leaves (fun r => r.1.EndsEmpty)
      (self.receiveBody header total_size dataLength recv_buffer) := by
  rw [receiveBody]
  dsimp only
  split
  · apply Yields.any.bind
    rintro ⟨res, receiver⟩ _
    cases res with
    | error e => trivial
    | ok size => trivial
  split
  · apply Yields.any.bind
    rintro ⟨res, receiver⟩ _
    cases res with
    | error e => trivial
    | ok size => trivial
  split
  · apply Yields.any.bind
    rintro ⟨res, receiver⟩ _
    cases res with
    | error e => trivial
    | ok size =>
        dsimp only
        split
        · trivial
        · trivial
  split
  · split
    · trivial
    · apply Yields.any.bind
      rintro ⟨res, received, receiver⟩ _
      cases res with
      | error e => trivial
      | ok size =>
          dsimp only
          split
          · trivial
          · trivial
  · trivial

theorem receiveFrame_endsEmpty (self : Receiver) (total_size : Nat) (recv_buffer : Window) :
    Leaves (fun r => r.1.EndsEmpty) (self.receiveFrame total_size recv_buffer) := by
  rw [receiveFrame]
  apply Yields.any.bind
  rintro ⟨res, received, receiver⟩ _
  dsimp only
  split
  · trivial
  · exact rfl
  · split
    · trivial
    · split
      · trivial
      · split
        · trivial
        · split
          · trivial
          · apply Yields.any.bind
            rintro ⟨room, receiver⟩ _
            cases room with
            | error e => trivial
            | ok recv_buffer => exact receiveBody_endsEmpty _ _ _ _ _

/-- By induction on the rounds: a size other than zero is that of a packet the parser took. -/
theorem receiveLoop_parsed (fuel : Nat) (self : Receiver) (total_size : Nat)
    (recv_buffer : Window) :
    Leaves (fun r => ∀ size, r.1 = .ok size → size ≠ 0 →
        ∃ parser packet, parse parser packet = .ok (.Success, r.2.packet_parser_))
      (receiveLoop fuel self total_size recv_buffer) := by
  induction fuel generalizing self total_size recv_buffer with
  | zero => trivial
  | succ fuel ih =>
      rw [receiveLoop]
      apply (receiveFrame_endsEmpty self total_size recv_buffer).bind
      rintro ⟨round, receiver⟩ hround
      cases round with
      | done res =>
          intro size hres hne
          cases hres
          exact absurd hround hne
      | again total_size recv_buffer => exact ih _ _ _
      | restart => exact ih _ _ _
      | eof total_size =>
          dsimp only
          rw [parseReceived]
          apply Yields.any.bind
          intro packet _
          cases hparse : receiver.packet_parser_.parse packet with
          | error fault => trivial
          | ok parsed =>
              obtain ⟨status, next⟩ := parsed
              rw [ok_bind]
              dsimp only
              split
              · intro size hres
                cases hres
              · rename_i hstatus
                intro size _ _
                rw [not_not.mp hstatus] at hparse
                exact ⟨_, packet, hparse⟩

theorem recvAndParseOnePacket_parsed {self receiver : Receiver} {size : Nat}
    (hreceive : self.recvAndParseOnePacket_ = .ok (.ok size, receiver)) (hne : size ≠ 0) :
    ∃ parser packet, parse parser packet = .ok (.Success, receiver.packet_parser_) := by
  rw [recvAndParseOnePacket_] at hreceive
  split at hreceive
  · cases hreceive
  · exact (receiveLoop_parsed _ _ _ _).of_ok hreceive size rfl hne

end Receiver

/-- A command that was parsed has its fields from a packet. -/
theorem commandFieldsAt_of_parse {parser next : PacketParser} {packet : List UInt8}
    (hparse : parse parser packet = .ok (.Success, next))
    (htype : next.packet_.type = .Read ∨ next.packet_.type = .Write) :
    ∃ path body, CommandFieldsAt path body next.packet_ := by
  have hne : packet ≠ [] := by
    intro hnil
    rw [hnil] at hparse
    cases hparse
  obtain ⟨path, body, -, hfields⟩ := (parse_success_iff parser packet hne).2 next hparse
  rw [FieldsAt] at hfields
  obtain htype | htype := htype
  · rw [htype] at hfields
    exact ⟨path, body, hfields⟩
  · rw [htype] at hfields
    exact ⟨path, body, hfields.1⟩

/-- The reply address of a command that was parsed fits the header. -/
theorem replyAddress_le_of_parse {parser next : PacketParser} {packet : List UInt8}
    (hparse : parse parser packet = .ok (.Success, next))
    (htype : next.packet_.type = .Read ∨ next.packet_.type = .Write) :
    next.packet_.replyAddress.length ≤ 12 := by
  obtain ⟨path, body, -, -, -, -, hreply, -⟩ := commandFieldsAt_of_parse hparse htype
  have hsize : replySizeOf body ≤ 12 := by
    have hbits : (byteOf body 2 &&& 0b00000011).toNat ≤ 3 := by
      rw [UInt8.toNat_and]
      exact Nat.and_le_right
    rw [replySizeOf, announcedReplyAddressSize]
    omega
  rw [hreply]
  exact (trimZeros_length_le _).trans ((List.length_take_le _ _).trans hsize)

/-- Its data length is read from three bytes. -/
theorem dataLength_lt_of_parse {parser next : PacketParser} {packet : List UInt8}
    (hparse : parse parser packet = .ok (.Success, next))
    (htype : next.packet_.type = .Read ∨ next.packet_.type = .Write) :
    next.packet_.dataLength.toNat < 2 ^ 24 := by
  obtain ⟨path, body, -, -, -, -, -, -, -, -, -, hlength⟩ := commandFieldsAt_of_parse hparse htype
  rw [hlength, numberOf]
  have hbytes : ((body.drop (12 + replySizeOf body)).take 3).length ≤ 3 := List.length_take_le _ _
  calc ofBigEndian ((body.drop (12 + replySizeOf body)).take 3)
      < 256 ^ ((body.drop (12 + replySizeOf body)).take 3).length := ofBigEndian_lt _
    _ ≤ 256 ^ 3 := Nat.pow_le_pow_right (by decide) hbytes
    _ = 2 ^ 24 := rfl

/-- The data of a read reply: what the callback returns, or none without a callback. -/
def Environment.supplied (env : Environment) (command : Packet) : List UInt8 :=
  match env.on_read with
  | none => []
  | some on_read => (on_read command).getD []

/-- What was done for a command. -/
def executed (command : Packet) (data : List UInt8) : Event :=
  match command.type with
  | .Write => .onWrite command
  | _ => .onRead command data

namespace Node

variable {self node : Node} {env : Environment} {receiver : Receiver}

theorem HandsOver.sent_eq {size : Nat} {packet : List UInt8} {res : Bool}
    (h : self.HandsOver env size packet (.ok (.ok res, node))) :
    node.sent = self.sent ++ (Frame.single packet).encode ∧ node.receiver = self.receiver := by
  obtain ⟨buf, -, hframe, hresult⟩ := h
  rw [hframe, sendAll] at hresult
  split at hresult
  · cases hresult
  · split at hresult
    · cases hresult
      exact ⟨rfl, rfl⟩
    · cases hresult

/-- A reply that `poll` reports as sent was sent whole. -/
theorem sendReply_sent {build : List UInt8 → Checked BuildResult} {size : Nat}
    {packet : List UInt8} {res : Bool} (hbuild : Builds build packet)
    (hlen : packet.length = size) (h : self.sendReply env size build = .ok (.ok res, node)) :
    node.sent = self.sent ++ (Frame.single packet).encode ∧ node.receiver = self.receiver := by
  by_cases hfits : self.Fits (size + 12)
  · by_cases hint : size ≤ INT_MAX
    · have hhands := sendReply_handsOver env hbuild hlen hfits hint
      rw [h] at hhands
      exact hhands.sent_eq
    · rw [sendReply_overflow env hbuild hlen hfits hint] at h
      cases h
  · obtain ⟨hfixed, hshort⟩ := SendPath.not_fits_iff.mp hfits
    rw [sendReply_refused env hfixed hshort] at h
    cases h

theorem pollRead_sent {command : Packet} {res : Bool} (htype : command.type = .Read)
    (h : self.pollRead env command = .ok (.ok res, node)) :
    node.sent = self.sent ++
        (Frame.single (replyPacket (executed command (env.supplied command)))).encode ∧
      node.receiver = self.receiver := by
  have hexecuted : executed command (env.supplied command) =
      .onRead command (env.supplied command) := by
    rw [executed, htype]
  rw [hexecuted, Environment.supplied]
  rw [pollRead] at h
  dsimp only at h
  cases hread : env.on_read with
  | none =>
      rw [hread] at h
      exact sendReply_sent (ReadReplyPacketBuilder.builds _)
        (ReadReplyPacketBuilder.wire_length _) h
  | some on_read =>
      rw [hread] at h
      dsimp only at h ⊢
      cases hdata : on_read command with
      | none =>
          rw [hdata] at h
          cases h
      | some data =>
          rw [hdata] at h
          have hsent := sendReply_sent
            (ReadReplyPacketBuilder.builds (readReplyConfig command data))
            (ReadReplyPacketBuilder.wire_length _) h
          exact hsent

theorem pollWrite_sent {command : Packet} {res : Bool} (htype : command.type = .Write)
    (h : self.pollWrite env command = .ok (.ok res, node)) :
    node.sent = self.sent ++
        (Frame.single (replyPacket (executed command (env.supplied command)))).encode ∧
      node.receiver = self.receiver := by
  have hexecuted : executed command (env.supplied command) = .onWrite command := by
    rw [executed, htype]
  rw [hexecuted]
  rw [pollWrite] at h
  dsimp only at h
  cases hwrite : env.on_write with
  | none =>
      rw [hwrite] at h
      exact sendReply_sent (WriteReplyPacketBuilder.builds _)
        (WriteReplyPacketBuilder.wire_length _) h
  | some on_write =>
      rw [hwrite] at h
      dsimp only at h
      split at h
      · have hsent := sendReply_sent (WriteReplyPacketBuilder.builds (writeReplyConfig command))
          (WriteReplyPacketBuilder.wire_length _) h
        exact hsent
      · cases h

/-- One call of `poll` that takes a command from the stream and reports success. -/
structure Serves (ndebug : Bool) (before : Node) (env : Environment) (command : Packet)
    (after : Node) : Prop where
  type : command.type = .Read ∨ command.type = .Write
  polled : ∃ derived receiver size, size ≠ 0 ∧
    before.receiver.recvAndParseOnePacket_ = .ok (.ok size, receiver) ∧
    receiver.packet_parser_.packet_ = command ∧
    before.poll ndebug derived env = .ok (.ok true, after)

namespace Serves

variable {ndebug : Bool} {command : Packet}

theorem accepted (h : self.Serves ndebug env command node) :
    ∃ parser packet, PacketParser.parse parser packet = .ok (.Success, ⟨command⟩) := by
  obtain ⟨-, derived, receiver, size, hne, hreceive, hcommand, -⟩ := h
  rw [← hcommand]
  exact Receiver.recvAndParseOnePacket_parsed hreceive hne

/-- What is sent for a command. -/
theorem sent (h : self.Serves ndebug env command node) :
    node.sent = self.sent ++
      (Frame.single (replyPacket (executed command (env.supplied command)))).encode := by
  obtain ⟨htype, derived, receiver, size, hne, hreceive, hcommand, hpoll⟩ := h
  rw [poll_received ndebug derived env hne hreceive, hcommand, pollPacket] at hpoll
  obtain htype | htype := htype
  · rw [htype] at hpoll
    exact (pollRead_sent htype hpoll).1
  · rw [htype] at hpoll
    exact (pollWrite_sent htype hpoll).1

theorem replyAddress_le (h : Serves ndebug self env command node) :
    command.replyAddress.length ≤ 12 := by
  obtain ⟨parser, packet, hparse⟩ := h.accepted
  exact replyAddress_le_of_parse hparse h.type

end Serves

end Node

/-- The reply to `command` carries the fields of `command`. -/
structure Corresponds (command reply : Packet) : Prop where
  type : reply.type = if command.type = .Read then .ReadReply else .WriteReply
  transactionID : reply.transactionID = command.transactionID
  replyAddress : reply.replyAddress = command.replyAddress
  initiatorLogicalAddress : reply.initiatorLogicalAddress = command.initiatorLogicalAddress
  targetLogicalAddress : reply.targetLogicalAddress = command.targetLogicalAddress
  increment : reply.instruction &&& RMAPCommandCode.IncrementAddress ≠ 0 ↔
    command.instruction &&& RMAPCommandCode.IncrementAddress ≠ 0
  verify : reply.instruction &&& RMAPCommandCode.VerifyDataBeforeWrite ≠ 0 ↔
    command.instruction &&& RMAPCommandCode.VerifyDataBeforeWrite ≠ 0

/-- The commands to which the reply of `poll` corresponds: both logical addresses are the
same, the address is incremented, and data is verified exactly by a write. -/
structure Symmetric (command : Packet) : Prop where
  logical : command.initiatorLogicalAddress = command.targetLogicalAddress
  increment : command.instruction &&& RMAPCommandCode.IncrementAddress ≠ 0
  verify : command.instruction &&& RMAPCommandCode.VerifyDataBeforeWrite ≠ 0 ↔
    command.type = .Write

instance (command : Packet) : Decidable (Symmetric command) :=
  decidable_of_iff (command.initiatorLogicalAddress = command.targetLogicalAddress ∧
      command.instruction &&& RMAPCommandCode.IncrementAddress ≠ 0 ∧
      (command.instruction &&& RMAPCommandCode.VerifyDataBeforeWrite ≠ 0 ↔ command.type = .Write))
    ⟨fun h => ⟨h.1, h.2.1, h.2.2⟩, fun h => ⟨h.1, h.2, h.3⟩⟩

/-- What a parser finds in the reply to a command. -/
structure AnswerTo (command reply : Packet) : Prop where
  type : reply.type = if command.type = .Read then .ReadReply else .WriteReply
  transactionID : reply.transactionID = command.transactionID
  replyAddress : reply.replyAddress = command.replyAddress
  initiatorLogicalAddress : reply.initiatorLogicalAddress = command.targetLogicalAddress
  targetLogicalAddress : reply.targetLogicalAddress = command.initiatorLogicalAddress
  increment : reply.instruction &&& RMAPCommandCode.IncrementAddress ≠ 0
  verify : reply.instruction &&& RMAPCommandCode.VerifyDataBeforeWrite ≠ 0 ↔
    command.type = .Write

theorem AnswerTo.corresponds_iff {command reply : Packet} (h : AnswerTo command reply) :
    Corresponds command reply ↔ Symmetric command := by
  constructor
  · intro hc
    refine ⟨?_, hc.increment.mp h.increment, hc.verify.symm.trans h.verify⟩
    rw [← hc.initiatorLogicalAddress, h.initiatorLogicalAddress]
  · intro hs
    refine ⟨h.type, h.transactionID, h.replyAddress, ?_, ?_, ?_, h.verify.trans hs.verify.symm⟩
    · rw [h.initiatorLogicalAddress, hs.logical]
    · rw [h.targetLogicalAddress, hs.logical]
    · exact iff_of_true h.increment hs.increment

theorem ReadReplyPacketBuilder.verify_clear (increment : Bool) :
    (RMAPPacketType.Reply ||| RMAPCommandCode.Reply |||
      (if increment then RMAPCommandCode.IncrementAddress else 0)) &&&
        RMAPCommandCode.VerifyDataBeforeWrite = 0 := by
  revert increment
  decide

/-- A read reply has no verify bit. -/
theorem ReadReplyPacketBuilder.parse_wire_verify {config : ReadReplyPacketConfig}
    {parser next : PacketParser} (hpath : ∀ b ∈ config.replyAddress, b < 0x20)
    (hlogical : 0x20 ≤ config.initiatorLogicalAddress) (hdata : config.data.length < 2 ^ 24)
    (hparse : parse parser (wire config) = .ok (.Success, next)) :
    next.packet_.instruction &&& RMAPCommandCode.VerifyDataBeforeWrite = 0 := by
  have haccepts := accepts_wire config hpath hlogical hdata
  rw [parse_of_accepts parser haccepts] at hparse
  cases hparse
  obtain ⟨-, hfields, -⟩ := decoded_fields parser.packet_ haccepts
  have hsplit : body config = (fields config).header ++
      (0x00 :: toBigEndian 3 config.data.length ++
        ([calcCRC (header config)] ++ (config.data ++ [calcCRC config.data]))) := by
    simp [body, header]
  obtain ⟨-, -, hinstruction, -⟩ := (fields config).fieldsAt_header hsplit hfields
  rw [hinstruction]
  exact verify_clear config.incrementMode

theorem replyPacket_parse {command : Packet} {data : List UInt8}
    (htype : command.type = .Read ∨ command.type = .Write)
    (htarget : 0x20 ≤ command.targetLogicalAddress) (hreply : ∀ b ∈ command.replyAddress, b < 0x20)
    (hdata : command.type = .Read → data.length < 2 ^ 24) (parser : PacketParser) :
    ∃ next, parse parser (Node.replyPacket (executed command data)) = .ok (.Success, next) ∧
      AnswerTo command next.packet_ := by
  obtain htype | htype := htype
  · rw [executed, htype]
    obtain ⟨next, hparse, h⟩ := ReadReplyPacketBuilder.parse_wire
      (Node.readReplyConfig command data) parser hreply htarget (hdata htype)
    have hverify := ReadReplyPacketBuilder.parse_wire_verify hreply htarget (hdata htype) hparse
    refine ⟨next, hparse, ?_, h.transactionID, h.replyAddress, h.initiatorLogicalAddress,
      h.targetLogicalAddress, h.increment.mpr rfl, ?_⟩
    · rw [h.type, htype, if_pos rfl]
    · rw [htype]
      exact iff_of_false (not_not.mpr hverify) (by decide)
  · rw [executed, htype]
    obtain ⟨next, hparse, h⟩ := WriteReplyPacketBuilder.parse_wire (Node.writeReplyConfig command)
      parser hreply htarget
    refine ⟨next, hparse, ?_, h.transactionID, h.replyAddress, h.initiatorLogicalAddress,
      h.targetLogicalAddress, h.increment.mpr rfl, ?_⟩
    · rw [h.type, htype, if_neg (by decide)]
    · rw [htype]
      exact iff_of_true (h.verify.mpr rfl) rfl

theorem Frame.single_encode_inj {a b : List UInt8}
    (h : (Frame.single a).encode = (Frame.single b).encode) : a = b := by
  have hdrop := congrArg (List.drop 12) h
  rw [Frame.encode, Frame.encode, List.drop_left' (Frame.header_length _),
    List.drop_left' (Frame.header_length _)] at hdrop
  exact hdrop

theorem replyPacket_length {command : Packet} (data : List UInt8)
    (htype : command.type = .Read ∨ command.type = .Write) :
    (Node.replyPacket (executed command data)).length =
      if command.type = .Read then command.replyAddress.length + 12 + data.length + 1
      else command.replyAddress.length + 8 := by
  obtain htype | htype := htype
  · rw [executed, htype, if_pos rfl]
    exact ReadReplyPacketBuilder.wire_length (Node.readReplyConfig command data)
  · rw [executed, htype, if_neg (by decide)]
    exact WriteReplyPacketBuilder.wire_length (Node.writeReplyConfig command)

/-- One frame is sent from `before` to `after`; whoever parses its packet, and whoever
receives it at the front of a stream, has a record with the property. -/
def Node.Answers (before after : Node) (P : Packet → Prop) : Prop :=
  ∃ reply, after.sent = before.sent ++ (Frame.single reply).encode ∧
    (∀ parser, ∃ next, parse parser reply = .ok (.Success, next) ∧ P next.packet_) ∧
    ∀ (initiator : Receiver) (backend : Backend) (rest : List UInt8),
      initiator.buffer_policy_ = .AutoResize → initiator.tcp_backend_ = some backend →
      backend.incoming = (Frame.single reply).encode ++ rest →
      ∃ received, initiator.recvAndParseOnePacket_ = .ok (.ok reply.length, received) ∧
        P received.packet_parser_.packet_

theorem Node.Answers.of_parse {before after : Node} {P : Packet → Prop} {reply : List UInt8}
    (hsent : after.sent = before.sent ++ (Frame.single reply).encode) (hne : reply ≠ [])
    (hlength : reply.length < 2 ^ 63)
    (hparse : ∀ parser, ∃ next, parse parser reply = .ok (.Success, next) ∧ P next.packet_) :
    before.Answers after P := by
  refine ⟨reply, hsent, hparse, ?_⟩
  intro initiator backend rest hpolicy hbackend hin
  obtain ⟨calls, status, next, buf, hdelivered, hout⟩ :=
    initiator.recvAndParseOnePacket_single backend hpolicy hbackend hne hlength hin
  obtain ⟨next', hparse', hP⟩ := hparse initiator.packet_parser_
  rw [hparse'] at hdelivered
  cases hdelivered
  exact ⟨_, hout, hP⟩

theorem Node.Answers.symmetric {ndebug : Bool} {before after : Node} {env : Environment}
    {command : Packet} (hserves : before.Serves ndebug env command after)
    (htarget : 0x20 ≤ command.targetLogicalAddress) (hreply : ∀ b ∈ command.replyAddress, b < 0x20)
    (hdata : command.type = .Read → (env.supplied command).length < 2 ^ 24)
    (h : before.Answers after (Corresponds command)) : Symmetric command := by
  obtain ⟨reply, hreplied, hall, -⟩ := h
  have hsame : reply = Node.replyPacket (executed command (env.supplied command)) := by
    rw [hserves.sent, List.append_cancel_left_eq] at hreplied
    exact (Frame.single_encode_inj hreplied).symm
  subst hsame
  obtain ⟨next, hnext, hcorresponds⟩ := hall {}
  obtain ⟨next', hnext', hanswer⟩ := replyPacket_parse hserves.type htarget hreply hdata {}
  rw [hnext] at hnext'
  cases hnext'
  exact hanswer.corresponds_iff.mp hcorresponds

/-- The reply that `poll` sends to a command corresponds to the command, for commands whose
reply cannot show the difference and for no others. -/
theorem poll_corresponds_iff {ndebug : Bool} {before after : Node} {env : Environment}
    {command : Packet} (hserves : before.Serves ndebug env command after)
    (htarget : 0x20 ≤ command.targetLogicalAddress) (hreply : ∀ b ∈ command.replyAddress, b < 0x20)
    (hdata : command.type = .Read → (env.supplied command).length < 2 ^ 24) :
    before.Answers after (Corresponds command) ↔ Symmetric command := by
  constructor
  · exact Node.Answers.symmetric hserves htarget hreply hdata
  · intro hsymmetric
    have hlength := replyPacket_length (env.supplied command) hserves.type
    have hshort := hserves.replyAddress_le
    apply Node.Answers.of_parse hserves.sent
    · intro hnil
      rw [hnil, List.length_nil] at hlength
      split at hlength
      · omega
      · omega
    · rw [hlength]
      split
      · have hread := hdata ‹_›
        omega
      · omega
    · intro parser
      obtain ⟨next, hnext, hanswer⟩ :=
        replyPacket_parse hserves.type htarget hreply hdata parser
      exact ⟨next, hnext, hanswer.corresponds_iff.mpr hsymmetric⟩

/-- A node with callbacks that return serves whatever command stands next in its stream. -/
theorem Node.exists_serves (ndebug : Bool) {self : Node} {env : Environment} (hready : Ready self)
    (hsend : env.sendAll = .sent) (henv : env.Serves) {packet rest : List UInt8}
    {next : PacketParser} (hne : packet ≠ []) (hlength : packet.length < 2 ^ 63)
    (hin : self.incoming = (Frame.single packet).encode ++ rest)
    (hparse : self.receiver.packet_parser_.parse packet = .ok (.Success, next))
    (htype : next.packet_.type = .Read ∨ next.packet_.type = .Write) :
    ∃ node, self.Serves ndebug env next.packet_ node ∧
      (next.packet_.type = .Write → node.events = self.events ++ [.onWrite next.packet_]) := by
  let derived : Derived := ⟨fun _ => false, fun node => (.ok (), node)⟩
  obtain ⟨backend, hbackend⟩ := Option.isSome_iff_exists.mp hready.connected
  have hstream : backend.incoming = (Frame.single packet).encode ++ rest := by
    rw [incoming, hbackend] at hin
    exact hin
  obtain ⟨calls, status, next', buf, hparse', hout⟩ :=
    self.receiver.recvAndParseOnePacket_single backend hready.autoResize hbackend hne hlength
      hstream
  rw [hparse] at hparse'
  cases hparse'
  obtain ⟨middle, hreceived, hpoll⟩ := poll_eq ndebug derived env hready hne hlength hin hparse
  have hevents : middle.events = self.events := by
    rw [hreceived.others]
  have hserved : ∃ node, middle.pollPacket ndebug env next.packet_ = .ok (.ok true, node) ∧
      (next.packet_.type = .Write → node.events = self.events ++ [.onWrite next.packet_]) := by
    have hreply := replyAddress_le_of_parse hparse htype
    have hdataLength := dataLength_lt_of_parse hparse htype
    rw [pollPacket]
    obtain htype | htype := htype
    · rw [htype]
      obtain ⟨data, buf, -, hread⟩ := pollRead_eq hreceived.ready hsend henv hreply hdataLength
      refine ⟨_, hread, ?_⟩
      intro hwrite
      cases hwrite
    · rw [htype]
      obtain ⟨buf, hwrite⟩ := pollWrite_eq hreceived.ready hsend henv hreply
      refine ⟨_, hwrite, ?_⟩
      intro _
      rw [← hevents]
      rfl
  obtain ⟨node, hnode, hexecuted⟩ := hserved
  have hpositive : packet.length ≠ 0 := (List.length_pos_of_ne_nil hne).ne'
  exact ⟨node, ⟨htype, derived, _, packet.length, hpositive, hout, rfl, hpoll.trans hnode⟩,
    hexecuted⟩

/-- A node whose stream holds the given packets. -/
def Node.target (range : TransactionRange) (packets : List (List UInt8)) : Node where
  receiver :=
    { tcp_backend_ := some {
        incoming := packets.flatMap fun packet => (Frame.single packet).encode }
      recv_buf_ := [] }
  send_buf_ := []
  range := range

/-- Callbacks that return: as many zeros as are asked for, and from every write. -/
def Environment.zeros : Environment where
  on_write := some fun _ => true
  on_read := some fun packet => some (List.replicate packet.dataLength.toNat 0)

theorem Environment.zeros_serves : zeros.Serves where
  on_write := ⟨_, rfl, fun _ => rfl⟩
  on_read := ⟨_, rfl, fun _ => ⟨_, rfl, List.length_replicate⟩⟩

/-- A node that holds one command serves it. -/
theorem Node.target_serves {packet : List UInt8} {next : PacketParser}
    (hparse : parse {} packet = .ok (.Success, next))
    (htype : next.packet_.type = .Read ∨ next.packet_.type = .Write)
    (hlength : packet.length < 2 ^ 63) :
    ∃ after, (target {} [packet]).Serves true .zeros next.packet_ after ∧
      (next.packet_.type = .Write → after.events = [.onWrite next.packet_]) := by
  have hne : packet ≠ [] := by
    intro hnil
    rw [hnil] at hparse
    cases hparse
  have hready : Ready (target {} [packet]) := ⟨rfl, rfl⟩
  exact exists_serves true hready rfl Environment.zeros_serves hne hlength rfl hparse htype

theorem Node.target_serves_read (config : ReadPacketConfig)
    (hpath : config.targetSpaceWireAddress = []) (hlogical : 0x20 ≤ config.targetLogicalAddress)
    (hreply : config.replyAddress = []) (hdata : config.dataLength.toNat < 2 ^ 24) :
    ∃ command after, ReadCommandOf config command ∧
      (target {} [ReadPacketBuilder.wire config]).Serves true .zeros command after ∧
      (Environment.zeros.supplied command).length < 2 ^ 24 := by
  have hshort : config.replyAddress.length ≤ 12 := by
    rw [hreply]
    decide
  have hlength : (ReadPacketBuilder.wire config).length < 2 ^ 63 := by
    rw [ReadPacketBuilder.wire_length config hshort, ReadPacketBuilder.getTotalSize, hpath, hreply]
    decide
  obtain ⟨next, hparse, hcommand⟩ := ReadPacketBuilder.parse_wire config {}
    (by rw [hpath]; exact List.forall_mem_nil _) hlogical hshort hdata
  obtain ⟨after, hserves, -⟩ := target_serves hparse (.inl hcommand.type) hlength
  refine ⟨_, after, hcommand, hserves, ?_⟩
  have hsupplied : Environment.zeros.supplied next.packet_ =
      List.replicate next.packet_.dataLength.toNat 0 := rfl
  rw [hsupplied, List.length_replicate, hcommand.dataLength]
  exact hdata

/-- A read between two nodes that share a logical address. -/
theorem poll_corresponds_iff_shared : ∃ before command after,
    Node.Serves true before .zeros command after ∧ Symmetric command ∧
      before.Answers after (Corresponds command) := by
  obtain ⟨command, after, hcommand, hserves, hdata⟩ := Node.target_serves_read
    { targetLogicalAddress := 0xFE, dataLength := 4 } rfl (by decide) rfl (by decide)
  have hsymmetric : Symmetric command := by
    refine ⟨?_, hcommand.increment.mpr rfl, ?_⟩
    · rw [hcommand.initiatorLogicalAddress, hcommand.targetLogicalAddress]
    · rw [hcommand.type, hcommand.verify]
      decide
  refine ⟨_, command, after, hserves, hsymmetric, ?_⟩
  refine (poll_corresponds_iff hserves ?_ ?_ fun _ => hdata).mpr hsymmetric
  · rw [hcommand.targetLogicalAddress]
    decide
  · rw [hcommand.replyAddress]
    exact List.forall_mem_nil _

/-- The reply to a read from `0xFE` to `0x34` names `0x34` as the initiator. -/
theorem poll_swaps_addresses : ∃ before command after,
    Node.Serves true before .zeros command after ∧ command.initiatorLogicalAddress = 0xFE ∧
      command.targetLogicalAddress = 0x34 ∧ command.replyAddress = [] ∧
      command.dataLength = 4 ∧ (Environment.zeros.supplied command).length = 4 ∧
      ¬before.Answers after (Corresponds command) := by
  obtain ⟨command, after, hcommand, hserves, hdata⟩ := Node.target_serves_read
    { targetLogicalAddress := 0x34, dataLength := 4 } rfl (by decide) rfl (by decide)
  have hreply : command.replyAddress = [] := hcommand.replyAddress
  have hlength : command.dataLength = 4 := hcommand.dataLength
  have hsupplied : (Environment.zeros.supplied command).length = 4 := by
    refine List.length_replicate.trans ?_
    rw [hlength]
    decide
  refine ⟨_, command, after, hserves, hcommand.initiatorLogicalAddress,
    hcommand.targetLogicalAddress, hreply, hlength, hsupplied, ?_⟩
  intro hanswers
  have hsymmetric := hanswers.symmetric hserves
    (by rw [hcommand.targetLogicalAddress]; decide) (by rw [hreply]; exact List.forall_mem_nil _)
    fun _ => hdata
  have hsame := hsymmetric.logical
  rw [hcommand.initiatorLogicalAddress, hcommand.targetLogicalAddress] at hsame
  exact absurd hsame (by decide)

/-- The command asks for a reply. -/
def asksReply (command : Packet) : Bool := command.instruction &&& RMAPCommandCode.Reply ≠ 0

/-- The frame with which a command is answered, given the data of the callback. -/
def replyFrame (command : Packet × List UInt8) : List UInt8 :=
  (Frame.single (Node.replyPacket (executed command.1 command.2))).encode

theorem replyFrame_ne_nil (command : Packet × List UInt8) : replyFrame command ≠ [] := by
  intro hnil
  have hlength := congrArg List.length hnil
  rw [replyFrame, Frame.encode_length, List.length_nil] at hlength
  omega

namespace Node

theorem finish_sent (ndebug : Bool) (self : Node) (callback : Callback) :
    Leaves (fun node => node.sent = self.sent) (self.finish ndebug callback) := by
  rw [finish]
  apply (releaseTransactionID_silent ndebug self callback.transaction_id).bind
  intro node hnode
  exact hnode.sent

theorem runReplyCallback_sent (ndebug : Bool) (self : Node) (env : Environment)
    (callback : Callback) (packet : Packet) :
    Leaves (fun node => node.sent = self.sent)
      (self.runReplyCallback ndebug env callback packet) := by
  simp only [runReplyCallback]
  split
  · exact finish_sent ndebug _ callback
  · exact finish_sent ndebug _ callback

theorem pollReply_sent (ndebug : Bool) (self : Node) (env : Environment) (packet : Packet) :
    Leaves (fun r => r.2.sent = self.sent) (self.pollReply ndebug env packet) := by
  simp only [pollReply]
  split
  · exact rfl
  · split
    · exact rfl
    · apply (runReplyCallback_sent ndebug _ env _ packet).bind
      intro node hnode
      exact hnode

/-- One call of `poll` that takes a packet which is no command. -/
structure PollsOther (ndebug : Bool) (before after : Node) : Prop where
  polled : ∃ derived env receiver size res, size ≠ 0 ∧
    before.receiver.recvAndParseOnePacket_ = .ok (.ok size, receiver) ∧
    receiver.packet_parser_.packet_.type ≠ .Read ∧
    receiver.packet_parser_.packet_.type ≠ .Write ∧
    before.poll ndebug derived env = .ok (res, after)

theorem PollsOther.sent {ndebug : Bool} {before after : Node} (h : PollsOther ndebug before after) :
    after.sent = before.sent := by
  obtain ⟨derived, env, receiver, size, res, hne, hreceive, hread, hwrite, hpoll⟩ := h
  rw [poll_received ndebug derived env hne hreceive, pollPacket] at hpoll
  split at hpoll
  · exact (pollReply_sent ndebug _ env _).of_ok hpoll
  · exact (pollReply_sent ndebug _ env _).of_ok hpoll
  · exact absurd ‹_› hread
  · exact absurd ‹_› hwrite
  · cases hpoll
    rfl

/-- A node polls: the commands it serves, in their order, with the data of the callback. -/
inductive Polls (ndebug : Bool) : Node → List (Packet × List UInt8) → Node → Prop
  | done (node : Node) : Polls ndebug node [] node
  | command {before middle after : Node} {env : Environment} {command : Packet}
      {commands : List (Packet × List UInt8)} (served : before.Serves ndebug env command middle)
      (rest : Polls ndebug middle commands after) :
      Polls ndebug before ((command, env.supplied command) :: commands) after
  | other {before middle after : Node} {commands : List (Packet × List UInt8)}
      (polled : PollsOther ndebug before middle) (rest : Polls ndebug middle commands after) :
      Polls ndebug before commands after

/-- By induction on the calls: every command is answered. -/
theorem Polls.sent {ndebug : Bool} {before after : Node} {commands : List (Packet × List UInt8)}
    (h : Polls ndebug before commands after) :
    after.sent = before.sent ++ commands.flatMap replyFrame := by
  induction h with
  | done node => exact (List.append_nil _).symm
  | command served rest ih =>
      rw [ih, served.sent, List.append_assoc, List.flatMap_cons]
      rfl
  | other polled rest ih => rw [ih, polled.sent]

end Node

/-- Frames are never empty, so a list that leaves one out is another list of bytes. -/
theorem flatMap_filter_eq_iff {α : Type} {frame : α → List UInt8} (hne : ∀ a, frame a ≠ [])
    (p : α → Bool) (l : List α) :
    l.flatMap frame = (l.filter p).flatMap frame ↔ ∀ a ∈ l, p a = true := by
  induction l with
  | nil => simp
  | cons a l ih =>
      cases hp : p a with
      | true => rw [List.filter_cons_of_pos hp, List.flatMap_cons, List.flatMap_cons,
          List.append_cancel_left_eq, ih, List.forall_mem_cons, and_iff_right hp]
      | false =>
          have hfalse : ¬p a = true := by
            rw [hp]
            exact Bool.false_ne_true
          rw [List.filter_cons_of_neg hfalse, List.flatMap_cons]
          apply iff_of_false
          · intro heq
            have hlength := congrArg List.length heq
            have hle := ((List.filter_sublist (l := l) (p := p)).flatMap frame).length_le
            have hpos := List.length_pos_of_ne_nil (hne a)
            rw [List.length_append] at hlength
            omega
          · intro hall
            exact hfalse (hall a List.mem_cons_self)

/-- The frames sent are those asked for, in their order, exactly if every command asks. -/
theorem answers_asked_iff {ndebug : Bool} {before after : Node}
    {commands : List (Packet × List UInt8)} (hpolls : Node.Polls ndebug before commands after) :
    after.sent = before.sent ++
        (commands.filter fun command => asksReply command.1).flatMap replyFrame ↔
      ∀ command ∈ commands, asksReply command.1 = true := by
  rw [hpolls.sent, List.append_cancel_left_eq]
  exact flatMap_filter_eq_iff replyFrame_ne_nil _ commands

/-- A node that serves one read. -/
theorem answers_asked_iff_read : ∃ before after command,
    Node.Polls true before [command] after ∧ asksReply command.1 = true ∧
      after.sent = before.sent ++ ([command].filter fun c => asksReply c.1).flatMap replyFrame := by
  obtain ⟨command, after, hcommand, hserves, -⟩ := Node.target_serves_read
    { targetLogicalAddress := 0xFE, dataLength := 4 } rfl (by decide) rfl (by decide)
  have hasks : asksReply command = true := decide_eq_true hcommand.reply
  have hpolls := Node.Polls.command hserves (.done after)
  refine ⟨_, after, _, hpolls, hasks, (answers_asked_iff hpolls).mpr ?_⟩
  intro c hc
  rw [List.mem_singleton.mp hc]
  exact hasks

/-- A write that asks for no reply is executed and answered. -/
theorem answers_unasked : ∃ before after command,
    parse {} (WritePacketBuilder.wire
      { targetLogicalAddress := 0x34, data := [1], reply := false }) =
        .ok (.Success, ⟨command⟩) ∧
    Node.Polls true before [(command, Environment.zeros.supplied command)] after ∧
    asksReply command = false ∧ after.events = [.onWrite command] ∧
    after.sent = before.sent ++ replyFrame (command, Environment.zeros.supplied command) ∧
    after.sent ≠ before.sent ++ ([(command, Environment.zeros.supplied command)].filter
      fun c => asksReply c.1).flatMap replyFrame := by
  obtain ⟨next, hparse, hcommand⟩ := WritePacketBuilder.parse_wire
    { targetLogicalAddress := 0x34, data := [1], reply := false } {} (List.forall_mem_nil _)
    (by decide) (by decide) (by decide)
  obtain ⟨after, hserves, hexecuted⟩ :=
    Node.target_serves hparse (.inr hcommand.type) (by decide)
  have hsilent : asksReply next.packet_ = false :=
    decide_eq_false fun h => Bool.false_ne_true (hcommand.reply.mp h)
  refine ⟨_, after, next.packet_, hparse, .command hserves (.done after), hsilent,
    hexecuted hcommand.type, hserves.sent, ?_⟩
  intro hasked
  rw [hserves.sent, List.append_cancel_left_eq, List.filter_singleton, hsilent] at hasked
  exact replyFrame_ne_nil (next.packet_, Environment.zeros.supplied next.packet_) hasked

end SpwRmap
