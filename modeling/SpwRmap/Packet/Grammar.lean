import SpwRmap.Packet.ParserSpec

/-!
# The packets the parser accepts

`Format` and `Accepts` state the RMAP wire format by offsets, without reference to
the parser: a path of bytes below `0x20`, then a body in one of four layouts chosen
by bits 6 and 5 of its instruction byte. `Fields` states which value each field of
a packet type has. The parser accepts exactly these strings, from any earlier
record, and then leaves exactly these values.
-/

namespace SpwRmap

open Bytes crc PacketParser

namespace Grammar

/-- The layout of a body of each packet type: the bits that select the format,
the length and the checksums. -/
def Format : PacketType → List UInt8 → Prop
  | .Read, body =>
      (byteOf body 2).toNat.testBit 6 = true ∧ (byteOf body 2).toNat.testBit 5 = false ∧
      body.length = 16 + replySizeOf body ∧
      byteOf body (15 + replySizeOf body) = calcCRC (body.take (15 + replySizeOf body))
  | .Write, body =>
      (byteOf body 2).toNat.testBit 6 = true ∧ (byteOf body 2).toNat.testBit 5 = true ∧
      body.length = 17 + replySizeOf body + numberOf body (12 + replySizeOf body) 3 ∧
      byteOf body (15 + replySizeOf body) = calcCRC (body.take (15 + replySizeOf body)) ∧
      byteOf body (16 + replySizeOf body + numberOf body (12 + replySizeOf body) 3) =
        calcCRC ((body.drop (16 + replySizeOf body)).take
          (numberOf body (12 + replySizeOf body) 3))
  | .ReadReply, body =>
      (byteOf body 2).toNat.testBit 6 = false ∧ (byteOf body 2).toNat.testBit 5 = false ∧
      body.length = 13 + numberOf body 8 3 ∧
      byteOf body 11 = calcCRC (body.take 11) ∧
      byteOf body (12 + numberOf body 8 3) = calcCRC ((body.drop 12).take (numberOf body 8 3))
  | .WriteReply, body =>
      (byteOf body 2).toNat.testBit 6 = false ∧ (byteOf body 2).toNat.testBit 5 = true ∧
      body.length = 8 ∧ byteOf body 7 = calcCRC (body.take 7)
  | .Undefined, _ => False

/-- A packet of a given type, split into path and body. -/
structure Accepts (type : PacketType) (packet path body : List UInt8) : Prop where
  split : packet = path ++ body
  path_lt : ∀ b ∈ path, b < 0x20
  first : 0x20 ≤ byteOf body 0
  size : 4 ≤ body.length
  protocol : byteOf body 1 = 0x01
  format : Format type body

/-- The fields common to the two commands. -/
def CommandFieldsAt (path body : List UInt8) (p : Packet) : Prop :=
  p.targetSpaceWireAddress = path ∧
  p.targetLogicalAddress = byteOf body 0 ∧
  p.instruction = byteOf body 2 ∧
  p.key = byteOf body 3 ∧
  p.replyAddress = trimZeros ((body.drop 4).take (replySizeOf body)) ∧
  p.initiatorLogicalAddress = byteOf body (4 + replySizeOf body) ∧
  p.transactionID.toNat = numberOf body (5 + replySizeOf body) 2 ∧
  p.extendedAddress = byteOf body (7 + replySizeOf body) ∧
  p.address.toNat = numberOf body (8 + replySizeOf body) 4 ∧
  p.dataLength.toNat = numberOf body (12 + replySizeOf body) 3

/-- The fields common to the two replies. -/
def ReplyFieldsAt (path body : List UInt8) (p : Packet) : Prop :=
  p.replyAddress = path ∧
  p.initiatorLogicalAddress = byteOf body 0 ∧
  p.instruction = byteOf body 2 ∧
  p.status = byteOf body 3 ∧
  p.targetLogicalAddress = byteOf body 4 ∧
  p.transactionID.toNat = numberOf body 5 2

/-- Every field of the packet's type has the value at its offset. -/
def FieldsAt (path body : List UInt8) (p : Packet) : Prop :=
  match p.type with
  | .Read => CommandFieldsAt path body p
  | .Write => CommandFieldsAt path body p ∧
      p.data = (body.drop (16 + replySizeOf body)).take (numberOf body (12 + replySizeOf body) 3)
  | .ReadReply => ReplyFieldsAt path body p ∧
      p.dataLength.toNat = numberOf body 8 3 ∧
      p.data = (body.drop 12).take (numberOf body 8 3)
  | .WriteReply => ReplyFieldsAt path body p
  | .Undefined => False

theorem command_bit_iff (b : UInt8) : (b &&& 0b01000000) ≠ 0 ↔ b.toNat.testBit 6 = true := by
  have h : ∀ i : Fin 256,
      (UInt8.ofFin i &&& 0b01000000) ≠ 0 ↔ (UInt8.ofFin i).toNat.testBit 6 = true := by
    decide +kernel
  exact h b.toFin

theorem write_bit_iff (b : UInt8) :
    (b &&& RMAPCommandCode.Write) ≠ 0 ↔ b.toNat.testBit 5 = true := by
  have h : ∀ i : Fin 256, (UInt8.ofFin i &&& RMAPCommandCode.Write) ≠ 0 ↔
      (UInt8.ofFin i).toNat.testBit 5 = true := by decide +kernel
  exact h b.toFin

/-- Path and body are determined by the packet: the path ends at the first byte
that is at least `0x20`. -/
theorem Accepts.path_body {type : PacketType} {packet path body : List UInt8}
    (h : Accepts type packet path body) : pathOf packet = path ∧ bodyOf packet = body := by
  obtain ⟨b, rest, rfl⟩ : ∃ b rest, body = b :: rest :=
    List.exists_cons_of_length_pos (Nat.lt_of_lt_of_le (by decide) h.size)
  have hb : ¬ b < 0x20 := by
    have hfirst : 0x20 ≤ b := h.first
    exact UInt8.not_lt.mpr hfirst
  have hpath : ∀ c ∈ path, decide (c < 0x20) = true := by
    intro c hc
    exact decide_eq_true (h.path_lt c hc)
  rw [h.split]
  constructor
  · rw [pathOf, List.takeWhile_append_of_pos hpath]
    simp [hb]
  · rw [bodyOf, List.dropWhile_append_of_pos hpath]
    simp [hb]

theorem Accepts.ne_nil {type : PacketType} {packet path body : List UInt8}
    (h : Accepts type packet path body) : packet ≠ [] := by
  intro hnil
  have hsize := h.size
  have hlen := congrArg List.length h.split
  rw [hnil, List.length_append] at hlen
  simp only [List.length_nil] at hlen
  omega

/-- The split that the parser finds meets the path conditions. -/
theorem split_conditions (packet : List UInt8) (hsize : 4 ≤ (bodyOf packet).length) :
    packet = pathOf packet ++ bodyOf packet ∧ (∀ b ∈ pathOf packet, b < 0x20) ∧
      0x20 ≤ byteOf (bodyOf packet) 0 := by
  refine ⟨(pathOf_append_bodyOf packet).symm, ?_, ?_⟩
  · intro b hb
    simpa using List.mem_takeWhile_imp hb
  · have hne : bodyOf packet ≠ [] := List.ne_nil_of_length_pos (by omega)
    have hhead := List.head_dropWhile_not (fun b : UInt8 => decide (b < 0x20)) hne
    obtain ⟨b, rest, hcons⟩ := List.exists_cons_of_ne_nil hne
    have hb : ¬ b < 0x20 := by
      have hget : (bodyOf packet).head hne = b := by simp [hcons]
      rw [← hget]
      simpa [bodyOf] using hhead
    rw [hcons]
    exact UInt8.not_lt.mp hb

/-- The record that a body of each type leaves in place of `p`. -/
def decoded (type : PacketType) (p : Packet) (path body : List UInt8) : Packet :=
  match type with
  | .Read => commandPacket
      { p with type := .Read, targetSpaceWireAddress := path } body (replySizeOf body)
  | .Write => writePacket { p with type := .Write, targetSpaceWireAddress := path } body
  | .ReadReply => readReplyPacket { p with type := .ReadReply, replyAddress := path } body
  | .WriteReply => replyPacket { p with type := .WriteReply, replyAddress := path } body
  | .Undefined => p

/-- The format bits choose the format parser. -/
theorem parseFormat_eq (self : PacketParser) (path body : List UInt8) :
    parseFormat self path body =
      let p := { self.packet_ with instruction := byteOf body 2 }
      match (byteOf body 2).toNat.testBit 6, (byteOf body 2).toNat.testBit 5 with
      | false, false =>
          parseReadReplyPacket ⟨{ p with type := .ReadReply, replyAddress := path }⟩ body
      | false, true =>
          parseWriteReplyPacket ⟨{ p with type := .WriteReply, replyAddress := path }⟩ body
      | true, false =>
          parseReadPacket ⟨{ p with type := .Read, targetSpaceWireAddress := path }⟩ body
      | true, true =>
          parseWritePacket ⟨{ p with type := .Write, targetSpaceWireAddress := path }⟩ body := by
  cases h6 : (byteOf body 2).toNat.testBit 6 <;> cases h5 : (byteOf body 2).toNat.testBit 5 <;>
    simp only [parseFormat, command_bit_iff, write_bit_iff, h6, h5] <;> rfl

/-- A body of the stated format is accepted, whatever the parser held before. -/
theorem parseFormat_of_format (self : PacketParser) (type : PacketType) (path body : List UInt8)
    (hsize : 4 ≤ body.length) (hprotocol : byteOf body 1 = 0x01) (h : Format type body) :
    parseFormat self path body = .ok (.Success, ⟨decoded type self.packet_ path body⟩) := by
  have hpid : ¬ byteOf body 1 ≠ RMAPProtocolIdentifier := not_not_intro hprotocol
  rw [parseFormat_eq]
  cases type with
  | Undefined => exact h.elim
  | Read =>
      obtain ⟨h6, h5, hlen, hcrc⟩ := h
      simp only [h6, h5]
      rw [parseReadPacket_eq _ _ hsize, if_neg (not_not_intro hlen),
        if_neg (not_not_intro hcrc), if_neg hpid]
      rfl
  | Write =>
      obtain ⟨h6, h5, hlen, hcrc, hdata⟩ := h
      simp only [h6, h5]
      rw [parseWritePacket_eq _ _ hsize, if_neg (by omega), if_neg (not_not_intro hcrc),
        if_neg hpid, if_neg (not_not_intro hlen), if_neg (not_not_intro hdata)]
      rfl
  | ReadReply =>
      obtain ⟨h6, h5, hlen, hcrc, hdata⟩ := h
      simp only [h6, h5]
      rw [parseReadReplyPacket_eq, if_neg (by omega), if_neg (not_not_intro hcrc), if_neg hpid,
        if_neg (not_not_intro hlen), if_neg (not_not_intro hdata)]
      rfl
  | WriteReply =>
      obtain ⟨h6, h5, hlen, hcrc⟩ := h
      simp only [h6, h5]
      rw [parseWriteReplyPacket_eq, if_neg (not_not_intro hlen), if_neg (not_not_intro hcrc),
        if_neg hpid]
      rfl

/-- A guard that returns another status was not taken by an accepting run. -/
theorem success_of_guard {c : Prop} [Decidable c] {status : Status} {self next : PacketParser}
    {rest : Status × PacketParser} (hstatus : status ≠ .Success)
    (h : (if c then (status, self) else rest) = (.Success, next)) :
    ¬ c ∧ rest = (.Success, next) := by
  by_cases hc : c
  · rw [if_pos hc] at h
    exact absurd (congrArg Prod.fst h) hstatus
  · rw [if_neg hc] at h
    exact ⟨hc, h⟩

/-- An accepted body has one of the four formats. -/
theorem format_of_parseFormat {self next : PacketParser} {path body : List UInt8}
    (hsize : 4 ≤ body.length) (h : parseFormat self path body = .ok (.Success, next)) :
    ∃ type, Format type body ∧ byteOf body 1 = 0x01 := by
  rw [parseFormat_eq] at h
  cases h6 : (byteOf body 2).toNat.testBit 6 <;> cases h5 : (byteOf body 2).toNat.testBit 5 <;>
    simp only [h6, h5] at h
  · rw [parseReadReplyPacket_eq, Except.ok.injEq] at h
    obtain ⟨-, h⟩ := success_of_guard (by decide) h
    obtain ⟨hcrc, h⟩ := success_of_guard (by decide) h
    obtain ⟨hpid, h⟩ := success_of_guard (by decide) h
    obtain ⟨hlen, h⟩ := success_of_guard (by decide) h
    obtain ⟨hdata, -⟩ := success_of_guard (by decide) h
    exact ⟨.ReadReply, ⟨h6, h5, not_not.mp hlen, not_not.mp hcrc, not_not.mp hdata⟩,
      not_not.mp hpid⟩
  · rw [parseWriteReplyPacket_eq, Except.ok.injEq] at h
    obtain ⟨hlen, h⟩ := success_of_guard (by decide) h
    obtain ⟨hcrc, h⟩ := success_of_guard (by decide) h
    obtain ⟨hpid, -⟩ := success_of_guard (by decide) h
    exact ⟨.WriteReply, ⟨h6, h5, not_not.mp hlen, not_not.mp hcrc⟩, not_not.mp hpid⟩
  · rw [parseReadPacket_eq _ _ hsize, Except.ok.injEq] at h
    obtain ⟨hlen, h⟩ := success_of_guard (by decide) h
    obtain ⟨hcrc, h⟩ := success_of_guard (by decide) h
    obtain ⟨hpid, -⟩ := success_of_guard (by decide) h
    exact ⟨.Read, ⟨h6, h5, not_not.mp hlen, not_not.mp hcrc⟩, not_not.mp hpid⟩
  · rw [parseWritePacket_eq _ _ hsize, Except.ok.injEq] at h
    obtain ⟨-, h⟩ := success_of_guard (by decide) h
    obtain ⟨hcrc, h⟩ := success_of_guard (by decide) h
    obtain ⟨hpid, h⟩ := success_of_guard (by decide) h
    obtain ⟨hlen, h⟩ := success_of_guard (by decide) h
    obtain ⟨hdata, -⟩ := success_of_guard (by decide) h
    exact ⟨.Write, ⟨h6, h5, not_not.mp hlen, not_not.mp hcrc, not_not.mp hdata⟩,
      not_not.mp hpid⟩

/-- Accepted packets, with the record the parser leaves. -/
theorem parse_of_accepts (self : PacketParser) {type : PacketType} {packet path body : List UInt8}
    (h : Accepts type packet path body) :
    parse self packet = .ok (.Success, ⟨decoded type self.packet_ path body⟩) := by
  obtain ⟨hpath, hbody⟩ := h.path_body
  have hsize := h.size
  rw [parse_eq self packet h.ne_nil, hpath, hbody, if_neg (by omega)]
  exact parseFormat_of_format self type path body hsize h.protocol h.format

theorem accepts_of_parse {self next : PacketParser} {packet : List UInt8} (hne : packet ≠ [])
    (h : parse self packet = .ok (.Success, next)) :
    ∃ type path body, Accepts type packet path body := by
  rw [parse_eq self packet hne] at h
  split at h
  · cases h
  · rename_i hshort
    have hsize : 4 ≤ (bodyOf packet).length := by omega
    obtain ⟨type, hformat, hprotocol⟩ := format_of_parseFormat hsize h
    obtain ⟨hsplit, hpath, hfirst⟩ := split_conditions packet hsize
    exact ⟨type, pathOf packet, bodyOf packet, hsplit, hpath, hfirst, hsize, hprotocol, hformat⟩

theorem transactionID_toNat (body : List UInt8) (off : Nat) :
    (UInt16.ofNat (numberOf body off 2)).toNat = numberOf body off 2 := by
  have h := numberOf_lt body off 2
  rw [UInt16.toNat_ofNat']
  exact Nat.mod_eq_of_lt (by omega)

theorem address_toNat (body : List UInt8) (off : Nat) :
    (UInt32.ofNat (numberOf body off 4)).toNat = numberOf body off 4 := by
  have h := numberOf_lt body off 4
  rw [UInt32.toNat_ofNat']
  exact Nat.mod_eq_of_lt (by omega)

/-- The record left by an accepted packet has its type and its fields. -/
theorem decoded_fields {type : PacketType} (p : Packet) {packet path body : List UInt8}
    (h : Accepts type packet path body) :
    (decoded type p path body).type = type ∧ FieldsAt path body (decoded type p path body) := by
  have hformat := h.format
  cases type with
  | Undefined => exact hformat.elim
  | Read =>
      exact ⟨rfl, rfl, rfl, rfl, rfl, rfl, rfl, transactionID_toNat _ _, rfl, address_toNat _ _,
        dataLength_toNat _ _⟩
  | Write =>
      exact ⟨rfl, ⟨rfl, rfl, rfl, rfl, rfl, rfl, transactionID_toNat _ _, rfl, address_toNat _ _,
        dataLength_toNat _ _⟩, rfl⟩
  | ReadReply =>
      exact ⟨rfl, ⟨rfl, rfl, rfl, rfl, rfl, transactionID_toNat _ _⟩, dataLength_toNat _ _, rfl⟩
  | WriteReply =>
      exact ⟨rfl, rfl, rfl, rfl, rfl, rfl, transactionID_toNat _ _⟩

/-- The parser accepts exactly the packets of the grammar, whatever it parsed
before, and every field of an accepted packet's type is the value at its offset. -/
theorem parse_success_iff (self : PacketParser) (packet : List UInt8) (hne : packet ≠ []) :
    ((∃ next, parse self packet = .ok (.Success, next)) ↔
      ∃ type path body, Accepts type packet path body) ∧
    ∀ next, parse self packet = .ok (.Success, next) →
      ∃ path body, Accepts next.packet_.type packet path body ∧
        FieldsAt path body next.packet_ := by
  constructor
  · constructor
    · rintro ⟨next, h⟩
      exact accepts_of_parse hne h
    · rintro ⟨type, path, body, h⟩
      exact ⟨_, parse_of_accepts self h⟩
  · intro next h
    obtain ⟨type, path, body, haccepts⟩ := accepts_of_parse hne h
    have hnext : next = ⟨decoded type self.packet_ path body⟩ := by
      have hok := (parse_of_accepts self haccepts).symm.trans h
      simpa using hok.symm
    obtain ⟨htype, hfields⟩ := decoded_fields self.packet_ haccepts
    subst hnext
    refine ⟨path, body, ?_, hfields⟩
    change Accepts (decoded type self.packet_ path body).type packet path body
    rw [htype]
    exact haccepts

/-- A write reply behind a one-byte path is in the grammar because the parser
accepts it. -/
theorem parse_success_iff_writeReply :
    ∃ type path body,
      Accepts type [0x01, 0x34, 0x01, 0x3C, 0x00, 0xFE, 0x00, 0x20, 0x74] path body := by
  apply (parse_success_iff {} _ (by decide)).1.mp
  exact ⟨⟨{ replyAddress := [0x01]
            initiatorLogicalAddress := 0x34
            instruction := 0x3C
            targetLogicalAddress := 0xFE
            transactionID := 0x20
            type := .WriteReply }⟩, rfl⟩

end Grammar

end SpwRmap
