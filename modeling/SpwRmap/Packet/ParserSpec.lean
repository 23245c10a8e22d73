import SpwRmap.Packet.Parser
import Mathlib.Data.List.TakeDrop
import Mathlib.Data.List.DropRight

/-!
# What each format parser computes

Every function of the parser is given by one equation: which status it returns
and which record it leaves, in terms of the bytes at fixed offsets. The equations
hold for every earlier record, and none of them has a fault on its right-hand
side. The later modules use these equations and never unfold the parser.
-/

namespace SpwRmap

open Span Bytes crc

/-- The byte at an offset. -/
def byteOf (body : List UInt8) (i : Nat) : UInt8 := body.getD i 0

/-- The big-endian number at an offset. -/
def numberOf (body : List UInt8) (off len : Nat) : Nat := ofBigEndian ((body.drop off).take len)

theorem read_byteOf {body : List UInt8} {i : Nat} (h : i < body.length) :
    read body i = .ok (byteOf body i) := read_getD 0 h

theorem numberOf_lt (body : List UInt8) (off len : Nat) : numberOf body off len < 256 ^ len := by
  have hlen : ((body.drop off).take len).length ≤ len := by simp
  exact Nat.lt_of_lt_of_le (ofBigEndian_lt _) (Nat.pow_le_pow_right (by decide) hlen)

/-- A reply-address field without its leading zero bytes. -/
def trimZeros (field : List UInt8) : List UInt8 := field.dropWhile (· == 0x00)

theorem trimZeros_eq_drop (field : List UInt8) :
    trimZeros field = field.drop (field.length - (trimZeros field).length) :=
  List.suffix_iff_eq_drop.mp (List.dropWhile_suffix _)

theorem trimZeros_length_le (field : List UInt8) : (trimZeros field).length ≤ field.length :=
  (List.dropWhile_suffix _).length_le

namespace PacketParser

/-- The loop ends behind the field and has found its trimmed suffix. -/
theorem skipLeadingZeros_eq (packet : List UInt8) (n head : Nat)
    (h : head + n ≤ packet.length) :
    skipLeadingZeros packet n head head n =
      .ok (head + n, head + n - (trimZeros ((packet.drop head).take n)).length,
        (trimZeros ((packet.drop head).take n)).length) := by
  induction n generalizing head with
  | zero => simp [skipLeadingZeros, trimZeros]
  | succ n ih =>
      have hlt : head < packet.length := by omega
      have hcons : (packet.drop head).take (n + 1) =
          byteOf packet head :: (packet.drop (head + 1)).take n := by
        rw [List.drop_eq_getElem_cons hlt, List.take_succ_cons, byteOf,
          List.getD_eq_getElem _ _ hlt]
      rw [skipLeadingZeros, read_byteOf hlt, ok_bind, hcons]
      by_cases hzero : byteOf packet head = 0x00
      · have htrim : trimZeros (byteOf packet head :: (packet.drop (head + 1)).take n) =
            trimZeros ((packet.drop (head + 1)).take n) := by
          simp [trimZeros, hzero]
        rw [if_pos hzero, Nat.add_sub_cancel, ih (head + 1) (by omega), htrim]
        simp only [Nat.add_assoc, Nat.add_comm 1 n]
      · have htrim : trimZeros (byteOf packet head :: (packet.drop (head + 1)).take n) =
            byteOf packet head :: (packet.drop (head + 1)).take n := by
          simp [trimZeros, hzero]
        have hlen : ((packet.drop (head + 1)).take n).length = n := by simp; omega
        rw [if_neg hzero, htrim, List.length_cons, hlen, pure_eq_ok]
        simp only [Except.ok.injEq, Prod.mk.injEq, and_true]
        omega

theorem subspan_trimZeros (packet : List UInt8) (n head : Nat) (h : head + n ≤ packet.length) :
    subspan packet (head + n - (trimZeros ((packet.drop head).take n)).length)
      (trimZeros ((packet.drop head).take n)).length =
        .ok (trimZeros ((packet.drop head).take n)) := by
  have hfield : ((packet.drop head).take n).length = n := by simp; omega
  have hle := trimZeros_length_le ((packet.drop head).take n)
  have hdrop := trimZeros_eq_drop ((packet.drop head).take n)
  rw [hfield] at hle hdrop
  rw [subspan_eq (by omega)]
  congr 1
  conv_rhs => rw [hdrop, List.drop_take, List.drop_drop]
  congr 2 <;> omega

/-- The record after a command header with a reply-address field of `r` bytes. -/
def commandPacket (p : Packet) (body : List UInt8) (r : Nat) : Packet :=
  { p with
    targetLogicalAddress := byteOf body 0
    instruction := byteOf body 2
    key := byteOf body 3
    replyAddress := trimZeros ((body.drop 4).take r)
    initiatorLogicalAddress := byteOf body (4 + r)
    transactionID := UInt16.ofNat (numberOf body (5 + r) 2)
    extendedAddress := byteOf body (7 + r)
    address := UInt32.ofNat (numberOf body (8 + r) 4)
    dataLength := UInt32.ofNat (numberOf body (12 + r) 3) }

/-- The record after a reply header. -/
def replyPacket (p : Packet) (body : List UInt8) : Packet :=
  { p with
    initiatorLogicalAddress := byteOf body 0
    instruction := byteOf body 2
    status := byteOf body 3
    targetLogicalAddress := byteOf body 4
    transactionID := UInt16.ofNat (numberOf body 5 2) }

theorem parseCommandFields_eq (self : PacketParser) (body : List UInt8) (r : Nat)
    (h : 16 + r ≤ body.length) :
    parseCommandFields self body r = .ok (
      if byteOf body 1 ≠ RMAPProtocolIdentifier then
        (.UnknownProtocolIdentifier, 2,
          ⟨{ self.packet_ with targetLogicalAddress := byteOf body 0 }⟩)
      else (.Success, 15 + r, ⟨commandPacket self.packet_ body r⟩)) := by
  have hskip := skipLeadingZeros_eq body r 4 (by omega)
  have hsub := subspan_trimZeros body r 4 (by omega)
  rw [parseCommandFields, read_byteOf (by omega), ok_bind, read_byteOf (by omega), ok_bind]
  by_cases hprotocol : byteOf body 1 ≠ RMAPProtocolIdentifier
  · rw [if_pos hprotocol, if_pos hprotocol]
    rfl
  · rw [if_neg hprotocol, if_neg hprotocol, read_byteOf (by omega), ok_bind,
      read_byteOf (by omega), ok_bind, hskip, ok_bind]
    dsimp only
    rw [hsub, ok_bind, read_byteOf (by omega), ok_bind, readMany_eq (by omega), ok_bind,
      read_byteOf (by omega), ok_bind, readMany_eq (by omega), ok_bind, readMany_eq (by omega),
      ok_bind, pure_eq_ok]
    simp only [orShifted_eq, commandPacket, numberOf, Nat.add_right_comm _ r]

theorem parseReplyFields_eq (self : PacketParser) (body : List UInt8) (h : 7 ≤ body.length) :
    parseReplyFields self body = .ok (
      if byteOf body 1 ≠ RMAPProtocolIdentifier then
        (.UnknownProtocolIdentifier,
          ⟨{ self.packet_ with initiatorLogicalAddress := byteOf body 0 }⟩)
      else (.Success, ⟨replyPacket self.packet_ body⟩)) := by
  rw [parseReplyFields, read_byteOf (by omega), ok_bind, read_byteOf (by omega), ok_bind]
  by_cases hprotocol : byteOf body 1 ≠ RMAPProtocolIdentifier
  · rw [if_pos hprotocol, if_pos hprotocol]
    rfl
  · rw [if_neg hprotocol, if_neg hprotocol, read_byteOf (by omega), ok_bind,
      read_byteOf (by omega), ok_bind, read_byteOf (by omega), ok_bind,
      readMany_eq (by omega), ok_bind, pure_eq_ok]
    simp only [orShifted_eq, replyPacket, numberOf]

/-- A prefix has residue zero exactly if its last byte is the checksum of the
bytes before it. -/
theorem residue_take_iff (body : List UInt8) (n : Nat) (h : n < body.length) :
    calcCRC (body.take (n + 1)) = 0x00 ↔ byteOf body n = calcCRC (body.take n) := by
  rw [List.take_succ_eq_append_getElem h, calcCRC_concat_eq_zero_iff, byteOf,
    List.getD_eq_getElem _ _ h]

theorem residue_drop_iff (body : List UInt8) (off n : Nat) (h : off + n < body.length) :
    calcCRC ((body.drop off).take (n + 1)) = 0x00 ↔
      byteOf body (off + n) = calcCRC ((body.drop off).take n) := by
  rw [residue_take_iff _ n (by simp; omega)]
  simp [byteOf, List.getD_eq_getElem?_getD, List.getElem?_drop]

/-- A 24-bit length survives in the 32-bit field. -/
theorem dataLength_toNat (body : List UInt8) (off : Nat) :
    (UInt32.ofNat (numberOf body off 3)).toNat = numberOf body off 3 := by
  have h := numberOf_lt body off 3
  rw [UInt32.toNat_ofNat']
  exact Nat.mod_eq_of_lt (by omega)

/-- The size of the reply-address field of a command. -/
def replySizeOf (body : List UInt8) : Nat := announcedReplyAddressSize (byteOf body 2)

theorem parseReadPacket_eq (self : PacketParser) (body : List UInt8) (h : 4 ≤ body.length) :
    parseReadPacket self body = .ok (
      if body.length ≠ 16 + replySizeOf body then (.IncompletePacket, self)
      else if byteOf body (15 + replySizeOf body) ≠ calcCRC (body.take (15 + replySizeOf body)) then
        (.HeaderCRCError, self)
      else if byteOf body 1 ≠ RMAPProtocolIdentifier then
        (.UnknownProtocolIdentifier,
          ⟨{ self.packet_ with targetLogicalAddress := byteOf body 0 }⟩)
      else (.Success, ⟨commandPacket self.packet_ body (replySizeOf body)⟩)) := by
  rw [parseReadPacket, if_neg (by omega), read_byteOf (by omega), ok_bind]
  dsimp only
  rw [← replySizeOf]
  by_cases hsize : body.length ≠ 16 + replySizeOf body
  · rw [if_pos hsize, if_pos hsize, pure_eq_ok]
  · have hcrc := residue_take_iff body (15 + replySizeOf body) (by omega)
    rw [if_neg hsize, if_neg hsize, subspan_eq (by omega), ok_bind, List.drop_zero,
      show 16 + replySizeOf body = 15 + replySizeOf body + 1 by omega]
    simp only [ne_eq, hcrc]
    by_cases hgood : byteOf body (15 + replySizeOf body) =
        calcCRC (body.take (15 + replySizeOf body))
    · rw [if_neg (not_not_intro hgood), if_neg (not_not_intro hgood),
        parseCommandFields_eq self body _ (by omega), ok_bind]
      split <;> rfl
    · rw [if_pos hgood, if_pos hgood, pure_eq_ok]

theorem parseWriteReplyPacket_eq (self : PacketParser) (body : List UInt8) :
    parseWriteReplyPacket self body = .ok (
      if body.length ≠ 8 then (.IncompletePacket, self)
      else if byteOf body 7 ≠ calcCRC (body.take 7) then (.HeaderCRCError, self)
      else if byteOf body 1 ≠ RMAPProtocolIdentifier then
        (.UnknownProtocolIdentifier,
          ⟨{ self.packet_ with initiatorLogicalAddress := byteOf body 0 }⟩)
      else (.Success, ⟨replyPacket self.packet_ body⟩)) := by
  rw [parseWriteReplyPacket]
  by_cases hsize : body.length ≠ 8
  · rw [if_pos hsize, if_pos hsize, pure_eq_ok]
  · have hcrc := residue_take_iff body 7 (by omega)
    rw [if_neg hsize, if_neg hsize, subspan_eq (by omega), ok_bind, List.drop_zero]
    simp only [ne_eq, hcrc]
    by_cases hgood : byteOf body 7 = calcCRC (body.take 7)
    · rw [if_neg (not_not_intro hgood), if_neg (not_not_intro hgood),
        parseReplyFields_eq self body (by omega)]
    · rw [if_pos hgood, if_pos hgood, pure_eq_ok]

/-- The record after a write command's header and data. -/
def writePacket (p : Packet) (body : List UInt8) : Packet :=
  { commandPacket p body (replySizeOf body) with
    data := (body.drop (16 + replySizeOf body)).take (numberOf body (12 + replySizeOf body) 3) }

/-- The record after a read reply's header and length, without its data. -/
def readReplyHeaderPacket (p : Packet) (body : List UInt8) : Packet :=
  { replyPacket p body with dataLength := UInt32.ofNat (numberOf body 8 3) }

/-- The record after a read reply. -/
def readReplyPacket (p : Packet) (body : List UInt8) : Packet :=
  { readReplyHeaderPacket p body with data := (body.drop 12).take (numberOf body 8 3) }

theorem parseWritePacket_eq (self : PacketParser) (body : List UInt8) (h : 4 ≤ body.length) :
    parseWritePacket self body = .ok (
      if body.length ≤ 16 + replySizeOf body then (.IncompletePacket, self)
      else if byteOf body (15 + replySizeOf body) ≠ calcCRC (body.take (15 + replySizeOf body)) then
        (.HeaderCRCError, self)
      else if byteOf body 1 ≠ RMAPProtocolIdentifier then
        (.UnknownProtocolIdentifier,
          ⟨{ self.packet_ with targetLogicalAddress := byteOf body 0 }⟩)
      else if body.length ≠ 17 + replySizeOf body + numberOf body (12 + replySizeOf body) 3 then
        (.IncompletePacket, ⟨commandPacket self.packet_ body (replySizeOf body)⟩)
      else if byteOf body (16 + replySizeOf body + numberOf body (12 + replySizeOf body) 3) ≠
          calcCRC ((body.drop (16 + replySizeOf body)).take
            (numberOf body (12 + replySizeOf body) 3)) then
        (.DataCRCError, ⟨commandPacket self.packet_ body (replySizeOf body)⟩)
      else (.Success, ⟨writePacket self.packet_ body⟩)) := by
  rw [parseWritePacket, if_neg (by omega), read_byteOf (by omega), ok_bind]
  dsimp only
  rw [← replySizeOf]
  by_cases hsize : body.length ≤ 16 + replySizeOf body
  · rw [if_pos hsize, if_pos hsize, pure_eq_ok]
  have hcrc := residue_take_iff body (15 + replySizeOf body) (by omega)
  rw [if_neg hsize, if_neg hsize, subspan_eq (by omega), ok_bind, List.drop_zero,
    show 16 + replySizeOf body = 15 + replySizeOf body + 1 by omega]
  simp only [ne_eq, hcrc]
  by_cases hgood : byteOf body (15 + replySizeOf body) = calcCRC (body.take (15 + replySizeOf body))
  case neg => rw [if_pos hgood, if_pos hgood, pure_eq_ok]
  rw [if_neg (not_not_intro hgood), if_neg (not_not_intro hgood),
    parseCommandFields_eq self body _ (by omega), ok_bind]
  by_cases hprotocol : byteOf body 1 = RMAPProtocolIdentifier
  case neg =>
    rw [if_pos hprotocol, if_pos hprotocol]
    rfl
  -- The header is accepted; what remains is the announced data and its checksum.
  rw [if_neg (not_not_intro hprotocol), if_neg (not_not_intro hprotocol)]
  have hlen : (commandPacket self.packet_ body (replySizeOf body)).dataLength.toNat =
      numberOf body (12 + replySizeOf body) 3 := dataLength_toNat body _
  simp only [not_true_eq_false, if_false, hlen]
  by_cases htotal : body.length = 17 + replySizeOf body + numberOf body (12 + replySizeOf body) 3
  case neg =>
    rw [if_pos (by omega), if_pos htotal, pure_eq_ok]
  have hdata := residue_drop_iff body (16 + replySizeOf body)
    (numberOf body (12 + replySizeOf body) 3) (by omega)
  rw [if_neg (by omega), if_neg (not_not_intro htotal), subspan_eq (by omega), ok_bind,
    show 15 + replySizeOf body + 1 = 16 + replySizeOf body by omega, subspan_eq (by omega)]
  simp only [hdata]
  split <;> rfl

theorem parseReadReplyPacket_eq (self : PacketParser) (body : List UInt8) :
    parseReadReplyPacket self body = .ok (
      if body.length < 12 then (.IncompletePacket, self)
      else if byteOf body 11 ≠ calcCRC (body.take 11) then (.HeaderCRCError, self)
      else if byteOf body 1 ≠ RMAPProtocolIdentifier then
        (.UnknownProtocolIdentifier,
          ⟨{ self.packet_ with initiatorLogicalAddress := byteOf body 0 }⟩)
      else if body.length ≠ 13 + numberOf body 8 3 then
        (.IncompletePacket, ⟨readReplyHeaderPacket self.packet_ body⟩)
      else if byteOf body (12 + numberOf body 8 3) ≠
          calcCRC ((body.drop 12).take (numberOf body 8 3)) then
        (.DataCRCError, ⟨readReplyHeaderPacket self.packet_ body⟩)
      else (.Success, ⟨readReplyPacket self.packet_ body⟩)) := by
  rw [parseReadReplyPacket]
  by_cases hsize : body.length < 12
  · rw [if_pos hsize, if_pos hsize, pure_eq_ok]
  have hcrc := residue_take_iff body 11 (by omega)
  rw [if_neg hsize, if_neg hsize, subspan_eq (by omega), ok_bind, List.drop_zero]
  simp only [ne_eq, hcrc]
  by_cases hgood : byteOf body 11 = calcCRC (body.take 11)
  case neg => rw [if_pos hgood, if_pos hgood, pure_eq_ok]
  rw [if_neg (not_not_intro hgood), if_neg (not_not_intro hgood),
    parseReplyFields_eq self body (by omega), ok_bind]
  by_cases hprotocol : byteOf body 1 = RMAPProtocolIdentifier
  case neg =>
    rw [if_pos hprotocol, if_pos hprotocol]
    rfl
  rw [if_neg (not_not_intro hprotocol), if_neg (not_not_intro hprotocol)]
  simp only [not_true_eq_false, if_false]
  rw [readMany_eq (by omega), ok_bind, orShifted_eq, ← numberOf]
  simp only [dataLength_toNat]
  by_cases htotal : body.length = 13 + numberOf body 8 3
  case neg =>
    rw [if_pos (by omega), if_pos htotal]
    rfl
  have hdata := residue_drop_iff body 12 (numberOf body 8 3) (by omega)
  rw [if_neg (by omega), if_neg (not_not_intro htotal), subspan_eq (by omega), ok_bind,
    subspan_eq (by omega)]
  simp only [hdata]
  split <;> rfl

/-- The path bytes in front of a packet. -/
def pathOf (packet : List UInt8) : List UInt8 := packet.takeWhile (· < 0x20)

/-- The packet without its path. -/
def bodyOf (packet : List UInt8) : List UInt8 := packet.dropWhile (· < 0x20)

theorem pathOf_append_bodyOf (packet : List UInt8) : pathOf packet ++ bodyOf packet = packet :=
  List.takeWhile_append_dropWhile

theorem drop_pathOf_length (packet : List UInt8) :
    packet.drop (pathOf packet).length = bodyOf packet := by
  have h : (pathOf packet ++ bodyOf packet).drop (pathOf packet).length = bodyOf packet :=
    List.drop_left
  rwa [pathOf_append_bodyOf] at h

theorem take_pathOf_length (packet : List UInt8) :
    packet.take (pathOf packet).length = pathOf packet := by
  have h : (pathOf packet ++ bodyOf packet).take (pathOf packet).length = pathOf packet :=
    List.take_left
  rwa [pathOf_append_bodyOf] at h

theorem skipPath_eq (packet : List UInt8) (fuel head : Nat) (hhead : head < packet.length)
    (hfuel : packet.length - head ≤ fuel) :
    skipPath packet fuel head = .ok (
      if bodyOf (packet.drop head) = [] then none
      else some (head + (pathOf (packet.drop head)).length)) := by
  induction fuel generalizing head with
  | zero => omega
  | succ fuel ih =>
      have hdrop : packet.drop head = byteOf packet head :: packet.drop (head + 1) := by
        rw [List.drop_eq_getElem_cons hhead, byteOf, List.getD_eq_getElem _ _ hhead]
      rw [skipPath, read_byteOf hhead, ok_bind, hdrop]
      by_cases hpath : byteOf packet head < 0x20
      · have hbody : bodyOf (byteOf packet head :: packet.drop (head + 1)) =
            bodyOf (packet.drop (head + 1)) := by simp [bodyOf, hpath]
        have hlen : (pathOf (byteOf packet head :: packet.drop (head + 1))).length =
            1 + (pathOf (packet.drop (head + 1))).length := by
          simp [pathOf, hpath, Nat.add_comm]
        rw [if_pos hpath, hbody, hlen]
        by_cases hend : head + 1 ≥ packet.length
        · have hnil : packet.drop (head + 1) = [] := List.drop_eq_nil_of_le hend
          simp [if_pos hend, hnil, bodyOf]
        · rw [if_neg hend, ih (head + 1) (by omega) (by omega)]
          simp only [Nat.add_assoc]
      · have hbody : bodyOf (byteOf packet head :: packet.drop (head + 1)) ≠ [] := by
          simp [bodyOf, hpath]
        have hlen : (pathOf (byteOf packet head :: packet.drop (head + 1))).length = 0 := by
          simp [pathOf, hpath]
        rw [if_neg hpath, if_neg hbody, hlen]
        rfl

/-- The dispatch on the instruction byte, once path and body are known. -/
def parseFormat (self : PacketParser) (path body : List UInt8) : ParseResult :=
  let p := { self.packet_ with instruction := byteOf body 2 }
  match decide ((byteOf body 2 &&& 0b01000000) ≠ 0),
      decide ((byteOf body 2 &&& RMAPCommandCode.Write) ≠ 0) with
  | false, false =>
      parseReadReplyPacket ⟨{ p with type := .ReadReply, replyAddress := path }⟩ body
  | false, true =>
      parseWriteReplyPacket ⟨{ p with type := .WriteReply, replyAddress := path }⟩ body
  | true, false =>
      parseReadPacket ⟨{ p with type := .Read, targetSpaceWireAddress := path }⟩ body
  | true, true =>
      parseWritePacket ⟨{ p with type := .Write, targetSpaceWireAddress := path }⟩ body

theorem parse_eq (self : PacketParser) (packet : List UInt8) (hne : packet ≠ []) :
    parse self packet =
      if (bodyOf packet).length < 4 then .ok (.IncompletePacket, self)
      else parseFormat self (pathOf packet) (bodyOf packet) := by
  have hpos : 0 < packet.length := List.length_pos_iff.mpr hne
  have hsplit : (pathOf packet).length + (bodyOf packet).length = packet.length := by
    rw [← List.length_append, pathOf_append_bodyOf]
  rw [parse, skipPath_eq packet _ 0 hpos (by omega), ok_bind, List.drop_zero]
  by_cases hnil : bodyOf packet = []
  · rw [if_pos hnil, hnil]
    rfl
  · rw [if_neg hnil]
    dsimp only
    rw [Nat.zero_add, show packet.length - (pathOf packet).length = (bodyOf packet).length by omega]
    by_cases hshort : (bodyOf packet).length < 4
    · rw [if_pos hshort, if_pos hshort, pure_eq_ok]
    · have hread : read packet ((pathOf packet).length + 2) = .ok (byteOf (bodyOf packet) 2) := by
        have hbody := read_append_right (pathOf packet) (bodyOf packet) 2
        rw [pathOf_append_bodyOf] at hbody
        rw [hbody, read_byteOf (by omega)]
      rw [if_neg hshort, if_neg hshort, hread, ok_bind, subspan_eq (by omega), ok_bind,
        dropFront_eq (by omega), ok_bind, List.drop_zero, take_pathOf_length, drop_pathOf_length]
      rfl

theorem parse_nil (self : PacketParser) : parse self [] = .error .outOfRange := rfl

/-- The parser returns a status on every non-empty span. -/
theorem parse_total (self : PacketParser) {packet : List UInt8} (hne : packet ≠ []) :
    ∃ status next, parse self packet = .ok (status, next) := by
  rw [parse_eq self packet hne]
  by_cases hshort : (bodyOf packet).length < 4
  · exact ⟨_, _, if_pos hshort⟩
  · rw [if_neg hshort, parseFormat]
    split
    · exact ⟨_, _, parseReadReplyPacket_eq _ _⟩
    · exact ⟨_, _, parseWriteReplyPacket_eq _ _⟩
    · exact ⟨_, _, parseReadPacket_eq _ _ (by omega)⟩
    · exact ⟨_, _, parseWritePacket_eq _ _ (by omega)⟩

/-- The call returns a status: every index was below the size, and every sub-span inside. -/
def Returns (result : ParseResult) : Prop := ∃ status next, result = .ok (status, next)

theorem parseReadPacket_returns (self : PacketParser) (packet : List UInt8) :
    Returns (parseReadPacket self packet) := by
  by_cases hshort : packet.length < 4
  · exact ⟨.IncompletePacket, self, if_pos hshort⟩
  · exact ⟨_, _, parseReadPacket_eq self packet (Nat.not_lt.mp hshort)⟩

theorem parseWritePacket_returns (self : PacketParser) (packet : List UInt8) :
    Returns (parseWritePacket self packet) := by
  by_cases hshort : packet.length < 4
  · exact ⟨.IncompletePacket, self, if_pos hshort⟩
  · exact ⟨_, _, parseWritePacket_eq self packet (Nat.not_lt.mp hshort)⟩

/-- The four formats stay inside the span. -/
structure FormatsInBounds (self : PacketParser) (packet : List UInt8) : Prop where
  read : Returns (parseReadPacket self packet)
  readReply : Returns (parseReadReplyPacket self packet)
  write : Returns (parseWritePacket self packet)
  writeReply : Returns (parseWriteReplyPacket self packet)

/-- The four formats look at the size before they read, so that they return on every span.
The loop over the path reads first, so that the empty span is the one it cannot take. -/
theorem inBounds_iff (self : PacketParser) (packet : List UInt8) :
    FormatsInBounds self packet ∧
    (Returns (parse self packet) ∧ FormatsInBounds self packet ↔ packet ≠ []) := by
  have hformats : FormatsInBounds self packet :=
    ⟨parseReadPacket_returns self packet, ⟨_, _, parseReadReplyPacket_eq self packet⟩,
      parseWritePacket_returns self packet, ⟨_, _, parseWriteReplyPacket_eq self packet⟩⟩
  refine ⟨hformats, ?_⟩
  constructor
  · rintro ⟨⟨status, next, hparse⟩, -⟩ rfl
    rw [parse_nil] at hparse
    contradiction
  · intro hne
    exact ⟨self.parse_total hne, hformats⟩

end PacketParser

end SpwRmap
