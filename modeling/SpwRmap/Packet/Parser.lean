import SpwRmap.Crc
import SpwRmap.Lib.Bytes
import SpwRmap.Lib.Span
import SpwRmap.Packet.Basic

/-!
# The packet parser of `packet_parser.cc`

A parser owns one packet record and overwrites parts of it. Every function takes
the record left by earlier calls and returns the status together with the record
it leaves, also when it fails half way. The lines common to the two command
formats, and those common to the two reply formats, are one definition each.

Reads and sub-spans are checked, so that a read past the end is a fault of the
model and not a value.
-/

namespace SpwRmap

open Span Bytes crc

structure PacketParser where
  packet_ : Packet := {}
  deriving DecidableEq, Repr

/-- A status and the parser it leaves. -/
abbrev ParseResult : Type := Checked (Status × PacketParser)

namespace PacketParser

/-- The loop over the reply-address field, with `n` iterations left. It returns
`head`, `replyAddressFirstByte` and `replyAddressActualSize`. -/
def skipLeadingZeros (packet : List UInt8) :
    Nat → Nat → Nat → Nat → Checked (Nat × Nat × Nat)
  | 0, head, first, actual => .ok (head, first, actual)
  | n + 1, head, first, actual => do
      let byte ← read packet head
      if byte = 0x00 then
        skipLeadingZeros packet n (head + 1) (head + 1) (actual - 1)
      else
        return (head + 1 + (actual - 1), first, actual)

/-- Both command parsers from the target logical address to the data length. The
returned index is that of the header checksum. -/
def parseCommandFields (self : PacketParser) (packet : List UInt8) (replyAddressSize : Nat) :
    Checked (Status × Nat × PacketParser) := do
  let targetLogicalAddress ← read packet 0
  let p := { self.packet_ with targetLogicalAddress }
  let protocol ← read packet 1
  if protocol ≠ RMAPProtocolIdentifier then
    return (.UnknownProtocolIdentifier, 2, ⟨p⟩)
  let instruction ← read packet 2
  let key ← read packet 3
  let (head, first, actual) ← skipLeadingZeros packet replyAddressSize 4 4 replyAddressSize
  let replyAddress ← subspan packet first actual
  let initiatorLogicalAddress ← read packet head
  let transactionID ← readMany packet (head + 1) 2
  let extendedAddress ← read packet (head + 3)
  let address ← readMany packet (head + 4) 4
  let dataLength ← readMany packet (head + 8) 3
  let p := { p with
    instruction
    key
    replyAddress
    initiatorLogicalAddress
    transactionID := UInt16.ofNat (orShifted transactionID)
    extendedAddress
    address := UInt32.ofNat (orShifted address)
    dataLength := UInt32.ofNat (orShifted dataLength) }
  return (.Success, head + 11, ⟨p⟩)

/-- Both reply parsers from the initiator logical address to the transaction
identifier. -/
def parseReplyFields (self : PacketParser) (packet : List UInt8) : ParseResult := do
  let initiatorLogicalAddress ← read packet 0
  let p := { self.packet_ with initiatorLogicalAddress }
  let protocol ← read packet 1
  if protocol ≠ RMAPProtocolIdentifier then
    return (.UnknownProtocolIdentifier, ⟨p⟩)
  let instruction ← read packet 2
  let status ← read packet 3
  let targetLogicalAddress ← read packet 4
  let transactionID ← readMany packet 5 2
  let p := { p with
    instruction
    status
    targetLogicalAddress
    transactionID := UInt16.ofNat (orShifted transactionID) }
  return (.Success, ⟨p⟩)

/-- The size of the reply-address field announced by an instruction byte. -/
def announcedReplyAddressSize (instruction : UInt8) : Nat :=
  (instruction &&& 0b00000011).toNat * 4

def parseReadPacket (self : PacketParser) (packet : List UInt8) : ParseResult := do
  if packet.length < 4 then
    return (.IncompletePacket, self)
  let instruction ← read packet 2
  let replyAddressSize := announcedReplyAddressSize instruction
  if packet.length ≠ 16 + replyAddressSize then
    return (.IncompletePacket, self)
  let covered ← subspan packet 0 (16 + replyAddressSize)
  if calcCRC covered ≠ 0x00 then
    return (.HeaderCRCError, self)
  let (status, _, self) ← parseCommandFields self packet replyAddressSize
  return (status, self)

def parseReadReplyPacket (self : PacketParser) (packet : List UInt8) : ParseResult := do
  if packet.length < 12 then
    return (.IncompletePacket, self)
  let covered ← subspan packet 0 12
  if calcCRC covered ≠ 0x00 then
    return (.HeaderCRCError, self)
  let (status, self) ← parseReplyFields self packet
  if status ≠ .Success then
    return (status, self)
  -- Index 7 is the reserved byte.
  let dataLength ← readMany packet 8 3
  let p := { self.packet_ with dataLength := UInt32.ofNat (orShifted dataLength) }
  if packet.length ≠ 12 + p.dataLength.toNat + 1 then
    return (.IncompletePacket, ⟨p⟩)
  let covered ← subspan packet 12 (p.dataLength.toNat + 1)
  if calcCRC covered ≠ 0x00 then
    return (.DataCRCError, ⟨p⟩)
  let data ← subspan packet 12 p.dataLength.toNat
  return (.Success, ⟨{ p with data }⟩)

def parseWritePacket (self : PacketParser) (packet : List UInt8) : ParseResult := do
  if packet.length < 4 then
    return (.IncompletePacket, self)
  let instruction ← read packet 2
  let replyAddressSize := announcedReplyAddressSize instruction
  if packet.length ≤ 16 + replyAddressSize then
    return (.IncompletePacket, self)
  let covered ← subspan packet 0 (16 + replyAddressSize)
  if calcCRC covered ≠ 0x00 then
    return (.HeaderCRCError, self)
  let (status, head, self) ← parseCommandFields self packet replyAddressSize
  if status ≠ .Success then
    return (status, self)
  let p := self.packet_
  if packet.length ≠ 16 + replyAddressSize + p.dataLength.toNat + 1 then
    return (.IncompletePacket, self)
  let covered ← subspan packet (16 + replyAddressSize) (p.dataLength.toNat + 1)
  if calcCRC covered ≠ 0x00 then
    return (.DataCRCError, self)
  let data ← subspan packet (head + 1) p.dataLength.toNat
  return (.Success, ⟨{ p with data }⟩)

def parseWriteReplyPacket (self : PacketParser) (packet : List UInt8) : ParseResult := do
  if packet.length ≠ 8 then
    return (.IncompletePacket, self)
  let covered ← subspan packet 0 8
  if calcCRC covered ≠ 0x00 then
    return (.HeaderCRCError, self)
  parseReplyFields self packet

/-- The loop over the path bytes: the index of the first byte that is at least
`0x20`, or `none` when the packet ends first. The first read precedes any
comparison with the size. -/
def skipPath (packet : List UInt8) : Nat → Nat → Checked (Option Nat)
  | 0, _ => .ok none
  | fuel + 1, head => do
      let byte ← read packet head
      if byte < 0x20 then
        if head + 1 ≥ packet.length then
          return none
        skipPath packet fuel (head + 1)
      else
        return some head

/-- `parse`. The path loop makes at most one round for each byte, and one round
on the empty span. -/
def parse (self : PacketParser) (packet : List UInt8) : ParseResult := do
  match ← skipPath packet (packet.length + 1) 0 with
  | none => return (.IncompletePacket, self)
  | some head =>
      if packet.length - head < 4 then
        return (.IncompletePacket, self)
      let instruction ← read packet (head + 2)
      let p := { self.packet_ with instruction }
      let path ← subspan packet 0 head
      let body ← dropFront packet head
      let isCommand := (instruction &&& 0b01000000) ≠ 0
      let isWrite := (instruction &&& RMAPCommandCode.Write) ≠ 0
      match decide isCommand, decide isWrite with
      | false, false =>
          parseReadReplyPacket ⟨{ p with type := .ReadReply, replyAddress := path }⟩ body
      | false, true =>
          parseWriteReplyPacket ⟨{ p with type := .WriteReply, replyAddress := path }⟩ body
      | true, false =>
          parseReadPacket ⟨{ p with type := .Read, targetSpaceWireAddress := path }⟩ body
      | true, true =>
          parseWritePacket ⟨{ p with type := .Write, targetSpaceWireAddress := path }⟩ body

end PacketParser

end SpwRmap
