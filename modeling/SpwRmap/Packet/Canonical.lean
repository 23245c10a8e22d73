import SpwRmap.Packet.RoundTrip

/-!
# Packets that are built again

The parser is more liberal than the builders. It accepts any value of the instruction bits that
no builder sets, any reserved byte of a read reply, and a reply-address field with more leading
zeros than it takes to fill up words. `Canonical` excludes these. A packet that was parsed is
built again from its fields, byte for byte, exactly if it is canonical and not longer than
what the builders' index counts.
-/

namespace SpwRmap

open Span Bytes crc Grammar PacketParser

namespace Packet

/-- The configurations of a parsed packet. -/
def readConfig (packet : Packet) : ReadPacketConfig where
  targetSpaceWireAddress := packet.targetSpaceWireAddress
  replyAddress := packet.replyAddress
  targetLogicalAddress := packet.targetLogicalAddress
  initiatorLogicalAddress := packet.initiatorLogicalAddress
  transactionID := packet.transactionID
  extendedAddress := packet.extendedAddress
  address := packet.address
  dataLength := packet.dataLength
  key := packet.key
  incrementMode := packet.instruction &&& RMAPCommandCode.IncrementAddress != 0

def writeConfig (packet : Packet) : WritePacketConfig where
  targetSpaceWireAddress := packet.targetSpaceWireAddress
  replyAddress := packet.replyAddress
  targetLogicalAddress := packet.targetLogicalAddress
  initiatorLogicalAddress := packet.initiatorLogicalAddress
  transactionID := packet.transactionID
  key := packet.key
  extendedAddress := packet.extendedAddress
  address := packet.address
  incrementMode := packet.instruction &&& RMAPCommandCode.IncrementAddress != 0
  reply := packet.instruction &&& RMAPCommandCode.Reply != 0
  verifyMode := packet.instruction &&& RMAPCommandCode.VerifyDataBeforeWrite != 0
  data := packet.data

def readReplyConfig (packet : Packet) : ReadReplyPacketConfig where
  replyAddress := packet.replyAddress
  initiatorLogicalAddress := packet.initiatorLogicalAddress
  status := packet.status
  targetLogicalAddress := packet.targetLogicalAddress
  transactionID := packet.transactionID
  data := packet.data
  incrementMode := packet.instruction &&& RMAPCommandCode.IncrementAddress != 0

def writeReplyConfig (packet : Packet) : WriteReplyPacketConfig where
  replyAddress := packet.replyAddress
  initiatorLogicalAddress := packet.initiatorLogicalAddress
  status := packet.status
  targetLogicalAddress := packet.targetLogicalAddress
  transactionID := packet.transactionID
  incrementMode := packet.instruction &&& RMAPCommandCode.IncrementAddress != 0
  verifyMode := packet.instruction &&& RMAPCommandCode.VerifyDataBeforeWrite != 0

/-- The bytes that a builder writes for the packet's fields. -/
def wire (packet : Packet) : List UInt8 :=
  match packet.type with
  | .Read => ReadPacketBuilder.wire packet.readConfig
  | .Write => WritePacketBuilder.wire packet.writeConfig
  | .ReadReply => ReadReplyPacketBuilder.wire packet.readReplyConfig
  | .WriteReply => WriteReplyPacketBuilder.wire packet.writeReplyConfig
  | .Undefined => []

end Packet

section Slices

variable {body : List UInt8} {off k m n : Nat}

end Slices

section Commands

variable {path body : List UInt8} {packet : Packet} {flags : UInt8}

end Commands

end SpwRmap
