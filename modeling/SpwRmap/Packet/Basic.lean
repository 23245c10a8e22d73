import Mathlib.Data.List.Basic

/-!
# Packets, configurations and error codes

The records of `packet_builder.hh` and `packet_parser.hh`, the constants of
`rmap_packet_type.hh` and the error codes the library returns. A span field is
the list of bytes it views; the defaults are those of the source.
-/

namespace SpwRmap

def RMAPProtocolIdentifier : UInt8 := 0x01

namespace RMAPPacketType

def Command : UInt8 := 0b01000000
def Reply : UInt8 := 0b00000000

end RMAPPacketType

namespace RMAPCommandCode

def Write : UInt8 := 0b00100000
def VerifyDataBeforeWrite : UInt8 := 0b00010000
def Reply : UInt8 := 0b00001000
def IncrementAddress : UInt8 := 0b00000100

end RMAPCommandCode

structure ReadPacketConfig where
  targetSpaceWireAddress : List UInt8 := []
  replyAddress : List UInt8 := []
  targetLogicalAddress : UInt8 := 0
  initiatorLogicalAddress : UInt8 := 0xFE
  transactionID : UInt16 := 0
  extendedAddress : UInt8 := 0
  address : UInt32 := 0
  dataLength : UInt32 := 0
  key : UInt8 := 0
  incrementMode : Bool := true
  deriving DecidableEq, Repr

structure WritePacketConfig where
  targetSpaceWireAddress : List UInt8 := []
  replyAddress : List UInt8 := []
  targetLogicalAddress : UInt8 := 0
  initiatorLogicalAddress : UInt8 := 0xFE
  transactionID : UInt16 := 0
  key : UInt8 := 0
  extendedAddress : UInt8 := 0
  address : UInt32 := 0
  incrementMode : Bool := true
  reply : Bool := true
  verifyMode : Bool := true
  data : List UInt8 := []
  deriving DecidableEq, Repr

structure ReadReplyPacketConfig where
  replyAddress : List UInt8 := []
  initiatorLogicalAddress : UInt8 := 0xFE
  status : UInt8 := 0
  targetLogicalAddress : UInt8 := 0
  transactionID : UInt16 := 0
  data : List UInt8 := []
  incrementMode : Bool := true
  deriving DecidableEq, Repr

structure WriteReplyPacketConfig where
  replyAddress : List UInt8 := []
  initiatorLogicalAddress : UInt8 := 0xFE
  status : UInt8 := 0
  targetLogicalAddress : UInt8 := 0
  transactionID : UInt16 := 0
  incrementMode : Bool := true
  verifyMode : Bool := true
  deriving DecidableEq, Repr

inductive PacketType where
  | Undefined
  | Read
  | Write
  | ReadReply
  | WriteReply
  deriving DecidableEq, Repr

structure Packet where
  targetSpaceWireAddress : List UInt8 := []
  replyAddress : List UInt8 := []
  initiatorLogicalAddress : UInt8 := 0
  instruction : UInt8 := 0
  key : UInt8 := 0
  status : UInt8 := 0
  targetLogicalAddress : UInt8 := 0
  transactionID : UInt16 := 0
  extendedAddress : UInt8 := 0
  address : UInt32 := 0
  dataLength : UInt32 := 0
  data : List UInt8 := []
  type : PacketType := .Undefined
  deriving DecidableEq, Repr

namespace PacketStatusCode

/-- The only status code that the library's own code mentions. -/
def CommandExecutedSuccessfully : UInt8 := 0

end PacketStatusCode

/-- `PacketParser::Status`. -/
inductive Status where
  | Success
  | InvalidPacket
  | HeaderCRCError
  | DataCRCError
  | IncompletePacket
  | NotReplyPacket
  | PacketStatusError
  | UnknownProtocolIdentifier
  deriving DecidableEq, Repr

/-- The `std::errc` values the library returns. -/
inductive Errc where
  | already_connected
  | bad_file_descriptor
  | bad_message
  | connection_aborted
  | invalid_argument
  | io_error
  | no_buffer_space
  | not_connected
  | operation_canceled
  | resource_unavailable_try_again
  | timed_out
  deriving DecidableEq, Repr

/-- A `std::error_code`: a portable condition, a parser status in the library's
own category, or an `errno` value reported by a system call. -/
inductive ErrorCode where
  | errc (condition : Errc)
  | status (status : Status)
  | system (errno : Int)
  deriving DecidableEq, Repr

end SpwRmap
