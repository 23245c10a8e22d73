import SpwRmap.Lib.Stream
import SpwRmap.Packet.Parser

/-!
# Receiving one packet

The receive side of `spw_rmap_tcp_node_impl.hh`: `recvExact_`, `ignoreNBytes_`,
`calculateDataLength` and `recvAndParseOnePacket_`. The span `recv_buffer` is a
window of `recv_buf_`, given by its offset and its size, so that the copy of the
payload lands in the vector as it does in the source. Sub-spans are checked, the sum
`total_size + dataLength` is taken modulo `2 ^ 64`, and `recv_buf_` does not grow beyond
`max_size()`.

Each loop has fuel for one more round than the stream can feed; a loop that ran
out of it would be a fault.
-/

namespace SpwRmap

open Span Bytes Stream

inductive BufferPolicy where
  | Fixed
  | AutoResize
  deriving DecidableEq, Repr

abbrev Backend : Type := Source ErrorCode

/-- The loop of `recvExact_`. The bytes received so far are those at the front of
the span, whether or not the call succeeds. -/
def recvExactLoop (total_length : Nat) : Nat → Backend → Nat → List UInt8 →
    Checked (Except ErrorCode Nat × List UInt8 × Backend)
  | 0, _, _, _ => .error .outOfFuel
  | fuel + 1, backend, wanted, received =>
      if wanted = 0 then
        .ok (.ok total_length, received, backend)
      else
        match backend.recvSome wanted with
        | (.error e, backend) => .ok (.error e, received, backend)
        | (.ok [], backend) => .ok (.ok 0, received, backend)
        | (.ok chunk, backend) =>
            recvExactLoop total_length fuel backend (wanted - chunk.length) (received ++ chunk)

/-- The loop of `ignoreNBytes_` over full ignore buffers: what is left of `n`. -/
def ignoreLoop : Nat → Backend → Nat → Checked (Except ErrorCode Nat × Backend)
  | 0, _, _ => .error .outOfFuel
  | fuel + 1, backend, n =>
      if n ≤ 16 then
        .ok (.ok n, backend)
      else
        match backend.recvSome 16 with
        | (.error e, backend) => .ok (.error e, backend)
        | (.ok [], backend) => .ok (.error (.errc .connection_aborted), backend)
        | (.ok chunk, backend) => ignoreLoop fuel backend (n - chunk.length)

def calculateDataLength (header : List UInt8) : Except ErrorCode Nat :=
  if header.length < 12 then
    .error (.errc .invalid_argument)
  else
    .ok (orShifted ((header.drop 4).take 8))

/-- The members of a node that receiving uses. `parsed` is no member of the
source: it records the spans on which `parse` was run. -/
structure Receiver where
  tcp_backend_ : Option Backend
  recv_buf_ : List UInt8
  packet_parser_ : PacketParser := {}
  buffer_policy_ : BufferPolicy := .AutoResize
  parsed : List (List UInt8) := []

/-- A span of `recv_buf_`. -/
structure Window where
  offset : Nat
  size : Nat
  deriving DecidableEq, Repr

/-- How one round of the receive loop ends. -/
inductive Round where
  | done (result : Except ErrorCode Nat)
  | again (total_size : Nat) (recv_buffer : Window)
  | eof (total_size : Nat)
  | restart

namespace Receiver

def recvExact_ (self : Receiver) (size : Nat) :
    Checked (Except ErrorCode Nat × List UInt8 × Receiver) :=
  match self.tcp_backend_ with
  | none => .ok (.error (.errc .not_connected), [], self)
  | some backend => do
      let (res, received, backend) ← recvExactLoop size (size + 1) backend size []
      return (res, received, { self with tcp_backend_ := some backend })

def ignoreNBytes_ (self : Receiver) (n : Nat) : Checked (Except ErrorCode Nat × Receiver) :=
  match self.tcp_backend_ with
  | none => .ok (.error (.errc .not_connected), self)
  | some backend => do
      let (res, backend) ← ignoreLoop (n + 1) backend n
      let self := { self with tcp_backend_ := some backend }
      match res with
      | .error e => return (.error e, self)
      | .ok rest =>
          if rest = 0 then
            return (.ok n, self)
          let (res, _, self) ← self.recvExact_ rest
          match res with
          | .error e => return (.error e, self)
          | .ok _ => return (.ok n, self)

/-- `std::span(recv_buf_)`. -/
def wholeBuffer (self : Receiver) : Window := ⟨0, self.recv_buf_.length⟩

/-- The check of the announced length against `recv_buffer`, which may grow
`recv_buf_` and move `recv_buffer`. -/
def ensureRoom (self : Receiver) (total_size dataLength : Nat) (recv_buffer : Window) :
    Checked (Except ErrorCode Window × Receiver) :=
  if dataLength > recv_buffer.size then
    if self.buffer_policy_ = .Fixed then
      .ok (.error (.errc .no_buffer_space), self)
    else do
      let recv_buf_ ← tryResize 0 self.recv_buf_ ((total_size + dataLength) % 2 ^ 64)
      if total_size ≤ recv_buf_.length then
        .ok (.ok ⟨total_size, recv_buf_.length - total_size⟩, { self with recv_buf_ })
      else
        .error .outOfRange
  else
    .ok (.ok recv_buffer, self)

/-- `recvExact_(recv_buffer.first(dataLength))`. -/
def recvPayload (self : Receiver) (dataLength : Nat) (recv_buffer : Window) :
    Checked (Except ErrorCode Nat × Receiver) :=
  if dataLength ≤ recv_buffer.size then do
    let (res, received, self) ← self.recvExact_ dataLength
    return (res, { self with recv_buf_ := store self.recv_buf_ recv_buffer.offset received })
  else
    .error .outOfRange

/-- The header bytes 2 to 11 of a time code. -/
def timeCodeHeader : List UInt8 := [0x00, 0x00, 0x00, 0x00, 0x00, 0x00, 0x00, 0x00, 0x00, 0x02]

/-- The `switch` on the type byte. -/
def receiveBody (self : Receiver) (header : List UInt8) (total_size dataLength : Nat)
    (recv_buffer : Window) : Checked (Round × Receiver) := do
  let type := header.getD 0 0
  if type = 0x00 then
    let (res, self) ← self.recvPayload dataLength recv_buffer
    match res with
    | .error e => return (.done (.error e), self)
    | .ok size => return (.eof (total_size + size), self)
  else if type = 0x01 then
    let (res, self) ← self.ignoreNBytes_ dataLength
    match res with
    | .error e => return (.done (.error e), self)
    | .ok _ => return (.restart, self)
  else if type = 0x02 then
    let (res, self) ← self.recvPayload dataLength recv_buffer
    match res with
    | .error e => return (.done (.error e), self)
    | .ok size =>
        -- The window moves by the announced length, the total by the received one.
        if dataLength ≤ recv_buffer.size then
          return (.again (total_size + size)
            ⟨recv_buffer.offset + dataLength, recv_buffer.size - dataLength⟩, self)
        else
          .error .outOfRange
  else if type = 0x30 ∨ type = 0x31 then
    if header.drop 2 ≠ timeCodeHeader then
      return (.done (.error (.errc .bad_message)), self)
    let (res, received, self) ← self.recvExact_ 2
    match res with
    | .error e => return (.done (.error e), self)
    | .ok _ =>
        let tc := store [0x00, 0x00] 0 received
        if tc.getD 1 0 ≠ 0x00 then
          return (.done (.error (.errc .bad_message)), self)
        return (.again total_size recv_buffer, self)
  else
    return (.done (.error (.errc .bad_message)), self)

/-- One round of the loop of `recvAndParseOnePacket_`. -/
def receiveFrame (self : Receiver) (total_size : Nat) (recv_buffer : Window) :
    Checked (Round × Receiver) := do
  let (res, received, self) ← self.recvExact_ 12
  match res with
  | .error e => return (.done (.error e), self)
  | .ok 0 => return (.done (.ok 0), self)
  | .ok _ =>
      let header := store (List.replicate 12 0x00) 0 received
      if header.getD 0 0 ∉ [0x00, 0x01, 0x02, 0x31, 0x30] then
        return (.done (.error (.errc .bad_message)), self)
      if header.getD 1 0 ≠ 0x00 then
        return (.done (.error (.errc .bad_message)), self)
      match calculateDataLength header with
      | .error e => return (.done (.error e), self)
      | .ok dataLength =>
          if dataLength = 0 then
            return (.done (.error (.errc .bad_message)), self)
          let (room, self) ← self.ensureRoom total_size dataLength recv_buffer
          match room with
          | .error e => return (.done (.error e), self)
          | .ok recv_buffer => self.receiveBody header total_size dataLength recv_buffer

/-- The lines after the loop of `recvAndParseOnePacket_`. -/
def parseReceived (self : Receiver) (total_size : Nat) :
    Checked (Except ErrorCode Nat × Receiver) := do
  let packet ← subspan self.recv_buf_ 0 total_size
  let (status, packet_parser_) ← self.packet_parser_.parse packet
  let self := { self with packet_parser_, parsed := self.parsed ++ [packet] }
  if status ≠ .Success then
    return (.error (.status status), self)
  return (.ok total_size, self)

/-- The loop of `recvAndParseOnePacket_`. The recursive call after an error end
starts again with an empty packet and the whole buffer. -/
def receiveLoop : Nat → Receiver → Nat → Window → Checked (Except ErrorCode Nat × Receiver)
  | 0, _, _, _ => .error .outOfFuel
  | fuel + 1, self, total_size, recv_buffer => do
      let (round, self) ← self.receiveFrame total_size recv_buffer
      match round with
      | .done res => return (res, self)
      | .again total_size recv_buffer => receiveLoop fuel self total_size recv_buffer
      | .eof total_size => self.parseReceived total_size
      | .restart => receiveLoop fuel self 0 self.wholeBuffer

def recvAndParseOnePacket_ (self : Receiver) : Checked (Except ErrorCode Nat × Receiver) :=
  match self.tcp_backend_ with
  | none => .ok (.error (.errc .not_connected), self)
  | some backend => receiveLoop (backend.incoming.length + 1) self 0 self.wholeBuffer

end Receiver

end SpwRmap
