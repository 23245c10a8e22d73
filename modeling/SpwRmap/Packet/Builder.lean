import SpwRmap.Crc
import SpwRmap.Lib.Bytes
import SpwRmap.Lib.Span
import SpwRmap.Packet.Basic
import Mathlib.Tactic.IntervalCases

/-!
# The packet builders of `packet_builder.cc`

Each `build` refuses a short output span, then stores byte after byte through a
running index. The two command builders share their first lines verbatim, and so
do the two reply builders; these lines are `putCommandHeader` and
`putReplyHeader`. The running index is an `int`, though the sizes are `size_t`
values: a packet of `2 ^ 31` bytes or more makes it overflow, which is a fault.

The equations at the end say what a `build` of a size that an `int` holds leaves in
the span: the wire image of the configuration, followed by the old contents. The wire
images (`CommandFields.header` and `ReplyFields.header`) are layouts, with no writes
in them; later modules reason about the layouts only.
-/

namespace SpwRmap

open Span Bytes crc

/-- What `build` returns, with the output span it leaves behind. -/
abbrev BuildResult : Type := Except ErrorCode Nat × List UInt8

/-- The values written by the lines common to both command builders. `flags` is
the instruction byte before the reply-address bits are added. -/
structure CommandFields where
  targetSpaceWireAddress : List UInt8
  replyAddress : List UInt8
  targetLogicalAddress : UInt8
  flags : UInt8
  key : UInt8
  initiatorLogicalAddress : UInt8
  transactionID : UInt16
  extendedAddress : UInt8
  address : UInt32
  dataLength : Nat

/-- The values written by the lines common to both reply builders. -/
structure ReplyFields where
  replyAddress : List UInt8
  initiatorLogicalAddress : UInt8
  instruction : UInt8
  status : UInt8
  targetLogicalAddress : UInt8
  transactionID : UInt16

/-- `replyAddressSize` after the instruction field has been computed. -/
def replyAddressFieldSize (size : Nat) : Nat :=
  if size ≠ 0 then ((size - 1) &&& 0x0C) + 0x04 else size

/-- The number of zero bytes in front of the reply address. The subtraction is
one of `size_t` values. -/
def replyAddressPadding (size : Nat) : Nat :=
  if replyAddressFieldSize size ≠ 0 then sizeSub (replyAddressFieldSize size) size else 0

namespace CommandFields

/-- The instruction byte, with the reply-address length in 4-byte words. -/
def instruction (f : CommandFields) : UInt8 :=
  if f.replyAddress.length ≠ 0 then
    f.flags ||| UInt8.ofNat (replyAddressFieldSize f.replyAddress.length >>> 2)
  else f.flags

/-- The fields from the initiator logical address to the data length. -/
def trailer (f : CommandFields) : List UInt8 :=
  f.initiatorLogicalAddress ::
    (toBigEndian 2 f.transactionID.toNat ++ f.extendedAddress ::
      (toBigEndian 4 f.address.toNat ++ toBigEndian 3 f.dataLength))

/-- The header that the header checksum covers. -/
def header (f : CommandFields) : List UInt8 :=
  [f.targetLogicalAddress, RMAPProtocolIdentifier, f.instruction, f.key] ++
    (List.replicate (replyAddressPadding f.replyAddress.length) 0x00 ++
      (f.replyAddress ++ f.trailer))

/-- The path, the header and its checksum: everything before the data. -/
def wire (f : CommandFields) : List UInt8 :=
  f.targetSpaceWireAddress ++ (f.header ++ [calcCRC f.header])

end CommandFields

namespace ReplyFields

def header (f : ReplyFields) : List UInt8 :=
  [f.initiatorLogicalAddress, RMAPProtocolIdentifier, f.instruction, f.status,
    f.targetLogicalAddress] ++ toBigEndian 2 f.transactionID.toNat

end ReplyFields

/-- Both command builders up to and including the header checksum. -/
def putCommandHeader (ndebug : Bool) (f : CommandFields) (out : List UInt8) :
    Checked Cursor := do
  let c ← (Cursor.start out).putAll f.targetSpaceWireAddress
  let c ← c.put f.targetLogicalAddress
  let c ← c.put RMAPProtocolIdentifier
  check ndebug (f.replyAddress.length ≠ 0 → f.replyAddress.length ≤ 12)
  let c ← c.put f.instruction
  let c ← c.put f.key
  let c ← c.putRepeat (replyAddressPadding f.replyAddress.length) 0x00
  let c ← c.putAll f.replyAddress
  let c ← c.put f.initiatorLogicalAddress
  let c ← c.put (byteAt f.transactionID.toNat 1)
  let c ← c.put (byteAt f.transactionID.toNat 0)
  let c ← c.put f.extendedAddress
  let c ← c.put (byteAt f.address.toNat 3)
  let c ← c.put (byteAt f.address.toNat 2)
  let c ← c.put (byteAt f.address.toNat 1)
  let c ← c.put (byteAt f.address.toNat 0)
  let c ← c.put (byteAt f.dataLength 2)
  let c ← c.put (byteAt f.dataLength 1)
  let c ← c.put (byteAt f.dataLength 0)
  let body ← subspan c.out f.targetSpaceWireAddress.length
    (c.head - f.targetSpaceWireAddress.length)
  c.put (calcCRC body)

/-- Both reply builders up to and including the transaction identifier. -/
def putReplyHeader (f : ReplyFields) (out : List UInt8) : Checked Cursor := do
  let c ← (Cursor.start out).putAll f.replyAddress
  let c ← c.put f.initiatorLogicalAddress
  let c ← c.put RMAPProtocolIdentifier
  let c ← c.put f.instruction
  let c ← c.put f.status
  let c ← c.put f.targetLogicalAddress
  let c ← c.put (byteAt f.transactionID.toNat 1)
  c.put (byteAt f.transactionID.toNat 0)

namespace ReadPacketBuilder

def getTotalSize (config : ReadPacketConfig) : Nat :=
  config.targetSpaceWireAddress.length + 4 + (config.replyAddress.length + 3) / 4 * 4 + 12

def fields (config : ReadPacketConfig) : CommandFields where
  targetSpaceWireAddress := config.targetSpaceWireAddress
  replyAddress := config.replyAddress
  targetLogicalAddress := config.targetLogicalAddress
  flags := RMAPPacketType.Command ||| RMAPCommandCode.Reply |||
    (if config.incrementMode then RMAPCommandCode.IncrementAddress else 0)
  key := config.key
  initiatorLogicalAddress := config.initiatorLogicalAddress
  transactionID := config.transactionID
  extendedAddress := config.extendedAddress
  address := config.address
  dataLength := config.dataLength.toNat

def build (ndebug : Bool) (config : ReadPacketConfig) (out : List UInt8) :
    Checked BuildResult :=
  if out.length < getTotalSize config then
    .ok (.error (.errc .no_buffer_space), out)
  else do
    let c ← putCommandHeader ndebug (fields config) out
    return (.ok c.head, c.out)

/-- The packet of a configuration. -/
def wire (config : ReadPacketConfig) : List UInt8 := (fields config).wire

end ReadPacketBuilder

namespace WritePacketBuilder

def getTotalSize (config : WritePacketConfig) : Nat :=
  config.targetSpaceWireAddress.length + 4 + (config.replyAddress.length + 3) / 4 * 4 + 12 +
    config.data.length + 1

def fields (config : WritePacketConfig) : CommandFields where
  targetSpaceWireAddress := config.targetSpaceWireAddress
  replyAddress := config.replyAddress
  targetLogicalAddress := config.targetLogicalAddress
  flags := RMAPPacketType.Command ||| RMAPCommandCode.Write |||
    (if config.reply then RMAPCommandCode.Reply else 0) |||
    (if config.verifyMode then RMAPCommandCode.VerifyDataBeforeWrite else 0) |||
    (if config.incrementMode then RMAPCommandCode.IncrementAddress else 0)
  key := config.key
  initiatorLogicalAddress := config.initiatorLogicalAddress
  transactionID := config.transactionID
  extendedAddress := config.extendedAddress
  address := config.address
  dataLength := config.data.length

def build (ndebug : Bool) (config : WritePacketConfig) (out : List UInt8) :
    Checked BuildResult :=
  if out.length < getTotalSize config then
    .ok (.error (.errc .no_buffer_space), out)
  else do
    let c ← putCommandHeader ndebug (fields config) out
    let c ← c.putAll config.data
    let c ← c.put (calcCRC config.data)
    return (.ok c.head, c.out)

def wire (config : WritePacketConfig) : List UInt8 :=
  (fields config).wire ++ (config.data ++ [calcCRC config.data])

end WritePacketBuilder

namespace WriteReplyPacketBuilder

def getTotalSize (config : WriteReplyPacketConfig) : Nat := config.replyAddress.length + 8

def fields (config : WriteReplyPacketConfig) : ReplyFields where
  replyAddress := config.replyAddress
  initiatorLogicalAddress := config.initiatorLogicalAddress
  instruction := RMAPPacketType.Reply ||| RMAPCommandCode.Write ||| RMAPCommandCode.Reply |||
    (if config.verifyMode then RMAPCommandCode.VerifyDataBeforeWrite else 0) |||
    (if config.incrementMode then RMAPCommandCode.IncrementAddress else 0)
  status := config.status
  targetLogicalAddress := config.targetLogicalAddress
  transactionID := config.transactionID

def build (config : WriteReplyPacketConfig) (out : List UInt8) : Checked BuildResult :=
  if out.length < getTotalSize config then
    .ok (.error (.errc .no_buffer_space), out)
  else do
    let c ← putReplyHeader (fields config) out
    let body ← subspan c.out config.replyAddress.length (c.head - config.replyAddress.length)
    let c ← c.put (calcCRC body)
    return (.ok c.head, c.out)

def wire (config : WriteReplyPacketConfig) : List UInt8 :=
  config.replyAddress ++ ((fields config).header ++ [calcCRC (fields config).header])

end WriteReplyPacketBuilder

namespace ReadReplyPacketBuilder

def getTotalSize (config : ReadReplyPacketConfig) : Nat :=
  config.replyAddress.length + 12 + config.data.length + 1

def fields (config : ReadReplyPacketConfig) : ReplyFields where
  replyAddress := config.replyAddress
  initiatorLogicalAddress := config.initiatorLogicalAddress
  instruction := RMAPPacketType.Reply ||| RMAPCommandCode.Reply |||
    (if config.incrementMode then RMAPCommandCode.IncrementAddress else 0)
  status := config.status
  targetLogicalAddress := config.targetLogicalAddress
  transactionID := config.transactionID

/-- The reply header, the reserved byte and the data length. -/
def header (config : ReadReplyPacketConfig) : List UInt8 :=
  (fields config).header ++ 0x00 :: toBigEndian 3 config.data.length

def build (config : ReadReplyPacketConfig) (out : List UInt8) : Checked BuildResult :=
  if out.length < getTotalSize config then
    .ok (.error (.errc .no_buffer_space), out)
  else do
    let c ← putReplyHeader (fields config) out
    let c ← c.put 0x00
    let c ← c.put (byteAt config.data.length 2)
    let c ← c.put (byteAt config.data.length 1)
    let c ← c.put (byteAt config.data.length 0)
    let body ← subspan c.out config.replyAddress.length (c.head - config.replyAddress.length)
    let c ← c.put (calcCRC body)
    let c ← c.putAll config.data
    let c ← c.put (calcCRC config.data)
    return (.ok c.head, c.out)

def wire (config : ReadReplyPacketConfig) : List UInt8 :=
  config.replyAddress ++
    (header config ++ [calcCRC (header config)] ++ (config.data ++ [calcCRC config.data]))

end ReadReplyPacketBuilder

/-- On the lengths the RMAP header can express, the masked formula rounds up to
whole words, as `getTotalSize` does. -/
theorem replyAddressFieldSize_eq {n : Nat} (h : n ≤ 12) :
    replyAddressFieldSize n = (n + 3) / 4 * 4 := by
  interval_cases n <;> rfl

theorem replyAddressPadding_eq {n : Nat} (h : n ≤ 12) :
    replyAddressPadding n = (n + 3) / 4 * 4 - n := by
  rw [replyAddressPadding, replyAddressFieldSize_eq h]
  split
  · exact sizeSub_eq (by omega) (by omega)
  · omega

namespace CommandFields

@[simp] theorem trailer_length (f : CommandFields) : f.trailer.length = 11 := by
  simp [trailer]

theorem header_length (f : CommandFields) (h : f.replyAddress.length ≤ 12) :
    f.header.length = 15 + (f.replyAddress.length + 3) / 4 * 4 := by
  simp only [header, List.length_append, List.length_cons, List.length_nil,
    List.length_replicate, trailer_length, replyAddressPadding_eq h]
  omega

theorem wire_length (f : CommandFields) (h : f.replyAddress.length ≤ 12) :
    f.wire.length =
      f.targetSpaceWireAddress.length + 4 + (f.replyAddress.length + 3) / 4 * 4 + 12 := by
  simp only [wire, List.length_append, header_length f h, List.length_cons, List.length_nil]
  omega

end CommandFields

@[simp] theorem ReplyFields.header_length (f : ReplyFields) : f.header.length = 7 := by
  simp [ReplyFields.header]

/-- All stores before the checksum are one: the path followed by the header. -/
theorem putCommandHeader_stores (ndebug : Bool) (f : CommandFields) (out : List UInt8)
    (hreply : f.replyAddress.length ≤ 12) :
    putCommandHeader ndebug f out =
      (Cursor.start out).putAll (f.targetSpaceWireAddress ++ f.header) >>= fun c =>
        subspan c.out f.targetSpaceWireAddress.length
          (c.head - f.targetSpaceWireAddress.length) >>= fun body => c.put (calcCRC body) := by
  simp only [putCommandHeader, check_of ndebug (fun _ => hreply), ok_bind, Cursor.put_eq,
    Cursor.putRepeat_eq, Cursor.putAll_bind_putAll]
  simp only [CommandFields.header, CommandFields.trailer, toBigEndian, List.cons_append,
    List.nil_append]

/-- The checksum covers what was stored behind the path. -/
theorem subspan_header {α : Type} (out path header : List UInt8)
    (f : List UInt8 → Checked α) :
    (subspan (Cursor.after out (path ++ header)).out path.length
      ((Cursor.after out (path ++ header)).head - path.length) >>= f) = f header := by
  rw [Cursor.after_subspan _ (by simp), ok_bind, List.drop_left]

theorem putCommandHeader_eq (ndebug : Bool) (f : CommandFields) (out : List UInt8)
    (hreply : f.replyAddress.length ≤ 12) (hroom : f.wire.length ≤ out.length)
    (hint : f.wire.length ≤ INT_MAX) :
    putCommandHeader ndebug f out = .ok (Cursor.after out f.wire) := by
  have hwire : f.wire.length = f.targetSpaceWireAddress.length + f.header.length + 1 := by
    simp only [CommandFields.wire, List.length_append, List.length_singleton]
    omega
  rw [putCommandHeader_stores ndebug f out hreply, Cursor.start_eq,
    Cursor.after_putAll _ (by simp; omega) (by simp; omega), ok_bind, List.nil_append,
    subspan_header, Cursor.after_put _ (by simp; omega) (by simp; omega), List.append_assoc]
  rfl

/-- A command of more bytes than an `int` counts, whatever is stored behind its header. -/
theorem putCommandHeader_overflow {α : Type} (ndebug : Bool) (f : CommandFields)
    (out tail : List UInt8) (hreply : f.replyAddress.length ≤ 12)
    (hroom : f.wire.length + tail.length ≤ out.length)
    (hint : INT_MAX < f.wire.length + tail.length) (g : Cursor → Checked α) :
    (putCommandHeader ndebug f out >>= fun c => c.putAll tail >>= g) = .error .overflow := by
  have hwire : f.wire.length = f.targetSpaceWireAddress.length + f.header.length + 1 := by
    simp only [CommandFields.wire, List.length_append, List.length_singleton]
    omega
  rw [putCommandHeader_stores ndebug f out hreply, bind_assoc]
  have hsize : (f.targetSpaceWireAddress ++ f.header).length +
      ([calcCRC f.header] ++ tail).length = f.wire.length + tail.length := by
    simp only [List.length_append, List.length_singleton]
    omega
  apply Cursor.putAll_stages_overflow (hsize ▸ hroom) (hsize ▸ hint)
  rw [bind_assoc, subspan_header, Cursor.put_eq, Cursor.putAll_bind_putAll]

theorem putReplyHeader_stores (f : ReplyFields) (out : List UInt8) :
    putReplyHeader f out = (Cursor.start out).putAll (f.replyAddress ++ f.header) := by
  simp only [putReplyHeader, Cursor.put_eq, ← Cursor.putAll_append]
  simp only [ReplyFields.header, toBigEndian, List.cons_append, List.nil_append]

theorem putReplyHeader_eq (f : ReplyFields) (out : List UInt8)
    (hroom : f.replyAddress.length + 7 ≤ out.length)
    (hint : f.replyAddress.length + 7 ≤ INT_MAX) :
    putReplyHeader f out = .ok (Cursor.after out (f.replyAddress ++ f.header)) := by
  rw [putReplyHeader_stores, Cursor.start_eq,
    Cursor.after_putAll _ (by simp; omega) (by simp; omega), List.nil_append]

namespace ReadPacketBuilder

theorem wire_length (config : ReadPacketConfig) (hreply : config.replyAddress.length ≤ 12) :
    (wire config).length = getTotalSize config :=
  (fields config).wire_length hreply

/-- A `build` with room writes the wire image and nothing else. -/
theorem build_eq (ndebug : Bool) (config : ReadPacketConfig) (out : List UInt8)
    (hreply : config.replyAddress.length ≤ 12) (hroom : getTotalSize config ≤ out.length)
    (hint : getTotalSize config ≤ INT_MAX) :
    build ndebug config out =
      .ok (.ok (getTotalSize config), wire config ++ out.drop (getTotalSize config)) := by
  have hlen := wire_length config hreply
  have hwire : (fields config).wire.length = getTotalSize config := hlen
  rw [build, if_neg (by omega), putCommandHeader_eq ndebug _ out hreply (by omega) (by omega)]
  simp only [ok_bind, pure_eq_ok, Cursor.after, ← hlen, wire]

/-- The index does not reach the end of the packet. -/
theorem build_overflow (ndebug : Bool) (config : ReadPacketConfig) (out : List UInt8)
    (hreply : config.replyAddress.length ≤ 12) (hroom : getTotalSize config ≤ out.length)
    (hint : INT_MAX < getTotalSize config) :
    build ndebug config out = .error .overflow := by
  have hwire : (fields config).wire.length = getTotalSize config := wire_length config hreply
  rw [build, if_neg (by omega)]
  exact putCommandHeader_overflow ndebug (fields config) out [] hreply (by simpa [hwire] using hroom)
    (by simpa [hwire] using hint) _

end ReadPacketBuilder

namespace WritePacketBuilder

theorem wire_length (config : WritePacketConfig) (hreply : config.replyAddress.length ≤ 12) :
    (wire config).length = getTotalSize config := by
  have h := (fields config).wire_length hreply
  simp only [wire, List.length_append, h, List.length_singleton]
  simp only [fields, getTotalSize]
  omega

theorem build_eq (ndebug : Bool) (config : WritePacketConfig) (out : List UInt8)
    (hreply : config.replyAddress.length ≤ 12) (hroom : getTotalSize config ≤ out.length)
    (hint : getTotalSize config ≤ INT_MAX) :
    build ndebug config out =
      .ok (.ok (getTotalSize config), wire config ++ out.drop (getTotalSize config)) := by
  have hlen := wire_length config hreply
  have hsplit : (wire config).length =
      (fields config).wire.length + config.data.length + 1 := by
    simp only [wire, List.length_append, List.length_singleton]
    omega
  rw [build, if_neg (by omega), putCommandHeader_eq ndebug _ out hreply (by omega) (by omega),
    ok_bind, Cursor.after_putAll _ (by omega) (by omega), ok_bind,
    Cursor.after_put _ (by rw [List.length_append]; omega) (by rw [List.length_append]; omega),
    ok_bind, List.append_assoc]
  simp only [pure_eq_ok, Cursor.after, ← hlen, wire]

theorem build_overflow (ndebug : Bool) (config : WritePacketConfig) (out : List UInt8)
    (hreply : config.replyAddress.length ≤ 12) (hroom : getTotalSize config ≤ out.length)
    (hint : INT_MAX < getTotalSize config) :
    build ndebug config out = .error .overflow := by
  have hlen := wire_length config hreply
  have hsplit : (wire config).length =
      (fields config).wire.length + (config.data ++ [calcCRC config.data]).length := by
    rw [wire, List.length_append]
  rw [build, if_neg (by omega)]
  simp only [Cursor.put_eq, Cursor.putAll_bind_putAll]
  exact putCommandHeader_overflow ndebug (fields config) out _ hreply (by omega) (by omega) _

end WritePacketBuilder

namespace WriteReplyPacketBuilder

theorem wire_length (config : WriteReplyPacketConfig) :
    (wire config).length = getTotalSize config := by
  simp [wire, getTotalSize]

theorem build_eq (config : WriteReplyPacketConfig) (out : List UInt8)
    (hroom : getTotalSize config ≤ out.length) (hint : getTotalSize config ≤ INT_MAX) :
    build config out =
      .ok (.ok (getTotalSize config), wire config ++ out.drop (getTotalSize config)) := by
  have hlen := wire_length config
  have hsize : getTotalSize config = (fields config).replyAddress.length + 8 := rfl
  rw [build, if_neg (by omega), putReplyHeader_eq _ out (by omega) (by omega), ok_bind,
    Cursor.after_subspan _ (by simp [fields]), ok_bind,
    Cursor.after_put _ (by simp; omega) (by simp; omega), ok_bind, List.append_assoc]
  simp only [pure_eq_ok, Cursor.after, ← hlen, wire, fields, List.drop_left]

theorem build_overflow (config : WriteReplyPacketConfig) (out : List UInt8)
    (hroom : getTotalSize config ≤ out.length) (hint : INT_MAX < getTotalSize config) :
    build config out = .error .overflow := by
  have hsize : (config.replyAddress ++ (fields config).header).length +
      [calcCRC (fields config).header].length = getTotalSize config := by
    simp [getTotalSize]
  rw [build, if_neg (by omega), putReplyHeader_stores]
  apply Cursor.putAll_stages_overflow (hsize.symm ▸ hroom) (hsize.symm ▸ hint)
  rw [show (fields config).replyAddress = config.replyAddress from rfl, subspan_header,
    Cursor.put_eq]

end WriteReplyPacketBuilder

namespace ReadReplyPacketBuilder

@[simp] theorem header_length (config : ReadReplyPacketConfig) :
    (header config).length = 11 := by
  simp [header]

theorem wire_length (config : ReadReplyPacketConfig) :
    (wire config).length = getTotalSize config := by
  simp [wire, getTotalSize]
  omega

/-- The reserved byte and the length complete the header that the checksum covers. -/
theorem build_stores (config : ReadReplyPacketConfig) (out : List UInt8)
    (hroom : getTotalSize config ≤ out.length) :
    build config out =
      (Cursor.start out).putAll (config.replyAddress ++ header config) >>= fun c =>
        subspan c.out config.replyAddress.length (c.head - config.replyAddress.length) >>=
          fun body => c.put (calcCRC body) >>= fun c => c.putAll config.data >>= fun c =>
            c.put (calcCRC config.data) >>= fun c => return (.ok c.head, c.out) := by
  rw [build, if_neg (by omega), putReplyHeader_stores]
  simp only [Cursor.put_eq, Cursor.putAll_bind_putAll, header, toBigEndian, List.cons_append,
    List.nil_append, List.append_assoc]
  rfl

theorem build_eq (config : ReadReplyPacketConfig) (out : List UInt8)
    (hroom : getTotalSize config ≤ out.length) (hint : getTotalSize config ≤ INT_MAX) :
    build config out =
      .ok (.ok (getTotalSize config), wire config ++ out.drop (getTotalSize config)) := by
  have hlen := wire_length config
  have hsize : getTotalSize config =
      (fields config).replyAddress.length + 12 + config.data.length + 1 := rfl
  have hfront : (config.replyAddress ++ header config).length =
      config.replyAddress.length + 11 := by
    rw [List.length_append, header_length]
  have hchecked : (config.replyAddress ++ (header config ++ [calcCRC (header config)])).length =
      config.replyAddress.length + 12 := by
    simp
  have hdata : (config.replyAddress ++ (header config ++ [calcCRC (header config)]) ++
      config.data).length = config.replyAddress.length + 12 + config.data.length := by
    rw [List.length_append, hchecked]
  change getTotalSize config = config.replyAddress.length + 12 + config.data.length + 1 at hsize
  rw [build_stores config out hroom, Cursor.start_eq,
    Cursor.after_putAll _ (by simp; omega) (by simp; omega), ok_bind, List.nil_append,
    subspan_header, Cursor.after_put _ (by omega) (by omega), ok_bind, List.append_assoc,
    Cursor.after_putAll _ (by omega) (by omega), ok_bind,
    Cursor.after_put _ (by omega) (by omega), ok_bind]
  simp only [pure_eq_ok, Cursor.after, ← hlen, wire, List.append_assoc]

theorem build_overflow (config : ReadReplyPacketConfig) (out : List UInt8)
    (hroom : getTotalSize config ≤ out.length) (hint : INT_MAX < getTotalSize config) :
    build config out = .error .overflow := by
  have hsize : (config.replyAddress ++ header config).length +
      ([calcCRC (header config)] ++ config.data ++ [calcCRC config.data]).length =
        getTotalSize config := by
    simp only [getTotalSize, List.length_append, header_length, List.length_singleton]
    omega
  rw [build_stores config out hroom]
  apply Cursor.putAll_stages_overflow (hsize.symm ▸ hroom) (hsize.symm ▸ hint)
  rw [subspan_header, Cursor.put_eq]
  simp only [Cursor.put_eq, Cursor.putAll_bind_putAll, List.append_assoc]
  rfl

end ReadReplyPacketBuilder

end SpwRmap
