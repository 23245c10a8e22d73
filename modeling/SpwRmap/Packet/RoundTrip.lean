import SpwRmap.Packet.Builder
import SpwRmap.Packet.Grammar

/-!
# Built packets parse back to their configurations

A wire image written by a builder lies in the grammar, with the configuration's
values at the offsets where the parser reads them. The zero bytes in front of a
reply address make the field a whole number of words; the parser drops them
together with the zeros that the address itself begins with.
-/

namespace SpwRmap

open Span Bytes crc PacketParser Grammar

theorem byteOf_append (xs ys : List UInt8) (i : Nat) :
    byteOf (xs ++ ys) (xs.length + i) = byteOf ys i := by
  simp [byteOf, List.getD_eq_getElem?_getD, List.getElem?_append_right]

/-- The byte behind a known prefix. -/
theorem byteOf_length (xs : List UInt8) (b : UInt8) (ys : List UInt8) :
    byteOf (xs ++ b :: ys) xs.length = b := by
  simp [byteOf]

theorem numberOf_append (xs ys : List UInt8) (i len : Nat) :
    numberOf (xs ++ ys) (xs.length + i) len = numberOf ys i len := by
  rw [numberOf, numberOf, ← List.drop_drop, List.drop_left]

theorem numberOf_toBigEndian (k n : Nat) (ys : List UInt8) :
    numberOf (toBigEndian k n ++ ys) 0 k = n % 256 ^ k := by
  rw [numberOf, List.drop_zero, List.take_left' (toBigEndian_length k n), ofBigEndian_toBigEndian]

theorem trimZeros_replicate_append (n : Nat) (xs : List UInt8) :
    trimZeros (List.replicate n 0x00 ++ xs) = trimZeros xs := by
  rw [trimZeros, trimZeros, List.dropWhile_append_of_pos (by simp)]

/-- The result of a `build` call over `out` is `size`; the call has left the bytes
from `size` on as they were, and the bytes before them parse, from the state
`self`, to a packet with the property `P`. -/
def BuildsAndParses (result : Checked BuildResult) (out : List UInt8) (size : Nat)
    (self : PacketParser) (P : Packet → Prop) : Prop :=
  ∃ written next, result = .ok (.ok size, written) ∧ written.length = out.length ∧
    written.drop size = out.drop size ∧
    parse self (written.take size) = .ok (.Success, next) ∧ P next.packet_

/-- The builders' equations reduce `BuildsAndParses` to parsing the wire image. -/
theorem BuildsAndParses.of_wire {result : Checked BuildResult} {out wire : List UInt8}
    {self : PacketParser} {P : Packet → Prop} (hroom : wire.length ≤ out.length)
    (hbuild : result = .ok (.ok wire.length, wire ++ out.drop wire.length))
    (hparse : ∃ next, parse self wire = .ok (.Success, next) ∧ P next.packet_) :
    BuildsAndParses result out wire.length self P := by
  obtain ⟨next, hparse, hP⟩ := hparse
  refine ⟨_, next, hbuild, ?_, List.drop_left, ?_, hP⟩
  · rw [List.length_append, List.length_drop]
    omega
  · rw [List.take_left]
    exact hparse

theorem BuildsAndParses.not_error {fault : Fault} {out : List UInt8} {size : Nat}
    {self : PacketParser} {P : Packet → Prop} :
    ¬BuildsAndParses (.error fault) out size self P := by
  rintro ⟨written, next, hresult, -⟩
  cases hresult

namespace CommandFields

variable (f : CommandFields)

/-- The size of the reply-address field in whole words. -/
def fieldSize : Nat := (f.replyAddress.length + 3) / 4 * 4

/-- The padded reply address. -/
def replyField : List UInt8 :=
  List.replicate (replyAddressPadding f.replyAddress.length) 0x00 ++ f.replyAddress

theorem replyField_length (hreply : f.replyAddress.length ≤ 12) :
    f.replyField.length = f.fieldSize := by
  rw [replyField, List.length_append, List.length_replicate, replyAddressPadding_eq hreply,
    fieldSize]
  omega

theorem header_eq : f.header =
    [f.targetLogicalAddress, RMAPProtocolIdentifier, f.instruction, f.key] ++
      (f.replyField ++ f.trailer) := by
  simp only [header, replyField, List.append_assoc]

/-- The word count in the instruction byte is a value below four. -/
theorem instruction_eq (hreply : f.replyAddress.length ≤ 12) :
    ∃ k : Fin 4, f.instruction = f.flags ||| UInt8.ofNat k.val ∧ k.val * 4 = f.fieldSize := by
  have hlt : f.fieldSize / 4 < 4 := by
    rw [fieldSize]
    omega
  have hmul : f.fieldSize / 4 * 4 = f.fieldSize := by
    rw [fieldSize]
    omega
  refine ⟨⟨f.fieldSize / 4, hlt⟩, ?_, hmul⟩
  rw [instruction]
  split
  · rw [replyAddressFieldSize_eq hreply, Nat.shiftRight_eq_div_pow]
    rfl
  · rename_i hzero
    have hnil : f.fieldSize / 4 = 0 := by
      rw [fieldSize]
      omega
    simp [hnil]

section Offsets

variable {f} (hreply : f.replyAddress.length ≤ 12) (tail : List UInt8)
include hreply

theorem byteOf_trailer (i : Nat) :
    byteOf (f.header ++ tail) (4 + f.fieldSize + i) = byteOf (f.trailer ++ tail) i := by
  have hlen : ([f.targetLogicalAddress, RMAPProtocolIdentifier, f.instruction, f.key] ++
      f.replyField).length = 4 + f.fieldSize := by
    rw [List.length_append, f.replyField_length hreply]
    rfl
  rw [header_eq, ← List.append_assoc, List.append_assoc, ← hlen, byteOf_append]

theorem numberOf_trailer (i len : Nat) :
    numberOf (f.header ++ tail) (4 + f.fieldSize + i) len = numberOf (f.trailer ++ tail) i len := by
  have hlen : ([f.targetLogicalAddress, RMAPProtocolIdentifier, f.instruction, f.key] ++
      f.replyField).length = 4 + f.fieldSize := by
    rw [List.length_append, f.replyField_length hreply]
    rfl
  rw [header_eq, ← List.append_assoc, List.append_assoc, ← hlen, numberOf_append]

theorem replyField_slice :
    ((f.header ++ tail).drop 4).take f.fieldSize = f.replyField := by
  have hdrop : (f.header ++ tail).drop 4 = f.replyField ++ (f.trailer ++ tail) := by
    simp [header_eq]
  rw [hdrop, List.take_left' (f.replyField_length hreply)]

theorem header_slice : (f.header ++ tail).take (15 + f.fieldSize) = f.header :=
  List.take_left' (f.header_length hreply)

/-- The byte behind the header. -/
theorem byteOf_checksum (b : UInt8) :
    byteOf (f.header ++ b :: tail) (15 + f.fieldSize) = b := by
  have h := byteOf_length f.header b tail
  rw [f.header_length hreply] at h
  exact h

theorem numberOf_dataLength (hdata : f.dataLength < 2 ^ 24) :
    numberOf (f.header ++ tail) (12 + f.fieldSize) 3 = f.dataLength := by
  rw [show 12 + f.fieldSize = 4 + f.fieldSize + 8 by omega, numberOf_trailer hreply tail 8 3]
  have h := numberOf_toBigEndian 3 f.dataLength tail
  rw [Nat.mod_eq_of_lt (by omega)] at h
  simpa [trailer, numberOf, toBigEndian] using h

/-- What a record holds after the header of `f`, whatever follows the header. -/
theorem fieldsAt_header {path : List UInt8} {p : Packet}
    (hsize : replySizeOf (f.header ++ tail) = f.fieldSize) (hdata : f.dataLength < 2 ^ 24)
    (h : CommandFieldsAt path (f.header ++ tail) p) :
    p.targetSpaceWireAddress = path ∧ p.targetLogicalAddress = f.targetLogicalAddress ∧
      p.instruction = f.instruction ∧ p.key = f.key ∧
      p.replyAddress = trimZeros f.replyAddress ∧
      p.initiatorLogicalAddress = f.initiatorLogicalAddress ∧
      p.transactionID = f.transactionID ∧ p.extendedAddress = f.extendedAddress ∧
      p.address = f.address ∧ p.dataLength.toNat = f.dataLength := by
  obtain ⟨hpath, htarget, hinstruction, hkey, hreplyAddress, hinitiator, htransaction, hextended,
    haddress, hlength⟩ := h
  rw [hsize] at hreplyAddress hinitiator htransaction hextended haddress hlength
  -- The offsets of the header are offsets in the part behind the reply address.
  have hid : p.transactionID.toNat = f.transactionID.toNat := by
    rw [htransaction, show 5 + f.fieldSize = 4 + f.fieldSize + 1 by omega,
      numberOf_trailer hreply tail 1 2]
    have h := numberOf_toBigEndian 2 f.transactionID.toNat (f.extendedAddress ::
      (toBigEndian 4 f.address.toNat ++ (toBigEndian 3 f.dataLength ++ tail)))
    have hlt := f.transactionID.toNat_lt
    rw [Nat.mod_eq_of_lt (by omega)] at h
    simpa [trailer, numberOf] using h
  have haddr : p.address.toNat = f.address.toNat := by
    rw [haddress, show 8 + f.fieldSize = 4 + f.fieldSize + 4 by omega,
      numberOf_trailer hreply tail 4 4]
    have h := numberOf_toBigEndian 4 f.address.toNat (toBigEndian 3 f.dataLength ++ tail)
    have hlt := f.address.toNat_lt
    rw [Nat.mod_eq_of_lt (by omega)] at h
    simpa [trailer, numberOf, toBigEndian] using h
  have hlen : p.dataLength.toNat = f.dataLength := by
    rw [hlength, numberOf_dataLength hreply tail hdata]
  refine ⟨hpath, htarget, hinstruction, hkey, ?_, ?_, UInt16.toNat_inj.mp hid, ?_,
    UInt32.toNat_inj.mp haddr, hlen⟩
  · rw [hreplyAddress, replyField_slice hreply tail, replyField, trimZeros_replicate_append]
  · rw [hinitiator, show 4 + f.fieldSize = 4 + f.fieldSize + 0 by omega,
      byteOf_trailer hreply tail 0]
    rfl
  · rw [hextended, show 7 + f.fieldSize = 4 + f.fieldSize + 3 by omega,
      byteOf_trailer hreply tail 3]
    rfl

end Offsets

end CommandFields

/-- What a parser must report for a read command built from `config`. A read
command always asks for a reply and never for verification. -/
structure ReadCommandOf (config : ReadPacketConfig) (p : Packet) : Prop where
  type : p.type = .Read
  targetSpaceWireAddress : p.targetSpaceWireAddress = config.targetSpaceWireAddress
  targetLogicalAddress : p.targetLogicalAddress = config.targetLogicalAddress
  initiatorLogicalAddress : p.initiatorLogicalAddress = config.initiatorLogicalAddress
  key : p.key = config.key
  transactionID : p.transactionID = config.transactionID
  extendedAddress : p.extendedAddress = config.extendedAddress
  address : p.address = config.address
  dataLength : p.dataLength = config.dataLength
  replyAddress : p.replyAddress = trimZeros config.replyAddress
  increment : p.instruction &&& RMAPCommandCode.IncrementAddress ≠ 0 ↔ config.incrementMode = true
  verify : p.instruction &&& RMAPCommandCode.VerifyDataBeforeWrite = 0
  reply : p.instruction &&& RMAPCommandCode.Reply ≠ 0

/-- What a parser must report for a write command built from `config`. -/
structure WriteCommandOf (config : WritePacketConfig) (p : Packet) : Prop where
  type : p.type = .Write
  targetSpaceWireAddress : p.targetSpaceWireAddress = config.targetSpaceWireAddress
  targetLogicalAddress : p.targetLogicalAddress = config.targetLogicalAddress
  initiatorLogicalAddress : p.initiatorLogicalAddress = config.initiatorLogicalAddress
  key : p.key = config.key
  transactionID : p.transactionID = config.transactionID
  extendedAddress : p.extendedAddress = config.extendedAddress
  address : p.address = config.address
  dataLength : p.dataLength.toNat = config.data.length
  data : p.data = config.data
  replyAddress : p.replyAddress = trimZeros config.replyAddress
  increment : p.instruction &&& RMAPCommandCode.IncrementAddress ≠ 0 ↔ config.incrementMode = true
  verify : p.instruction &&& RMAPCommandCode.VerifyDataBeforeWrite ≠ 0 ↔ config.verifyMode = true
  reply : p.instruction &&& RMAPCommandCode.Reply ≠ 0 ↔ config.reply = true

namespace ReadPacketBuilder

variable (config : ReadPacketConfig)

/-- The instruction byte of a read command, for every flag and every word count. -/
theorem instruction_bits (increment : Bool) (k : Fin 4) :
    let instruction := RMAPPacketType.Command ||| RMAPCommandCode.Reply |||
      (if increment then RMAPCommandCode.IncrementAddress else 0) ||| UInt8.ofNat k.val
    instruction.toNat.testBit 6 = true ∧ instruction.toNat.testBit 5 = false ∧
      announcedReplyAddressSize instruction = k.val * 4 ∧
      (instruction &&& RMAPCommandCode.IncrementAddress ≠ 0 ↔ increment = true) ∧
      instruction &&& RMAPCommandCode.VerifyDataBeforeWrite = 0 ∧
      instruction &&& RMAPCommandCode.Reply ≠ 0 := by
  revert increment k
  decide

theorem replySizeOf_header (hreply : config.replyAddress.length ≤ 12) (tail : List UInt8) :
    replySizeOf ((fields config).header ++ tail) = (fields config).fieldSize := by
  obtain ⟨k, hinstruction, hwords⟩ := (fields config).instruction_eq hreply
  obtain ⟨-, -, hsize, -⟩ := instruction_bits config.incrementMode k
  change announcedReplyAddressSize (fields config).instruction = _
  rw [hinstruction, ← hwords]
  exact hsize

theorem accepts_wire (hpath : ∀ b ∈ config.targetSpaceWireAddress, b < 0x20)
    (hlogical : 0x20 ≤ config.targetLogicalAddress) (hreply : config.replyAddress.length ≤ 12) :
    Accepts .Read (wire config) config.targetSpaceWireAddress
      ((fields config).header ++ [calcCRC (fields config).header]) := by
  obtain ⟨k, hinstruction, -⟩ := (fields config).instruction_eq hreply
  obtain ⟨h6, h5, -⟩ := instruction_bits config.incrementMode k
  have hlen : (fields config).header.length = 15 + (fields config).fieldSize :=
    (fields config).header_length hreply
  have hformat : Format .Read ((fields config).header ++ [calcCRC (fields config).header]) := by
    rw [Format, replySizeOf_header config hreply, CommandFields.header_slice hreply,
      CommandFields.byteOf_checksum hreply, List.length_append, hlen]
    change (fields config).instruction.toNat.testBit 6 = true ∧
      (fields config).instruction.toNat.testBit 5 = false ∧ _
    rw [hinstruction]
    exact ⟨h6, h5, by rw [List.length_singleton]; omega, rfl⟩
  refine ⟨rfl, hpath, hlogical, ?_, rfl, hformat⟩
  rw [List.length_append, hlen]
  omega

theorem parse_wire (self : PacketParser)
    (hpath : ∀ b ∈ config.targetSpaceWireAddress, b < 0x20)
    (hlogical : 0x20 ≤ config.targetLogicalAddress) (hreply : config.replyAddress.length ≤ 12)
    (hdata : config.dataLength.toNat < 2 ^ 24) :
    ∃ next, parse self (wire config) = .ok (.Success, next) ∧
      ReadCommandOf config next.packet_ := by
  have haccepts := accepts_wire config hpath hlogical hreply
  refine ⟨_, parse_of_accepts self haccepts, ?_⟩
  obtain ⟨htype, hfields⟩ := decoded_fields self.packet_ haccepts
  obtain ⟨k, hinstruction, -⟩ := (fields config).instruction_eq hreply
  obtain ⟨-, -, -, hincrement, hverify, hreplyBit⟩ := instruction_bits config.incrementMode k
  obtain ⟨h1, h2, h3, h4, h5, h6, h7, h8, h9, h10⟩ := CommandFields.fieldsAt_header hreply _
    (replySizeOf_header config hreply _) hdata hfields
  rw [hinstruction] at h3
  refine ⟨htype, h1, h2, h6, h4, h7, h8, h9, UInt32.toNat_inj.mp h10, h5, ?_, ?_, ?_⟩
  · rw [h3]
    exact hincrement
  · rw [h3]
    exact hverify
  · rw [h3]
    exact hreplyBit

end ReadPacketBuilder

namespace WritePacketBuilder

variable (config : WritePacketConfig)

theorem instruction_bits (reply verify increment : Bool) (k : Fin 4) :
    let instruction := RMAPPacketType.Command ||| RMAPCommandCode.Write |||
      (if reply then RMAPCommandCode.Reply else 0) |||
      (if verify then RMAPCommandCode.VerifyDataBeforeWrite else 0) |||
      (if increment then RMAPCommandCode.IncrementAddress else 0) ||| UInt8.ofNat k.val
    instruction.toNat.testBit 6 = true ∧ instruction.toNat.testBit 5 = true ∧
      announcedReplyAddressSize instruction = k.val * 4 ∧
      (instruction &&& RMAPCommandCode.IncrementAddress ≠ 0 ↔ increment = true) ∧
      (instruction &&& RMAPCommandCode.VerifyDataBeforeWrite ≠ 0 ↔ verify = true) ∧
      (instruction &&& RMAPCommandCode.Reply ≠ 0 ↔ reply = true) := by
  revert reply verify increment k
  decide

theorem replySizeOf_header (hreply : config.replyAddress.length ≤ 12) (tail : List UInt8) :
    replySizeOf ((fields config).header ++ tail) = (fields config).fieldSize := by
  obtain ⟨k, hinstruction, hwords⟩ := (fields config).instruction_eq hreply
  obtain ⟨-, -, hsize, -⟩ :=
    instruction_bits config.reply config.verifyMode config.incrementMode k
  change announcedReplyAddressSize (fields config).instruction = _
  rw [hinstruction, ← hwords]
  exact hsize

/-- The part of a write command behind its path. -/
def body : List UInt8 :=
  (fields config).header ++
    calcCRC (fields config).header :: (config.data ++ [calcCRC config.data])

theorem body_eq : body config =
    ((fields config).header ++ [calcCRC (fields config).header]) ++
      (config.data ++ [calcCRC config.data]) := by
  simp [body]

theorem header_checksum_length (hreply : config.replyAddress.length ≤ 12) :
    ((fields config).header ++ [calcCRC (fields config).header]).length =
      16 + (fields config).fieldSize := by
  rw [List.length_append, (fields config).header_length hreply, List.length_singleton,
    CommandFields.fieldSize]
  omega

theorem data_slice (hreply : config.replyAddress.length ≤ 12) :
    ((body config).drop (16 + (fields config).fieldSize)).take config.data.length =
      config.data := by
  rw [body_eq, List.drop_left' (header_checksum_length config hreply), List.take_left]

theorem byteOf_data_checksum (hreply : config.replyAddress.length ≤ 12) :
    byteOf (body config) (16 + (fields config).fieldSize + config.data.length) =
      calcCRC config.data := by
  rw [body_eq, ← header_checksum_length config hreply, byteOf_append]
  exact byteOf_length config.data _ []

theorem accepts_wire (hpath : ∀ b ∈ config.targetSpaceWireAddress, b < 0x20)
    (hlogical : 0x20 ≤ config.targetLogicalAddress) (hreply : config.replyAddress.length ≤ 12)
    (hdata : config.data.length < 2 ^ 24) :
    Accepts .Write (wire config) config.targetSpaceWireAddress (body config) := by
  obtain ⟨k, hinstruction, -⟩ := (fields config).instruction_eq hreply
  obtain ⟨h6, h5, -⟩ := instruction_bits config.reply config.verifyMode config.incrementMode k
  have hlen : (body config).length = 17 + (fields config).fieldSize + config.data.length := by
    have hheader := (fields config).header_length hreply
    simp only [body, List.length_append, List.length_cons, List.length_nil, hheader,
      CommandFields.fieldSize]
    omega
  have hsize : replySizeOf (body config) = (fields config).fieldSize :=
    replySizeOf_header config hreply _
  have hnumber : numberOf (body config) (12 + (fields config).fieldSize) 3 =
      config.data.length :=
    CommandFields.numberOf_dataLength hreply _ hdata
  have hformat : Format .Write (body config) := by
    rw [Format, hsize, hnumber, data_slice config hreply, byteOf_data_checksum config hreply]
    change (fields config).instruction.toNat.testBit 6 = true ∧
      (fields config).instruction.toNat.testBit 5 = true ∧ _
    rw [hinstruction]
    refine ⟨h6, h5, hlen, ?_, rfl⟩
    rw [body, CommandFields.header_slice hreply, CommandFields.byteOf_checksum hreply]
  refine ⟨?_, hpath, hlogical, by omega, rfl, hformat⟩
  simp [wire, body, CommandFields.wire, fields]

theorem parse_wire (self : PacketParser)
    (hpath : ∀ b ∈ config.targetSpaceWireAddress, b < 0x20)
    (hlogical : 0x20 ≤ config.targetLogicalAddress) (hreply : config.replyAddress.length ≤ 12)
    (hdata : config.data.length < 2 ^ 24) :
    ∃ next, parse self (wire config) = .ok (.Success, next) ∧
      WriteCommandOf config next.packet_ := by
  have haccepts := accepts_wire config hpath hlogical hreply hdata
  refine ⟨_, parse_of_accepts self haccepts, ?_⟩
  obtain ⟨htype, hfields, hbytes⟩ := decoded_fields self.packet_ haccepts
  obtain ⟨k, hinstruction, -⟩ := (fields config).instruction_eq hreply
  obtain ⟨-, -, -, hincrement, hverify, hreplyBit⟩ :=
    instruction_bits config.reply config.verifyMode config.incrementMode k
  have hsize : replySizeOf (body config) = (fields config).fieldSize :=
    replySizeOf_header config hreply _
  obtain ⟨h1, h2, h3, h4, h5, h6, h7, h8, h9, h10⟩ :=
    CommandFields.fieldsAt_header hreply _ hsize hdata hfields
  have hnumber : numberOf (body config) (12 + (fields config).fieldSize) 3 =
      config.data.length :=
    CommandFields.numberOf_dataLength hreply _ hdata
  rw [hsize, hnumber, data_slice config hreply] at hbytes
  rw [hinstruction] at h3
  refine ⟨htype, h1, h2, h6, h4, h7, h8, h9, h10, hbytes, h5, ?_, ?_, ?_⟩
  · rw [h3]
    exact hincrement
  · rw [h3]
    exact hverify
  · rw [h3]
    exact hreplyBit

end WritePacketBuilder

/-- A command that fits the format is built in exactly its announced size and parses back
to its configuration, from any earlier state of the parser, exactly if an `int` counts its
bytes. -/
theorem command_build_parse_iff (ndebug : Bool) (out : List UInt8) (self : PacketParser) :
    (∀ config : ReadPacketConfig, config.dataLength.toNat < 2 ^ 24 →
      (∀ b ∈ config.targetSpaceWireAddress, b < 0x20) → 0x20 ≤ config.targetLogicalAddress →
      config.replyAddress.length ≤ 12 → ReadPacketBuilder.getTotalSize config ≤ out.length →
      (BuildsAndParses (ReadPacketBuilder.build ndebug config out) out
          (ReadPacketBuilder.getTotalSize config) self (ReadCommandOf config) ↔
        ReadPacketBuilder.getTotalSize config ≤ INT_MAX)) ∧
    (∀ config : WritePacketConfig, config.data.length < 2 ^ 24 →
      (∀ b ∈ config.targetSpaceWireAddress, b < 0x20) → 0x20 ≤ config.targetLogicalAddress →
      config.replyAddress.length ≤ 12 → WritePacketBuilder.getTotalSize config ≤ out.length →
      (BuildsAndParses (WritePacketBuilder.build ndebug config out) out
          (WritePacketBuilder.getTotalSize config) self (WriteCommandOf config) ↔
        WritePacketBuilder.getTotalSize config ≤ INT_MAX)) := by
  constructor
  · intro config hdata hpath hlogical hreply hroom
    constructor
    · intro h
      by_contra hint
      rw [ReadPacketBuilder.build_overflow ndebug config out hreply hroom (by omega)] at h
      exact h.not_error
    · intro hint
      have hbuild := ReadPacketBuilder.build_eq ndebug config out hreply hroom hint
      rw [← ReadPacketBuilder.wire_length config hreply] at hroom hbuild ⊢
      exact .of_wire hroom hbuild
        (ReadPacketBuilder.parse_wire config self hpath hlogical hreply hdata)
  · intro config hdata hpath hlogical hreply hroom
    constructor
    · intro h
      by_contra hint
      rw [WritePacketBuilder.build_overflow ndebug config out hreply hroom (by omega)] at h
      exact h.not_error
    · intro hint
      have hbuild := WritePacketBuilder.build_eq ndebug config out hreply hroom hint
      rw [← WritePacketBuilder.wire_length config hreply] at hroom hbuild ⊢
      exact .of_wire hroom hbuild
        (WritePacketBuilder.parse_wire config self hpath hlogical hreply hdata)

/-- A write of three bytes with a reply address that begins with a zero. -/
theorem command_build_parse_iff_write :
    BuildsAndParses
      (WritePacketBuilder.build true
        { targetSpaceWireAddress := [3, 5], replyAddress := [0, 9, 0, 11, 13]
          targetLogicalAddress := 0x34, address := 0x20000000, data := [1, 2, 3] }
        (List.replicate 32 0xFF))
      (List.replicate 32 0xFF) 30 {}
      (WriteCommandOf
        { targetSpaceWireAddress := [3, 5], replyAddress := [0, 9, 0, 11, 13]
          targetLogicalAddress := 0x34, address := 0x20000000, data := [1, 2, 3] }) :=
  ((command_build_parse_iff true (List.replicate 32 0xFF) {}).2
    { targetSpaceWireAddress := [3, 5], replyAddress := [0, 9, 0, 11, 13]
      targetLogicalAddress := 0x34, address := 0x20000000, data := [1, 2, 3] }
    (by decide) (by simp) (by decide) (by decide) (by decide)).mpr (by decide)

/-- A read command behind a path of `n` bytes. -/
def longPath (n : Nat) : ReadPacketConfig :=
  { targetSpaceWireAddress := List.replicate n 0x03, targetLogicalAddress := 0x34, dataLength := 4 }

theorem longPath_overflow (self : PacketParser) {n : Nat} (hn : INT_MAX < n) :
    (longPath n).dataLength.toNat < 2 ^ 24 ∧
      (∀ b ∈ (longPath n).targetSpaceWireAddress, b < 0x20) ∧
      0x20 ≤ (longPath n).targetLogicalAddress ∧ (longPath n).replyAddress.length ≤ 12 ∧
      ReadPacketBuilder.getTotalSize (longPath n) ≤
        (List.replicate (n + 16) (0xFF : UInt8)).length ∧
      ReadPacketBuilder.build true (longPath n) (List.replicate (n + 16) 0xFF) =
        .error .overflow ∧
      ¬BuildsAndParses (ReadPacketBuilder.build true (longPath n) (List.replicate (n + 16) 0xFF))
        (List.replicate (n + 16) 0xFF) (ReadPacketBuilder.getTotalSize (longPath n)) self
        (ReadCommandOf (longPath n)) := by
  have hsize : ReadPacketBuilder.getTotalSize (longPath n) = n + 16 := by
    simp [ReadPacketBuilder.getTotalSize, longPath]
  have hpath : ∀ b ∈ (longPath n).targetSpaceWireAddress, b < 0x20 := by
    intro b hb
    rw [List.eq_of_mem_replicate hb]
    decide
  have hroom : ReadPacketBuilder.getTotalSize (longPath n) ≤
      (List.replicate (n + 16) (0xFF : UInt8)).length := by
    rw [hsize, List.length_replicate]
  have hbuild := ReadPacketBuilder.build_overflow true (longPath n)
    (List.replicate (n + 16) (0xFF : UInt8)) (Nat.zero_le _) hroom (by omega)
  have hdata : (4 : UInt32).toNat < 2 ^ 24 := by decide
  have hlogical : (0x20 : UInt8) ≤ 0x34 := by decide
  refine ⟨hdata, hpath, hlogical, Nat.zero_le _, hroom, hbuild, ?_⟩
  rw [hbuild]
  exact BuildsAndParses.not_error

/-- A path of `2 ^ 31` bytes, in a span with room for the packet. -/
theorem command_build_longPath :
    (longPath (2 ^ 31)).dataLength.toNat < 2 ^ 24 ∧
      (∀ b ∈ (longPath (2 ^ 31)).targetSpaceWireAddress, b < 0x20) ∧
      0x20 ≤ (longPath (2 ^ 31)).targetLogicalAddress ∧
      (longPath (2 ^ 31)).replyAddress.length ≤ 12 ∧
      ReadPacketBuilder.getTotalSize (longPath (2 ^ 31)) ≤
        (List.replicate (2 ^ 31 + 16) (0xFF : UInt8)).length ∧
      ReadPacketBuilder.build true (longPath (2 ^ 31)) (List.replicate (2 ^ 31 + 16) 0xFF) =
        .error .overflow ∧
      ¬BuildsAndParses
        (ReadPacketBuilder.build true (longPath (2 ^ 31)) (List.replicate (2 ^ 31 + 16) 0xFF))
        (List.replicate (2 ^ 31 + 16) 0xFF) (ReadPacketBuilder.getTotalSize (longPath (2 ^ 31)))
        {} (ReadCommandOf (longPath (2 ^ 31))) :=
  longPath_overflow {} (Nat.sub_lt (by decide) (by decide))

namespace ReplyFields

variable (f : ReplyFields)

theorem numberOf_transactionID (tail : List UInt8) :
    numberOf (f.header ++ tail) 5 2 = f.transactionID.toNat := by
  have h := numberOf_toBigEndian 2 f.transactionID.toNat tail
  have hlt := f.transactionID.toNat_lt
  rw [Nat.mod_eq_of_lt (by omega)] at h
  simpa [header, numberOf] using h

/-- What a record holds after the header of `f`. -/
theorem fieldsAt_header {path body tail : List UInt8} {p : Packet}
    (hbody : body = f.header ++ tail) (h : ReplyFieldsAt path body p) :
    p.replyAddress = path ∧ p.initiatorLogicalAddress = f.initiatorLogicalAddress ∧
      p.instruction = f.instruction ∧ p.status = f.status ∧
      p.targetLogicalAddress = f.targetLogicalAddress ∧ p.transactionID = f.transactionID := by
  subst hbody
  obtain ⟨hpath, hinitiator, hinstruction, hstatus, htarget, hid⟩ := h
  rw [numberOf_transactionID] at hid
  exact ⟨hpath, hinitiator, hinstruction, hstatus, htarget, UInt16.toNat_inj.mp hid⟩

end ReplyFields

/-- What a parser must report for a write reply built from `config`. -/
structure WriteReplyOf (config : WriteReplyPacketConfig) (p : Packet) : Prop where
  type : p.type = .WriteReply
  replyAddress : p.replyAddress = config.replyAddress
  initiatorLogicalAddress : p.initiatorLogicalAddress = config.initiatorLogicalAddress
  status : p.status = config.status
  targetLogicalAddress : p.targetLogicalAddress = config.targetLogicalAddress
  transactionID : p.transactionID = config.transactionID
  increment : p.instruction &&& RMAPCommandCode.IncrementAddress ≠ 0 ↔ config.incrementMode = true
  verify : p.instruction &&& RMAPCommandCode.VerifyDataBeforeWrite ≠ 0 ↔ config.verifyMode = true

/-- What a parser must report for a read reply built from `config`. -/
structure ReadReplyOf (config : ReadReplyPacketConfig) (p : Packet) : Prop where
  type : p.type = .ReadReply
  replyAddress : p.replyAddress = config.replyAddress
  initiatorLogicalAddress : p.initiatorLogicalAddress = config.initiatorLogicalAddress
  status : p.status = config.status
  targetLogicalAddress : p.targetLogicalAddress = config.targetLogicalAddress
  transactionID : p.transactionID = config.transactionID
  increment : p.instruction &&& RMAPCommandCode.IncrementAddress ≠ 0 ↔ config.incrementMode = true
  dataLength : p.dataLength.toNat = config.data.length
  data : p.data = config.data

namespace WriteReplyPacketBuilder

variable (config : WriteReplyPacketConfig)

theorem instruction_bits (verify increment : Bool) :
    let instruction := RMAPPacketType.Reply ||| RMAPCommandCode.Write ||| RMAPCommandCode.Reply |||
      (if verify then RMAPCommandCode.VerifyDataBeforeWrite else 0) |||
      (if increment then RMAPCommandCode.IncrementAddress else 0)
    instruction.toNat.testBit 6 = false ∧ instruction.toNat.testBit 5 = true ∧
      (instruction &&& RMAPCommandCode.IncrementAddress ≠ 0 ↔ increment = true) ∧
      (instruction &&& RMAPCommandCode.VerifyDataBeforeWrite ≠ 0 ↔ verify = true) := by
  revert verify increment
  decide

theorem accepts_wire (hpath : ∀ b ∈ config.replyAddress, b < 0x20)
    (hlogical : 0x20 ≤ config.initiatorLogicalAddress) :
    Accepts .WriteReply (wire config) config.replyAddress
      ((fields config).header ++ [calcCRC (fields config).header]) := by
  obtain ⟨h6, h5, -⟩ := instruction_bits config.verifyMode config.incrementMode
  have hcrc : byteOf ((fields config).header ++ [calcCRC (fields config).header]) 7 =
      calcCRC (fields config).header := byteOf_length (fields config).header _ []
  have hformat :
      Format .WriteReply ((fields config).header ++ [calcCRC (fields config).header]) := by
    refine ⟨h6, h5, by simp, ?_⟩
    rw [hcrc, List.take_left' (fields config).header_length]
  exact ⟨rfl, hpath, hlogical, by simp, rfl, hformat⟩

theorem parse_wire (self : PacketParser) (hpath : ∀ b ∈ config.replyAddress, b < 0x20)
    (hlogical : 0x20 ≤ config.initiatorLogicalAddress) :
    ∃ next, parse self (wire config) = .ok (.Success, next) ∧
      WriteReplyOf config next.packet_ := by
  have haccepts := accepts_wire config hpath hlogical
  refine ⟨_, parse_of_accepts self haccepts, ?_⟩
  obtain ⟨htype, hfields⟩ := decoded_fields self.packet_ haccepts
  obtain ⟨-, -, hincrement, hverify⟩ := instruction_bits config.verifyMode config.incrementMode
  obtain ⟨h1, h2, h3, h4, h5, h6⟩ := (fields config).fieldsAt_header rfl hfields
  refine ⟨htype, h1, h2, h4, h5, h6, ?_, ?_⟩
  · rw [h3]
    exact hincrement
  · rw [h3]
    exact hverify

end WriteReplyPacketBuilder

namespace ReadReplyPacketBuilder

variable (config : ReadReplyPacketConfig)

theorem instruction_bits (increment : Bool) :
    let instruction := RMAPPacketType.Reply ||| RMAPCommandCode.Reply |||
      (if increment then RMAPCommandCode.IncrementAddress else 0)
    instruction.toNat.testBit 6 = false ∧ instruction.toNat.testBit 5 = false ∧
      (instruction &&& RMAPCommandCode.IncrementAddress ≠ 0 ↔ increment = true) := by
  revert increment
  decide

/-- The part of a read reply behind its path. -/
def body : List UInt8 :=
  header config ++ [calcCRC (header config)] ++ (config.data ++ [calcCRC config.data])

theorem header_checksum_length :
    (header config ++ [calcCRC (header config)]).length = 12 := by
  simp

theorem numberOf_dataLength (hdata : config.data.length < 2 ^ 24) :
    numberOf (body config) 8 3 = config.data.length := by
  have h := numberOf_toBigEndian 3 config.data.length
    (calcCRC (header config) :: (config.data ++ [calcCRC config.data]))
  rw [Nat.mod_eq_of_lt (by omega)] at h
  simpa [body, header, ReplyFields.header, numberOf, toBigEndian] using h

theorem data_slice : ((body config).drop 12).take config.data.length = config.data := by
  rw [body, List.drop_left' (header_checksum_length config), List.take_left]

theorem accepts_wire (hpath : ∀ b ∈ config.replyAddress, b < 0x20)
    (hlogical : 0x20 ≤ config.initiatorLogicalAddress) (hdata : config.data.length < 2 ^ 24) :
    Accepts .ReadReply (wire config) config.replyAddress (body config) := by
  obtain ⟨h6, h5, -⟩ := instruction_bits config.incrementMode
  have hlen : (body config).length = 13 + config.data.length := by
    simp [body]
    omega
  have hcrc : byteOf (body config) 11 = calcCRC (header config) := by
    have h := byteOf_length (header config) (calcCRC (header config))
      (config.data ++ [calcCRC config.data])
    rw [header_length] at h
    rw [body, List.append_assoc]
    exact h
  have hdataCrc : byteOf (body config) (12 + config.data.length) = calcCRC config.data := by
    rw [body, ← header_checksum_length config, byteOf_append]
    exact byteOf_length config.data _ []
  have hheader : (body config).take 11 = header config := by
    rw [body, List.append_assoc, List.take_left' (header_length config)]
  have hformat : Format .ReadReply (body config) := by
    rw [Format, numberOf_dataLength config hdata, data_slice, hcrc, hdataCrc, hheader]
    exact ⟨h6, h5, hlen, rfl, rfl⟩
  exact ⟨rfl, hpath, hlogical, by omega, rfl, hformat⟩

theorem parse_wire (self : PacketParser) (hpath : ∀ b ∈ config.replyAddress, b < 0x20)
    (hlogical : 0x20 ≤ config.initiatorLogicalAddress) (hdata : config.data.length < 2 ^ 24) :
    ∃ next, parse self (wire config) = .ok (.Success, next) ∧
      ReadReplyOf config next.packet_ := by
  have haccepts := accepts_wire config hpath hlogical hdata
  refine ⟨_, parse_of_accepts self haccepts, ?_⟩
  obtain ⟨htype, hfields, hlength, hbytes⟩ := decoded_fields self.packet_ haccepts
  obtain ⟨-, -, hincrement⟩ := instruction_bits config.incrementMode
  rw [numberOf_dataLength config hdata] at hlength hbytes
  rw [data_slice] at hbytes
  have hsplit : body config = (fields config).header ++
      (0x00 :: toBigEndian 3 config.data.length ++
        ([calcCRC (header config)] ++ (config.data ++ [calcCRC config.data]))) := by
    simp [body, header]
  obtain ⟨h1, h2, h3, h4, h5, h6⟩ := (fields config).fieldsAt_header hsplit hfields
  refine ⟨htype, h1, h2, h4, h5, h6, ?_, hlength, hbytes⟩
  rw [h3]
  exact hincrement

end ReadReplyPacketBuilder

/-- A reply is built in exactly its announced size and parses back to its configuration,
from any earlier state of the parser, exactly if an `int` counts its bytes. -/
theorem reply_build_parse_iff (out : List UInt8) (self : PacketParser) :
    (∀ config : ReadReplyPacketConfig, config.data.length < 2 ^ 24 →
      (∀ b ∈ config.replyAddress, b < 0x20) → 0x20 ≤ config.initiatorLogicalAddress →
      ReadReplyPacketBuilder.getTotalSize config ≤ out.length →
      (BuildsAndParses (ReadReplyPacketBuilder.build config out) out
          (ReadReplyPacketBuilder.getTotalSize config) self (ReadReplyOf config) ↔
        ReadReplyPacketBuilder.getTotalSize config ≤ INT_MAX)) ∧
    (∀ config : WriteReplyPacketConfig,
      (∀ b ∈ config.replyAddress, b < 0x20) → 0x20 ≤ config.initiatorLogicalAddress →
      WriteReplyPacketBuilder.getTotalSize config ≤ out.length →
      (BuildsAndParses (WriteReplyPacketBuilder.build config out) out
          (WriteReplyPacketBuilder.getTotalSize config) self (WriteReplyOf config) ↔
        WriteReplyPacketBuilder.getTotalSize config ≤ INT_MAX)) := by
  constructor
  · intro config hdata hpath hlogical hroom
    constructor
    · intro h
      by_contra hint
      rw [ReadReplyPacketBuilder.build_overflow config out hroom (by omega)] at h
      exact h.not_error
    · intro hint
      have hbuild := ReadReplyPacketBuilder.build_eq config out hroom hint
      rw [← ReadReplyPacketBuilder.wire_length config] at hroom hbuild ⊢
      exact .of_wire hroom hbuild
        (ReadReplyPacketBuilder.parse_wire config self hpath hlogical hdata)
  · intro config hpath hlogical hroom
    constructor
    · intro h
      by_contra hint
      rw [WriteReplyPacketBuilder.build_overflow config out hroom (by omega)] at h
      exact h.not_error
    · intro hint
      have hbuild := WriteReplyPacketBuilder.build_eq config out hroom hint
      rw [← WriteReplyPacketBuilder.wire_length config] at hroom hbuild ⊢
      exact .of_wire hroom hbuild (WriteReplyPacketBuilder.parse_wire config self hpath hlogical)

/-- A read reply without data. -/
theorem reply_build_parse_iff_empty :
    BuildsAndParses
      (ReadReplyPacketBuilder.build { replyAddress := [1, 2] } (List.replicate 20 0xFF))
      (List.replicate 20 0xFF) 15 {} (ReadReplyOf { replyAddress := [1, 2] }) :=
  ((reply_build_parse_iff (List.replicate 20 0xFF) {}).1 { replyAddress := [1, 2] }
    (by decide) (by simp) (by decide) (by decide)).mpr (by decide)

/-- A write reply behind a reply address of `n` bytes. -/
def longReplyPath (n : Nat) : WriteReplyPacketConfig := { replyAddress := List.replicate n 0x03 }

theorem longReplyPath_overflow (self : PacketParser) {n : Nat} (hn : INT_MAX < n) :
    (∀ b ∈ (longReplyPath n).replyAddress, b < 0x20) ∧
      0x20 ≤ (longReplyPath n).initiatorLogicalAddress ∧
      WriteReplyPacketBuilder.getTotalSize (longReplyPath n) ≤
        (List.replicate (n + 8) (0xFF : UInt8)).length ∧
      WriteReplyPacketBuilder.build (longReplyPath n) (List.replicate (n + 8) 0xFF) =
        .error .overflow ∧
      ¬BuildsAndParses
        (WriteReplyPacketBuilder.build (longReplyPath n) (List.replicate (n + 8) 0xFF))
        (List.replicate (n + 8) 0xFF) (WriteReplyPacketBuilder.getTotalSize (longReplyPath n))
        self (WriteReplyOf (longReplyPath n)) := by
  have hsize : WriteReplyPacketBuilder.getTotalSize (longReplyPath n) = n + 8 := by
    simp [WriteReplyPacketBuilder.getTotalSize, longReplyPath]
  have hpath : ∀ b ∈ (longReplyPath n).replyAddress, b < 0x20 := by
    intro b hb
    rw [List.eq_of_mem_replicate hb]
    decide
  have hroom : WriteReplyPacketBuilder.getTotalSize (longReplyPath n) ≤
      (List.replicate (n + 8) (0xFF : UInt8)).length := by
    rw [hsize, List.length_replicate]
  have hbuild := WriteReplyPacketBuilder.build_overflow (longReplyPath n)
    (List.replicate (n + 8) (0xFF : UInt8)) hroom (by omega)
  have hlogical : (0x20 : UInt8) ≤ 0xFE := by decide
  refine ⟨hpath, hlogical, hroom, hbuild, ?_⟩
  rw [hbuild]
  exact BuildsAndParses.not_error

/-- A reply address of `2 ^ 31` bytes, in a span with room for the packet. -/
theorem reply_build_longPath :
    (∀ b ∈ (longReplyPath (2 ^ 31)).replyAddress, b < 0x20) ∧
      0x20 ≤ (longReplyPath (2 ^ 31)).initiatorLogicalAddress ∧
      WriteReplyPacketBuilder.getTotalSize (longReplyPath (2 ^ 31)) ≤
        (List.replicate (2 ^ 31 + 8) (0xFF : UInt8)).length ∧
      WriteReplyPacketBuilder.build (longReplyPath (2 ^ 31)) (List.replicate (2 ^ 31 + 8) 0xFF) =
        .error .overflow ∧
      ¬BuildsAndParses
        (WriteReplyPacketBuilder.build (longReplyPath (2 ^ 31))
          (List.replicate (2 ^ 31 + 8) 0xFF))
        (List.replicate (2 ^ 31 + 8) 0xFF)
        (WriteReplyPacketBuilder.getTotalSize (longReplyPath (2 ^ 31))) {}
        (WriteReplyOf (longReplyPath (2 ^ 31))) :=
  longReplyPath_overflow {} (Nat.sub_lt (by decide) (by decide))

end SpwRmap
