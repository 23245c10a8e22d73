import SpwRmap.Lib.Outcome
import SpwRmap.Packet.RoundTrip

/-!
# The command builders and long reply addresses

The instruction byte counts the 4-byte words of the reply-address field in two bits,
so the field has at most twelve bytes. `build` asserts that the address fits; a
release build goes on without the assertion. With 13 to 16 bytes the word count
overflows into the increment bit. With more, the mask makes the field shorter than
the address, and the number of padding bytes wraps around. A packet of `2 ^ 31` bytes or
more makes the index overflow.

`BuildsCommand` says what a caller may rely on. It holds exactly when the address
fits and an `int` counts the packet, or the output span is too small for the packet.
-/

namespace SpwRmap

open Span Bytes Outcome crc

/-- A command up to its header checksum, as the fields describe it: the instruction
byte has the flags and the number of words of the reply-address field behind it. -/
def CommandFields.LaidOut (f : CommandFields) (command : List UInt8) : Prop :=
  ∃ (instruction : UInt8) (field header : List UInt8),
    instruction &&& 0xFC = f.flags ∧
    4 * (instruction &&& 0x03).toNat = field.length ∧
    (∃ padding, field = List.replicate padding 0x00 ++ f.replyAddress) ∧
    header = [f.targetLogicalAddress, RMAPProtocolIdentifier, instruction, f.key] ++
      (field ++ f.trailer) ∧
    command = f.targetSpaceWireAddress ++ (header ++ [calcCRC header])

/-- `build` over `out` reports an error, or returns `size` and has written a command at
the indices below `size` and nothing elsewhere. A failed assertion or a write outside
`out` is neither. -/
def BuildsCommand (result : Checked BuildResult) (out : List UInt8) (size : Nat)
    (IsCommand : List UInt8 → Prop) : Prop :=
  match result with
  | .error _ => False
  | .ok (.error _, _) => True
  | .ok (.ok returned, written) =>
      returned = size ∧ ∃ command, IsCommand command ∧ command.length = size ∧
        written = command ++ out.drop size

namespace CommandFields

variable {f : CommandFields}

/-- Two bits count at most three words. -/
theorem LaidOut.replyAddress_le {command : List UInt8} (h : f.LaidOut command) :
    f.replyAddress.length ≤ 12 := by
  obtain ⟨instruction, field, header, -, hwords, ⟨padding, rfl⟩, -, -⟩ := h
  have hbits : (instruction &&& 0x03).toNat ≤ 3 := by
    rw [UInt8.toNat_and]
    exact Nat.and_le_right
  rw [List.length_append] at hwords
  omega

/-- The instruction byte of an address that fits. -/
theorem instruction_split (hflags : f.flags &&& 0x03 = 0)
    (hreply : f.replyAddress.length ≤ 12) :
    f.instruction &&& 0xFC = f.flags ∧
      4 * (f.instruction &&& 0x03).toNat = f.replyField.length := by
  obtain ⟨k, hinstruction, hwords⟩ := f.instruction_eq hreply
  have hbits : ∀ (flags : Fin 256) (k : Fin 4), UInt8.ofFin flags &&& 0x03 = 0 →
      (UInt8.ofFin flags ||| UInt8.ofNat k.val) &&& 0xFC = UInt8.ofFin flags ∧
        ((UInt8.ofFin flags ||| UInt8.ofNat k.val) &&& 0x03).toNat = k.val := by
    decide +kernel
  obtain ⟨hhigh, hlow⟩ := hbits f.flags.toFin k hflags
  rw [hinstruction, f.replyField_length hreply, ← hwords]
  refine ⟨hhigh, ?_⟩
  rw [show ((f.flags ||| UInt8.ofNat k.val) &&& 0x03).toNat = k.val from hlow, Nat.mul_comm]

theorem laidOut_wire (hflags : f.flags &&& 0x03 = 0) (hreply : f.replyAddress.length ≤ 12) :
    f.LaidOut f.wire := by
  obtain ⟨hhigh, hwords⟩ := f.instruction_split hflags hreply
  exact ⟨f.instruction, f.replyField, f.header, hhigh, hwords, ⟨_, rfl⟩, f.header_eq, rfl⟩

end CommandFields

namespace ReadPacketBuilder

/-- The configured flags leave the two bits of the word count clear. -/
theorem flags_low (config : ReadPacketConfig) : (fields config).flags &&& 0x03 = 0 := by
  have h : ∀ increment : Bool, (RMAPPacketType.Command ||| RMAPCommandCode.Reply |||
      (if increment then RMAPCommandCode.IncrementAddress else 0)) &&& 0x03 = 0 := by
    decide
  exact h config.incrementMode

theorem buildsCommand_of_reply_le (ndebug : Bool) (config : ReadPacketConfig) (out : List UInt8)
    (hreply : config.replyAddress.length ≤ 12) (hint : getTotalSize config ≤ INT_MAX) :
    BuildsCommand (build ndebug config out) out (getTotalSize config) (fields config).LaidOut := by
  by_cases hroom : out.length < getTotalSize config
  · rw [build, if_pos hroom]
    trivial
  · rw [build_eq ndebug config out hreply (by omega) hint]
    exact ⟨rfl, wire config, CommandFields.laidOut_wire (flags_low config) hreply,
      wire_length config hreply, rfl⟩

/-- Only a span that is too small makes `build` report an error. -/
theorem replyAddress_le_of_buildsCommand {ndebug : Bool} {config : ReadPacketConfig}
    {out : List UInt8} (hroom : ¬ out.length < getTotalSize config)
    (h : BuildsCommand (build ndebug config out) out (getTotalSize config)
      (fields config).LaidOut) : config.replyAddress.length ≤ 12 := by
  rw [build, if_neg hroom] at h
  cases hput : putCommandHeader ndebug (fields config) out with
  | error fault =>
      rw [hput] at h
      exact h.elim
  | ok c =>
      rw [hput] at h
      obtain ⟨-, command, hcommand, -⟩ := h
      exact hcommand.replyAddress_le

theorem buildsCommand_iff (ndebug : Bool) (config : ReadPacketConfig) (out : List UInt8) :
    BuildsCommand (build ndebug config out) out (getTotalSize config) (fields config).LaidOut ↔
      out.length < getTotalSize config ∨
        (config.replyAddress.length ≤ 12 ∧ getTotalSize config ≤ INT_MAX) := by
  constructor
  · intro h
    by_cases hroom : out.length < getTotalSize config
    · exact .inl hroom
    · have hreply := replyAddress_le_of_buildsCommand hroom h
      refine .inr ⟨hreply, ?_⟩
      by_contra hint
      rw [build_overflow ndebug config out hreply (by omega) (by omega)] at h
      exact h.elim
  · rintro (hroom | ⟨hreply, hint⟩)
    · rw [build, if_pos hroom]
      trivial
    · exact buildsCommand_of_reply_le ndebug config out hreply hint

end ReadPacketBuilder

namespace WritePacketBuilder

/-- A write command: the part up to the header checksum, the data and its checksum. -/
def LaidOut (config : WritePacketConfig) (command : List UInt8) : Prop :=
  ∃ front, (fields config).LaidOut front ∧
    command = front ++ (config.data ++ [calcCRC config.data])

theorem flags_low (config : WritePacketConfig) : (fields config).flags &&& 0x03 = 0 := by
  have h : ∀ reply verify increment : Bool, (RMAPPacketType.Command ||| RMAPCommandCode.Write |||
      (if reply then RMAPCommandCode.Reply else 0) |||
      (if verify then RMAPCommandCode.VerifyDataBeforeWrite else 0) |||
      (if increment then RMAPCommandCode.IncrementAddress else 0)) &&& 0x03 = 0 := by
    decide
  exact h config.reply config.verifyMode config.incrementMode

theorem buildsCommand_of_reply_le (ndebug : Bool) (config : WritePacketConfig)
    (out : List UInt8) (hreply : config.replyAddress.length ≤ 12)
    (hint : getTotalSize config ≤ INT_MAX) :
    BuildsCommand (build ndebug config out) out (getTotalSize config) (LaidOut config) := by
  by_cases hroom : out.length < getTotalSize config
  · rw [build, if_pos hroom]
    trivial
  · rw [build_eq ndebug config out hreply (by omega) hint]
    have hfront := CommandFields.laidOut_wire (flags_low config) hreply
    exact ⟨rfl, wire config, ⟨_, hfront, rfl⟩, wire_length config hreply, rfl⟩

theorem replyAddress_le_of_buildsCommand {ndebug : Bool} {config : WritePacketConfig}
    {out : List UInt8} (hroom : ¬ out.length < getTotalSize config)
    (h : BuildsCommand (build ndebug config out) out (getTotalSize config) (LaidOut config)) :
    config.replyAddress.length ≤ 12 := by
  rw [build, if_neg hroom] at h
  -- After the header, the data and its checksum may still run out of the span.
  have hrest : Yields (fun _ => True) (fun r => ∃ size, r.1 = .ok size)
      (do
        let c ← putCommandHeader ndebug (fields config) out
        let c ← c.putAll config.data
        let c ← c.put (calcCRC config.data)
        return (Except.ok c.head, c.out) : Checked BuildResult) := by
    apply Yields.any.bind
    intro header _
    apply Yields.any.bind
    intro data _
    apply Yields.any.bind
    intro checksum _
    exact ⟨checksum.head, rfl⟩
  generalize (do
      let c ← putCommandHeader ndebug (fields config) out
      let c ← c.putAll config.data
      let c ← c.put (calcCRC config.data)
      return (Except.ok c.head, c.out) : Checked BuildResult) = result at h hrest
  cases result with
  | error fault => exact h.elim
  | ok built =>
      obtain ⟨res, written⟩ := built
      obtain ⟨size, rfl⟩ := hrest
      obtain ⟨-, command, ⟨front, hfront, -⟩, -⟩ := h
      exact hfront.replyAddress_le

theorem buildsCommand_iff (ndebug : Bool) (config : WritePacketConfig) (out : List UInt8) :
    BuildsCommand (build ndebug config out) out (getTotalSize config) (LaidOut config) ↔
      out.length < getTotalSize config ∨
        (config.replyAddress.length ≤ 12 ∧ getTotalSize config ≤ INT_MAX) := by
  constructor
  · intro h
    by_cases hroom : out.length < getTotalSize config
    · exact .inl hroom
    · have hreply := replyAddress_le_of_buildsCommand hroom h
      refine .inr ⟨hreply, ?_⟩
      by_contra hint
      rw [build_overflow ndebug config out hreply (by omega) (by omega)] at h
      exact h.elim
  · rintro (hroom | ⟨hreply, hint⟩)
    · rw [build, if_pos hroom]
      trivial
    · exact buildsCommand_of_reply_le ndebug config out hreply hint

end WritePacketBuilder

/-- Both command builders keep to the span, to `getTotalSize` and to the layout exactly
when the reply address has at most twelve bytes and an `int` counts the packet, or the span
is too small. -/
theorem build_command_iff (ndebug : Bool) (out : List UInt8) :
    (∀ config : ReadPacketConfig,
      BuildsCommand (ReadPacketBuilder.build ndebug config out) out
          (ReadPacketBuilder.getTotalSize config) (ReadPacketBuilder.fields config).LaidOut ↔
        out.length < ReadPacketBuilder.getTotalSize config ∨
          (config.replyAddress.length ≤ 12 ∧
            ReadPacketBuilder.getTotalSize config ≤ INT_MAX)) ∧
    ∀ config : WritePacketConfig,
      BuildsCommand (WritePacketBuilder.build ndebug config out) out
          (WritePacketBuilder.getTotalSize config) (WritePacketBuilder.LaidOut config) ↔
        out.length < WritePacketBuilder.getTotalSize config ∨
          (config.replyAddress.length ≤ 12 ∧
            WritePacketBuilder.getTotalSize config ≤ INT_MAX) := by
  constructor
  · intro config
    exact ReadPacketBuilder.buildsCommand_iff ndebug config out
  · intro config
    exact WritePacketBuilder.buildsCommand_iff ndebug config out

/-- A reply address of 13 bytes, without assertions: the packet fills its 32 bytes, but
its instruction byte announces no reply address and an increment that was not asked for. -/
theorem build_longReply :
    (∃ written, ReadPacketBuilder.build true
        { replyAddress := List.replicate 13 0x01, incrementMode := false
          targetLogicalAddress := 0x34 }
        (List.replicate 32 0xFF) = .ok (.ok 32, written) ∧ written.getD 2 0 = 0x4C) ∧
    ¬ BuildsCommand
      (ReadPacketBuilder.build true
        { replyAddress := List.replicate 13 0x01, incrementMode := false
          targetLogicalAddress := 0x34 }
        (List.replicate 32 0xFF))
      (List.replicate 32 0xFF) 32
      (ReadPacketBuilder.fields
        { replyAddress := List.replicate 13 0x01, incrementMode := false
          targetLogicalAddress := 0x34 }).LaidOut := by
  refine ⟨⟨_, rfl, rfl⟩, ?_⟩
  intro h
  have hle := ReadPacketBuilder.replyAddress_le_of_buildsCommand (by decide) h
  contradiction

end SpwRmap
