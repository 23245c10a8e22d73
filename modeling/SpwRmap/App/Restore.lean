import SpwRmap.App.Options
import SpwRmap.App.Speedtest

/-!
# Saving and restoring a memory

`performRead` prints the bytes it has read, each in the spelling that options are given in. Put
behind `--data`, they are the data of a write. So what one run of the program prints of the
memory of a target, a later one puts back, as far as the three bytes for the length of a read
go.
-/

namespace SpwRmap.App

open Arguments Transition

/-- The command of `performRead` or `performWrite`. -/
def Options.command (opts : Options) : Option Command := do
  let address ← opts.address
  if opts.type = readText then
    let length ← opts.length
    return .read address (UInt32.ofNat length.toNat)
  else
    return .write address opts.data

/-- What `performRead` prints in front of the bytes. -/
def readHeader (address : UInt32) (size : Nat) : Text :=
  ['R', 'e', 'a', 'd', ' '] ++ Nat.toDigits 10 size ++
    [' ', 'b', 'y', 't', 'e', 's', ' ', 'f', 'r', 'o', 'm', ' '] ++ printedAddress address ++ [':']

/-- What `performRead` prints. -/
def readReport (address : UInt32) (buffer : List UInt8) : Text :=
  readHeader address buffer.length ++ buffer.flatMap (fun byte => ' ' :: printedByte byte) ++
    ['\n']

/-- `--data` -/
def dataText : Text := '-' :: '-' :: OptionName.data.text

theorem blank_notMem_printedByte (byte : UInt8) : ' ' ∉ printedByte byte := by
  obtain ⟨values, hdigits, -⟩ :=
    Numeral.digits_printed (by decide) (le_refl 16) 2 byte.toNat
  have hdigit : ' ' ∉ Numeral.printed 16 2 byte.toNat := fun hmem =>
    absurd (hdigits.isSome_of_mem hmem) (by decide)
  simp [printedByte, hdigit]

theorem render_data (opts : Options) (hdata : opts.data = []) {buffer : List UInt8}
    (hne : buffer ≠ []) : Options.render { opts with data := buffer } =
      opts.render ++ dataText :: buffer.map printedByte := by
  simp [Options.render, Options.settings, hdata, hne, Setting.render, Setting.name, Setting.values,
    dataText]

theorem writeText_ne_readText : writeText ≠ readText := by decide

/-- Options of a read of this range, without data. -/
structure Options.Saves (opts : Options) (memory_address : UInt32) (size : UInt64) : Prop where
  complete : opts.Complete
  type : opts.type = readText
  address : opts.address = some memory_address
  length : opts.length = some size
  pos : size ≠ 0
  le : size ≤ 0xFFFFFFFF
  data : opts.data = []
  ip : opts.ip ≠ helpText
  port : opts.port ≠ helpText

namespace Options.Saves

variable {opts : Options} {address : UInt32} {length : UInt64}

theorem command_eq (h : opts.Saves address length) :
    opts.command = some (.read address (UInt32.ofNat length.toNat)) := by
  simp [command, h.address, h.type, h.length]

/-- The same options for a write of what was read. -/
theorem start_write (h : opts.Saves address length) {buffer : List UInt8} (hne : buffer ≠ []) :
    start (render { opts with type := writeText } ++ dataText :: buffer.map printedByte) =
      .run { opts with type := writeText, data := buffer } := by
  have hcomplete : Complete { opts with type := writeText, data := buffer } :=
    ⟨.inr rfl, h.complete.target_address, h.complete.reply_address, h.complete.address,
      fun hread => absurd hread writeText_ne_readText, fun _ => hne⟩
  have hlength : opts.length ≠ some 0 := by
    rw [h.length]
    exact fun heq => h.pos (Option.some.inj heq)
  rw [← render_data { opts with type := writeText } h.data hne]
  exact start_eq_run (hcomplete.helpText_notMem_render h.ip h.port)
    (parseOptions_render hcomplete hlength)

end Options.Saves

/-- A range that was read is put back by the bytes that were printed for it: in every run in
which the command of the options was issued and has completed, the words behind the header are
accepted as the data of a write, and its command makes the range what it was when the read was
issued, whatever the memory has become since. -/
theorem restore_of_reaches (setting : Link.Setting) (initial : UInt32 → UInt8) {first s : Link}
    (hidle : first.Idle)
    (h : Reaches (Link.step setting) (Link.remembering initial) first s) {opts : Options}
    {address : UInt32} {length : UInt64} (hsaves : opts.Saves address length)
    {before : List Command} (hcommands : s.commands = before ++ opts.command.toList)
    {operation : Nat} {packet : Packet}
    (hcompletion : s.completions[before.length]? = some (operation, packet)) :
    ∃ words, readReport address packet.data =
        readHeader address length.toNat ++ words.flatMap (' ' :: ·) ++ ['\n'] ∧
      (∀ word ∈ words, ' ' ∉ word) ∧
      ∃ opts', start (Options.render { opts with type := writeText } ++ dataText :: words) =
          .run opts' ∧
        ∃ command, opts'.command = some command ∧ ∀ memory,
          Memory.read nextAddress (command.perform memory) address length.toNat =
            Memory.read nextAddress (Command.performAll initial before) address length.toNat := by
  have hsize : (UInt32.ofNat length.toNat).toNat = length.toNat :=
    UInt32.toNat_ofNat_of_lt' (Nat.lt_succ_of_le (UInt64.le_iff_toNat_le.mp hsaves.le))
  have hpacket : packet.data =
      Memory.read nextAddress (Command.performAll initial before) address length.toNat := by
    obtain ⟨hexchanged, hshown⟩ := Link.exchanged_and_shown setting hidle h
    obtain ⟨issue, hissue, -, hread⟩ :=
      (hexchanged.coherent hshown).reads _ operation packet hcompletion
    rw [hsaves.command_eq, Option.toList_some] at hcommands
    have hat : s.commands[before.length]? = some issue.command := by
      rw [Link.commands, List.getElem?_map, hissue]
      rfl
    rw [hcommands, List.getElem?_concat_length] at hat
    rw [hread _ _ (Option.some.inj hat).symm, hcommands, List.take_left, hsize]
  have hlength : packet.data.length = length.toNat := by rw [hpacket, Memory.read_length]
  have hne : packet.data ≠ [] := by
    intro hnil
    rw [hnil, List.length_nil] at hlength
    exact hsaves.pos (UInt64.toNat.inj hlength.symm)
  refine ⟨packet.data.map printedByte, ?_, ?_, _, hsaves.start_write hne,
    .write address packet.data, ?_, ?_⟩
  · rw [readReport, hlength, List.flatMap_map]
  · intro word hword
    obtain ⟨byte, -, rfl⟩ := List.mem_map.mp hword
    exact blank_notMem_printedByte byte
  · simp [Options.command, hsaves.address, writeText_ne_readText]
  · intro memory
    have hapart : Memory.Apart nextAddress address packet.data.length := by
      apply Speedtest.apart_nextAddress
      rw [hlength]
      exact (UInt64.le_iff_toNat_le.mp hsaves.le).trans (by decide)
    rw [Command.perform, ← hpacket, ← hlength]
    exact Memory.read_write_self hapart

theorem threeBytes_saves : threeBytes.Saves 0x20000000 3 where
  complete := threeBytes_complete
  type := rfl
  address := rfl
  length := rfl
  pos := by decide
  le := by decide
  data := rfl
  ip := by decide
  port := by decide

theorem restore_of_reaches_threeBytes :
    ∃ words, readReport 0x20000000 [1, 2, 3] =
        readHeader 0x20000000 3 ++ words.flatMap (' ' :: ·) ++ ['\n'] ∧
      ∃ opts', start (Options.render { threeBytes with type := writeText } ++ dataText :: words) =
          .run opts' ∧
        ∃ command, opts'.command = some command ∧
          Memory.read nextAddress (command.perform Link.blank) 0x20000000 3 = [1, 2, 3] := by
  obtain ⟨s, hreaches, hcommands, hdata⟩ := Link.reaches_writeAndRead
  have hsecond : (s.completions.map fun completion => completion.2.data)[1]? = some [1, 2, 3] := by
    rw [hdata]
    rfl
  rw [List.getElem?_map] at hsecond
  obtain ⟨⟨operation, packet⟩, hcompletion, hpacket⟩ := Option.map_eq_some_iff.mp hsecond
  have hissued : s.commands = [.write 0x20000000 [1, 2, 3]] ++ threeBytes.command.toList :=
    hcommands
  obtain ⟨words, hreport, -, opts', hstart, command, hcommand, hmemory⟩ :=
    restore_of_reaches _ Link.blank Link.pair_idle hreaches threeBytes_saves hissued hcompletion
  rw [hpacket] at hreport
  exact ⟨words, hreport, opts', hstart, command, hcommand, (hmemory Link.blank).trans (by decide)⟩

end SpwRmap.App
