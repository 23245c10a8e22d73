import SpwRmap.Node.RemoteMemory

/-!
# The speed test

`spwrmap_speedtest` writes a pattern to the memory of a target, in chunks, and then reads
the whole of it again and again. Each time it compares what came with the pattern. The
commands and the comparisons are those of its `main`, between the check of the address
range and the statistics.
-/

namespace SpwRmap.Speedtest

open Transition

def kChunkSize : Nat := 1024

/-- The check of `range_end`. -/
def inRange (base_address : UInt32) (total_bytes : Nat) : Bool :=
  !decide (base_address.toNat + total_bytes > 0xFFFFFFFF + 1)

/-- The loop of the initial write, with fuel for its rounds. -/
def initialWriteLoop (base_address : UInt32) (pattern : List UInt8) : Nat → Nat → List Command
  | 0, _ => []
  | fuel + 1, offset =>
      if offset < pattern.length then
        let chunk := min kChunkSize (pattern.length - offset)
        .write (base_address + UInt32.ofNat offset) ((pattern.drop offset).take chunk) ::
          initialWriteLoop base_address pattern fuel (offset + kChunkSize)
      else
        []

def initialWrite (base_address : UInt32) (pattern : List UInt8) : List Command :=
  initialWriteLoop base_address pattern pattern.length 0

/-- All commands of `main`, in order. -/
def commands (base_address : UInt32) (pattern : List UInt8) (ntimes : Nat) : List Command :=
  initialWrite base_address pattern ++
    List.replicate ntimes (.read base_address (UInt32.ofNat pattern.length))

/-- The callback of a read. It throws if the size is not that of the buffer. -/
def onComplete (read_buffer : List UInt8) (packet : Packet) : Option (List UInt8) :=
  if packet.data.length ≠ read_buffer.length then none else some packet.data

/-- The command stays in the range of the pattern, and its addresses do not wrap around. -/
def Within (base_address : UInt32) (total_bytes : Nat) : Command → Prop
  | .write memory_address data => base_address.toNat ≤ memory_address.toNat ∧
      memory_address.toNat + data.length ≤ base_address.toNat + total_bytes
  | .read memory_address data_length => memory_address = base_address ∧
      data_length.toNat = total_bytes

/-- Whether no iteration finds an error, by the packets that complete the reads. -/
def iterate (pattern : List UInt8) : List Packet → List UInt8 → Bool
  | [], _ => true
  | packet :: packets, read_buffer =>
      match onComplete read_buffer packet with
      | none => false
      | some read_buffer => read_buffer == pattern && iterate pattern packets read_buffer

theorem iterate_nextAddress (address : UInt32) (n : Nat) :
    nextAddress^[n] address = address + UInt32.ofNat n := by
  induction n with
  | zero => simp
  | succ n ih =>
      rw [Function.iterate_succ_apply', ih, nextAddress, UInt32.add_assoc, UInt32.ofNat_add]
      rfl

/-- The address space is not longer than `2 ^ 32`. -/
theorem apart_nextAddress (address : UInt32) {n : Nat} (hn : n ≤ 2 ^ 32) :
    Memory.Apart nextAddress address n := by
  intro i hi j hj heq
  rw [iterate_nextAddress, iterate_nextAddress, UInt32.add_right_inj] at heq
  have htoNat := congrArg UInt32.toNat heq
  rwa [UInt32.toNat_ofNat_of_lt' (Nat.lt_of_lt_of_le hi hn),
    UInt32.toNat_ofNat_of_lt' (Nat.lt_of_lt_of_le hj hn)] at htoNat

/-- A chunk continues what was written before it. By induction on the rounds that are left. -/
theorem performAll_initialWriteLoop (base_address : UInt32) (pattern : List UInt8)
    (initial : UInt32 → UInt8) {fuel offset : Nat} (hfuel : pattern.length ≤ offset + fuel) :
    Command.performAll
        (Memory.write nextAddress initial base_address (pattern.take offset))
        (initialWriteLoop base_address pattern fuel offset) =
      Memory.write nextAddress initial base_address pattern := by
  induction fuel generalizing offset with
  | zero =>
      rw [List.take_of_length_le (by omega)]
      rfl
  | succ fuel ih =>
      rw [initialWriteLoop]
      split
      · rename_i hoffset
        have hlength : (pattern.take offset).length = offset :=
          List.length_take_of_le hoffset.le
        have hchunk : pattern.take offset ++
            (pattern.drop offset).take (min kChunkSize (pattern.length - offset)) =
              pattern.take (offset + kChunkSize) := by
          rw [List.take_add, ← List.length_drop, ← List.take_eq_take_min]
        have hnext : base_address + UInt32.ofNat offset =
            nextAddress^[(pattern.take offset).length] base_address := by
          rw [hlength, iterate_nextAddress]
        calc Command.performAll _ (_ :: initialWriteLoop base_address pattern fuel _)
            = Command.performAll (Memory.write nextAddress initial base_address
                (pattern.take (offset + kChunkSize)))
                (initialWriteLoop base_address pattern fuel (offset + kChunkSize)) := by
              rw [Command.performAll, List.foldl_cons, Command.perform, hnext,
                ← Memory.write_append, hchunk]
              rfl
          _ = Memory.write nextAddress initial base_address pattern := by
              refine ih ?_
              rw [kChunkSize]
              omega
      · rw [List.take_of_length_le (by omega)]
        rfl

theorem within_of_mem_initialWriteLoop {base_address : UInt32} {pattern : List UInt8}
    (hrange : inRange base_address pattern.length = true) {fuel offset : Nat} :
    ∀ command ∈ initialWriteLoop base_address pattern fuel offset,
      Within base_address pattern.length command := by
  have hend : base_address.toNat + pattern.length ≤ 2 ^ 32 := by
    simpa [inRange] using hrange
  induction fuel generalizing offset with
  | zero => simp [initialWriteLoop]
  | succ fuel ih =>
      rw [initialWriteLoop]
      split
      · rename_i hoffset
        refine List.forall_mem_cons.mpr ⟨?_, ih⟩
        have haddress : (base_address + UInt32.ofNat offset).toNat =
            base_address.toNat + offset := by
          rw [UInt32.toNat_add, UInt32.toNat_ofNat', Nat.mod_eq_of_lt (by omega : offset < 2 ^ 32),
            Nat.mod_eq_of_lt (by omega)]
        rw [Within, haddress, List.length_take, List.length_drop]
        omega
      · simp

theorem within_of_mem_commands {base_address : UInt32} {pattern : List UInt8} {ntimes : Nat}
    (hbytes : pattern.length ≤ 0xFFFFFFFF) (hrange : inRange base_address pattern.length = true) :
    ∀ command ∈ commands base_address pattern ntimes,
      Within base_address pattern.length command := by
  intro command hcommand
  obtain hwrite | hread := List.mem_append.mp hcommand
  · exact within_of_mem_initialWriteLoop hrange command hwrite
  · rw [List.eq_of_mem_replicate hread]
    exact ⟨rfl, UInt32.toNat_ofNat_of_lt' (Nat.lt_succ_of_le hbytes)⟩

theorem performAll_initialWrite (base_address : UInt32) (pattern : List UInt8)
    (initial : UInt32 → UInt8) :
    Command.performAll initial (initialWrite base_address pattern) =
      Memory.write nextAddress initial base_address pattern := by
  have hloop := performAll_initialWriteLoop base_address pattern initial
    (Nat.le_add_left pattern.length 0)
  rw [List.take_zero] at hloop
  exact hloop

theorem performAll_replicate_read (memory : UInt32 → UInt8) (memory_address data_length : UInt32)
    (n : Nat) : Command.performAll memory
      (List.replicate n (.read memory_address data_length)) = memory := by
  induction n with
  | zero => rfl
  | succ n ih => exact ih

theorem iterate_eq_true {pattern : List UInt8} {packets : List Packet} {read_buffer : List UInt8}
    (h : ∀ packet ∈ packets, packet.data = pattern)
    (hlength : read_buffer.length = pattern.length) :
    iterate pattern packets read_buffer = true := by
  induction packets generalizing read_buffer with
  | nil => rfl
  | cons packet packets ih =>
      obtain ⟨hpacket, hpackets⟩ := List.forall_mem_cons.mp h
      have hcopied : onComplete read_buffer packet = some pattern := by
        rw [onComplete, hpacket, if_neg (by simp [hlength])]
      rw [iterate, hcopied]
      simp [ih hpackets]

/-- What the first commands leave, once the pattern is written. -/
theorem performAll_take_commands (base_address : UInt32) (pattern : List UInt8) (ntimes : Nat)
    (initial : UInt32 → UInt8) {k : Nat} (hk : (initialWrite base_address pattern).length ≤ k) :
    Command.performAll initial ((commands base_address pattern ntimes).take k) =
      Memory.write nextAddress initial base_address pattern := by
  rw [commands, List.take_append, List.take_of_length_le hk, List.take_replicate,
    Command.performAll, List.foldl_append]
  exact (performAll_replicate_read _ _ _ _).trans
    (performAll_initialWrite base_address pattern initial)

/-- Against a target that is a memory, the speed test stays in its range and no iteration
finds a mismatch: every read that has completed so far was answered with the pattern. The
header of a read has three bytes for the length of the pattern. -/
theorem iterate_of_reaches (setting : Link.Setting) (initial : UInt32 → UInt8) {start s : Link}
    (hidle : start.Idle)
    (h : Reaches (Link.step setting) (Link.remembering initial) start s) {base_address : UInt32}
    {pattern : List UInt8} {ntimes : Nat} (hlength : pattern.length < 2 ^ 24)
    (hrange : inRange base_address pattern.length = true)
    (hcommands : s.commands <+: commands base_address pattern ntimes) :
    (∀ command ∈ s.commands, Within base_address pattern.length command) ∧
      iterate pattern
        ((s.completions.drop (initialWrite base_address pattern).length).map Prod.snd)
        (List.replicate pattern.length 0) = true := by
  have hbytes : pattern.length ≤ 0xFFFFFFFF := hlength.le.trans (by decide)
  obtain ⟨hexchanged, hshown⟩ := Link.exchanged_and_shown setting hidle h
  have hcoherent := hexchanged.coherent hshown
  refine ⟨fun command hcommand =>
    within_of_mem_commands hbytes hrange command (hcommands.subset hcommand), ?_⟩
  apply iterate_eq_true _ List.length_replicate
  intro packet hpacket
  obtain ⟨⟨operation, packet⟩, hcompletion, rfl⟩ := List.mem_map.mp hpacket
  obtain ⟨j, hj⟩ := List.mem_iff_getElem?.mp hcompletion
  rw [List.getElem?_drop] at hj
  obtain ⟨issue, hissue, -, hread⟩ := hcoherent.reads _ operation packet hj
  have hwritten := Nat.le_add_right (initialWrite base_address pattern).length j
  generalize (initialWrite base_address pattern).length + j = k at hj hissue hread hwritten
  have hcommand : s.commands[k]? = some issue.command := by
    rw [Link.commands, List.getElem?_map, hissue]
    rfl
  obtain ⟨rest, hprogram⟩ := hcommands
  obtain ⟨hk, -⟩ := List.getElem?_eq_some_iff.mp hcommand
  have htake : s.commands.take k = (commands base_address pattern ntimes).take k := by
    rw [← hprogram, List.take_append_of_le_length hk.le]
  have hat : issue.command = .read base_address (UInt32.ofNat pattern.length) := by
    have hmem : (commands base_address pattern ntimes)[k]? = some issue.command := by
      rw [← hprogram, List.getElem?_append_left hk, hcommand]
    rw [commands, List.getElem?_append_right hwritten] at hmem
    exact List.eq_of_mem_replicate (List.mem_of_getElem? hmem)
  rw [hread _ _ hat, htake, performAll_take_commands base_address pattern ntimes initial hwritten,
    UInt32.toNat_ofNat_of_lt' (Nat.lt_succ_of_le hbytes)]
  exact Memory.read_write_self (apart_nextAddress base_address (hbytes.trans (by decide)))

theorem iterate_of_reaches_writeAndRead :
    ∃ s : Link, s.completions.map (fun completion => completion.2.data) = [[], [1, 2, 3]] ∧
      (∀ command ∈ s.commands, Within 0x20000000 3 command) ∧
      iterate [1, 2, 3] ((s.completions.drop 1).map Prod.snd) [0, 0, 0] = true := by
  obtain ⟨s, hreaches, hcommands, hdata⟩ := Link.reaches_writeAndRead
  have hprogram : s.commands <+: commands 0x20000000 [1, 2, 3] 2 := by
    rw [hcommands]
    exact ⟨[.read 0x20000000 3], by decide⟩
  exact ⟨s, hdata, iterate_of_reaches _ Link.blank Link.pair_idle hreaches (by decide) (by decide)
    hprogram⟩

end SpwRmap.Speedtest
