import Mathlib.Data.List.Nodup

/-!
# Blocks on a shared stream

Several writers put blocks on one stream, each in any number of pieces. Every element on
the stream carries the number of its block, the blocks being numbered in the order in
which they were begun. A stream is `Whole` if it is made of complete blocks, one behind
the other and each at most once, with at most a proper prefix of one more block at its
end: no block is split by another, and nothing follows a block that was left incomplete.
-/

namespace Transcript

variable {α : Type}

/-- The elements of a block under its number. -/
def tagged (number : Nat) (block : List α) : List (Nat × α) := block.map (Prod.mk number)

/-- Blocks one behind the other. -/
def transcript (done : List (Nat × List α)) : List (Nat × α) :=
  done.flatMap fun block => tagged block.1 block.2

/-- The stream is the blocks `done`, each of them one of `blocks` and no two the same,
followed by `tail`. -/
structure Recorded (blocks : List (List α)) (stream : List (Nat × α))
    (done : List (Nat × List α)) (tail : List (Nat × α)) : Prop where
  stream_eq : stream = transcript done ++ tail
  known : ∀ block ∈ done, blocks[block.1]? = some block.2
  nodup : (done.map Prod.fst).Nodup

/-- Block `number` is on the stream up to `handed`, with `rest` to come. -/
structure Ongoing (blocks : List (List α)) (stream : List (Nat × α)) (number : Nat)
    (handed rest : List α) : Prop where
  block : blocks[number]? = some (handed ++ rest)
  recorded : ∃ done, Recorded blocks stream done (tagged number handed) ∧
    number ∉ done.map Prod.fst

/-- Nothing but complete blocks. -/
def Complete (blocks : List (List α)) (stream : List (Nat × α)) : Prop :=
  ∃ done, Recorded blocks stream done []

def Whole (blocks : List (List α)) (stream : List (Nat × α)) : Prop :=
  Complete blocks stream ∨
    ∃ number handed rest, handed ≠ [] ∧ rest ≠ [] ∧ Ongoing blocks stream number handed rest

variable {blocks : List (List α)} {stream : List (Nat × α)} {number : Nat} {handed rest : List α}

theorem complete_nil : Complete ([] : List (List α)) [] :=
  ⟨[], rfl, fun _ hblock => absurd hblock List.not_mem_nil, List.nodup_nil⟩

/-- The next block is begun. -/
theorem Complete.start (h : Complete blocks stream) (block : List α) :
    Ongoing (blocks ++ [block]) stream blocks.length [] block := by
  obtain ⟨done, hstream, hknown, hnodup⟩ := h
  have hbelow : ∀ entry ∈ done, entry.1 < blocks.length := by
    intro entry hentry
    exact (List.getElem?_eq_some_iff.mp (hknown entry hentry)).1
  refine ⟨List.getElem?_concat_length, done, ⟨hstream, ?_, hnodup⟩, ?_⟩
  · intro entry hentry
    rw [List.getElem?_append_left (hbelow entry hentry)]
    exact hknown entry hentry
  · intro hmem
    obtain ⟨entry, hentry, hnumber⟩ := List.mem_map.mp hmem
    exact absurd hnumber (Nat.ne_of_lt (hbelow entry hentry))

/-- A piece of the block is put on the stream. -/
theorem Ongoing.hand (h : Ongoing blocks stream number handed rest) (n : Nat) :
    Ongoing blocks (stream ++ tagged number (rest.take n)) number (handed ++ rest.take n)
      (rest.drop n) := by
  obtain ⟨hblock, done, ⟨hstream, hknown, hnodup⟩, hnew⟩ := h
  refine ⟨?_, done, ⟨?_, hknown, hnodup⟩, hnew⟩
  · rw [List.append_assoc, List.take_append_drop]
    exact hblock
  · rw [hstream, List.append_assoc, tagged, tagged, tagged, List.map_append]

/-- The last piece was put on the stream. -/
theorem Ongoing.complete (h : Ongoing blocks stream number handed []) :
    Complete blocks stream := by
  obtain ⟨hblock, done, ⟨hstream, hknown, hnodup⟩, hnew⟩ := h
  rw [List.append_nil] at hblock
  refine ⟨done ++ [(number, handed)], ?_, ?_, ?_⟩
  · rw [hstream, transcript, transcript, List.flatMap_append, List.append_nil]
    simp
  · intro entry hentry
    obtain hold | hlast := List.mem_append.mp hentry
    · exact hknown entry hold
    · rw [List.mem_singleton.mp hlast]
      exact hblock
  · rw [List.map_append, List.map_singleton, ← List.concat_eq_append]
    exact List.Nodup.concat hnew hnodup

/-- Not a piece of the block was put on the stream. -/
theorem Ongoing.none (h : Ongoing blocks stream number [] rest) : Complete blocks stream := by
  obtain ⟨-, done, hrecorded, -⟩ := h
  exact ⟨done, hrecorded⟩

theorem Ongoing.whole (h : Ongoing blocks stream number handed rest) : Whole blocks stream := by
  by_cases hnone : handed = []
  · subst hnone
    exact .inl h.none
  · by_cases hall : rest = []
    · subst hall
      exact .inl h.complete
    · exact .inr ⟨number, handed, rest, hnone, hall, h⟩

/-- The elements of a whole stream, without their numbers. -/
theorem Whole.elements (h : Whole blocks stream) :
    ∃ (complete : List (List α)) (part : List α), stream.map Prod.snd = complete.flatten ++ part ∧
      (∀ block ∈ complete, block ∈ blocks) ∧
      (part = [] ∨ ∃ block ∈ blocks, part <+: block ∧ part ≠ block) := by
  have helements : ∀ done number part, Recorded blocks stream done (tagged number part) →
      stream.map Prod.snd = (done.map Prod.snd).flatten ++ part ∧
        ∀ block ∈ done.map Prod.snd, block ∈ blocks := by
    rintro done number part ⟨hstream, hknown, -⟩
    have hsnd : ∀ (n : Nat) (block : List α), (tagged n block).map Prod.snd = block := by
      intro n block
      rw [tagged, List.map_map]
      exact List.map_id block
    constructor
    · rw [hstream, List.map_append, hsnd, transcript, List.map_flatMap]
      simp only [hsnd, List.flatMap_def]
    · intro block hblock
      obtain ⟨entry, hentry, rfl⟩ := List.mem_map.mp hblock
      exact List.mem_of_getElem? (hknown entry hentry)
  obtain ⟨done, hrecorded⟩ | ⟨number, handed, rest, -, hrest, hblock, done, hrecorded, -⟩ := h
  · obtain ⟨hstream, hmem⟩ := helements done 0 [] hrecorded
    exact ⟨_, [], hstream, hmem, .inl rfl⟩
  · obtain ⟨hstream, hmem⟩ := helements done number handed hrecorded
    refine ⟨_, handed, hstream, hmem, .inr ⟨handed ++ rest, ?_, List.prefix_append .., ?_⟩⟩
    · exact List.mem_of_getElem? hblock
    · simpa using hrest

/-- A whole stream begins with a complete block, or is one number throughout. -/
theorem Whole.begins (h : Whole blocks stream) :
    (∀ a ∈ stream, ∀ b ∈ stream, a.1 = b.1) ∨
      ∃ number < blocks.length, tagged number (blocks.getD number []) <+: stream := by
  have hbegins : ∀ done tail, Recorded blocks stream done tail →
      stream = tail ∨
        ∃ number < blocks.length, tagged number (blocks.getD number []) <+: stream := by
    rintro done tail ⟨hstream, hknown, -⟩
    cases done with
    | nil => exact .inl hstream
    | cons block done =>
        have hblock := hknown block List.mem_cons_self
        refine .inr ⟨block.1, (List.getElem?_eq_some_iff.mp hblock).1, ?_⟩
        rw [List.getD_eq_getElem?_getD, hblock, hstream]
        exact ⟨transcript done ++ tail, (List.append_assoc ..).symm⟩
  obtain ⟨done, hrecorded⟩ | ⟨number, handed, rest, -, -, -, done, hrecorded, -⟩ := h
  · obtain rfl | hblock := hbegins done [] hrecorded
    · exact .inl fun a ha => absurd ha List.not_mem_nil
    · exact .inr hblock
  · obtain rfl | hblock := hbegins done _ hrecorded
    · refine .inl fun a ha b hb => ?_
      obtain ⟨x, -, rfl⟩ := List.mem_map.mp ha
      obtain ⟨y, -, rfl⟩ := List.mem_map.mp hb
      rfl
    · exact .inr hblock

end Transcript
