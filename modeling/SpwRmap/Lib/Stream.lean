import Mathlib.Data.List.Basic

/-!
# Byte streams delivered in chunks

A `Source` holds the bytes that are still to arrive. A call to `recvSome` hands
over at least one of them while there are any, and at most as many as requested;
how many is decided by `delivery`, a function of the number of calls made so far
about which nothing is assumed. At the end of the stream every call reports
`atEnd`: an error, or zero bytes.
-/

namespace Stream

structure Source (ε : Type) where
  incoming : List UInt8
  delivery : Nat → Nat := fun _ => 0
  calls : Nat := 0
  /-- The error reported at the end of the stream; `none` reports zero bytes. -/
  atEnd : Option ε := none

namespace Source

variable {ε : Type}

/-- One receive call for at most `n` bytes: the bytes handed over, or an error. -/
def recvSome (b : Source ε) (n : Nat) : Except ε (List UInt8) × Source ε :=
  if n = 0 then
    (.ok [], b)
  else if b.incoming = [] then
    match b.atEnd with
    | some e => (.error e, { b with calls := b.calls + 1 })
    | none => (.ok [], { b with calls := b.calls + 1 })
  else
    -- The chunk is clamped to at least one byte and to what is there.
    let k := max 1 (min (b.delivery b.calls) (min n b.incoming.length))
    (.ok (b.incoming.take k), { b with incoming := b.incoming.drop k, calls := b.calls + 1 })

/-- The source after its first `n` bytes were handed over, in some number of calls. -/
def skip (b : Source ε) (n calls : Nat) : Source ε :=
  { b with incoming := b.incoming.drop n, calls := calls }

@[simp] theorem skip_incoming (b : Source ε) (n calls : Nat) :
    (b.skip n calls).incoming = b.incoming.drop n := rfl

@[simp] theorem skip_skip (b : Source ε) (n m calls calls' : Nat) :
    (b.skip n calls).skip m calls' = b.skip (n + m) calls' := by
  simp [skip, List.drop_drop]

/-- While bytes remain, a call makes progress and never oversteps the request. -/
theorem recvSome_eq {b : Source ε} {n : Nat} (hn : 0 < n) (hb : b.incoming ≠ []) :
    ∃ byte chunk, chunk.length + 1 ≤ n ∧ chunk.length + 1 ≤ b.incoming.length ∧
      byte :: chunk = b.incoming.take (chunk.length + 1) ∧
      b.recvSome n = (.ok (byte :: chunk), b.skip (chunk.length + 1) (b.calls + 1)) := by
  have hlen : 0 < b.incoming.length := List.length_pos_of_ne_nil hb
  obtain ⟨k, hk⟩ : ∃ k, max 1 (min (b.delivery b.calls) (min n b.incoming.length)) = k + 1 :=
    Nat.exists_eq_add_one.mpr (by omega)
  obtain ⟨byte, rest, hrest⟩ := List.exists_cons_of_ne_nil hb
  have hchunk : (rest.take k).length = k := by
    refine List.length_take_of_le ?_
    simp only [hrest, List.length_cons] at hk
    omega
  refine ⟨byte, rest.take k, by omega, by omega, by rw [hchunk, hrest, List.take_succ_cons], ?_⟩
  simp only [recvSome, if_neg hb, if_neg (Nat.pos_iff_ne_zero.mp hn), hk, hchunk]
  rw [hrest, List.take_succ_cons, ← hrest]
  rfl

/-- At the end of the stream a call reports so. -/
theorem recvSome_nil {b : Source ε} {n : Nat} (hn : 0 < n) (hb : b.incoming = []) :
    b.recvSome n =
      (match b.atEnd with
        | some e => .error e
        | none => .ok [], b.skip n (b.calls + 1)) := by
  rw [recvSome, if_neg (Nat.pos_iff_ne_zero.mp hn), if_pos hb]
  cases hend : b.atEnd <;> simp [skip, hb, hend]

/-- What a call that asks for `n` bytes and takes no fewer reports: `n`, or what the end
of the stream reports, with zero for zero bytes. -/
def exact (b : Source ε) (n : Nat) : Except ε Nat :=
  if n ≤ b.incoming.length then .ok n
  else
    match b.atEnd with
    | some e => .error e
    | none => .ok 0

theorem exact_of_le {b : Source ε} {n : Nat} (h : n ≤ b.incoming.length) : b.exact n = .ok n :=
  if_pos h

theorem exact_of_lt {b : Source ε} {n : Nat} (h : b.incoming.length < n) (hend : b.atEnd = none) :
    b.exact n = .ok 0 := by
  rw [exact, if_neg (Nat.not_le.mpr h), hend]

end Source

end Stream
