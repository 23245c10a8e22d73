import SpwRmap.Node.Receive

/-!
# The receive calls on any stream

`recvExact_` and `ignoreNBytes_` make any number of `recvSome` calls. What they return,
which bytes they store and how many they take from the stream depends on the bytes of
the stream and on its end, and not on the chunks in which it arrives. A `recvExact_`
that meets the end returns zero or the error of the end. An `ignoreNBytes_` that meets
it returns the error, or `connection_aborted` if more than one ignore buffer is
missing; with less than that missing it succeeds.
-/

namespace SpwRmap

open Span Stream

/-- The loop stores the next `wanted` bytes of the stream, or those that are there. -/
theorem recvExactLoop_eq (total fuel : Nat) (backend : Backend) (wanted : Nat)
    (received : List UInt8) (hfuel : wanted < fuel) :
    ∃ calls, recvExactLoop total fuel backend wanted received =
      .ok (if wanted ≤ backend.incoming.length then .ok total else backend.exact wanted,
        received ++ backend.incoming.take wanted, backend.skip wanted calls) := by
  induction fuel generalizing backend wanted received with
  | zero => omega
  | succ fuel ih =>
      rw [recvExactLoop]
      by_cases hzero : wanted = 0
      · subst hzero
        exact ⟨backend.calls, by simp [Source.skip]⟩
      · have hpos : 0 < wanted := Nat.pos_of_ne_zero hzero
        rw [if_neg hzero]
        by_cases hnil : backend.incoming = []
        · -- The end is met with bytes still wanted.
          refine ⟨backend.calls + 1, ?_⟩
          have hshort : ¬ wanted ≤ backend.incoming.length := by simpa [hnil] using hzero
          rw [Source.recvSome_nil hpos hnil, if_neg hshort, Source.exact, if_neg hshort]
          cases backend.atEnd <;> simp [hnil]
        · obtain ⟨byte, chunk, hk, hlen, htake, hsome⟩ := Source.recvSome_eq hpos hnil
          obtain ⟨calls, hrest⟩ := ih (backend.skip (chunk.length + 1) (backend.calls + 1))
            (wanted - (chunk.length + 1)) (received ++ byte :: chunk) (by omega)
          refine ⟨calls, ?_⟩
          rw [hsome]
          refine hrest.trans ?_
          have hleft : wanted - (chunk.length + 1) ≤ backend.incoming.length - (chunk.length + 1) ↔
              wanted ≤ backend.incoming.length := by omega
          simp only [Source.exact, Source.skip_skip, Source.skip_incoming, List.length_drop, hleft]
          rw [htake, List.append_assoc, ← List.take_add, Nat.add_sub_cancel' hk]
          by_cases hall : wanted ≤ backend.incoming.length
          · simp [hall]
          · simp [hall, Source.skip]

/-- The loop drops bytes until at most 16 are left to ignore, or reports the end. -/
theorem ignoreLoop_eq (fuel : Nat) (backend : Backend) (n : Nat) (hfuel : n < fuel) :
    (n ≤ backend.incoming.length + 16 ∧ ∃ rest calls, rest ≤ n ∧ rest ≤ 16 ∧
      n - rest ≤ backend.incoming.length ∧
      ignoreLoop fuel backend n = .ok (.ok rest, backend.skip (n - rest) calls)) ∨
    (backend.incoming.length + 16 < n ∧ ∃ calls,
      ignoreLoop fuel backend n =
        .ok (.error (backend.atEnd.getD (.errc .connection_aborted)), backend.skip n calls)) := by
  induction fuel generalizing backend n with
  | zero => omega
  | succ fuel ih =>
      rw [ignoreLoop]
      by_cases hsmall : n ≤ 16
      · refine .inl ⟨by omega, n, backend.calls, Nat.le_refl n, hsmall, by omega, ?_⟩
        simp [hsmall, Source.skip]
      · rw [if_neg hsmall]
        by_cases hnil : backend.incoming = []
        · refine .inr ⟨by simp [hnil]; omega, backend.calls + 1, ?_⟩
          rw [Source.recvSome_nil (by decide) hnil]
          cases backend.atEnd <;> simp [Source.skip, hnil]
        · obtain ⟨byte, chunk, hk, hlen, -, hsome⟩ :=
            Source.recvSome_eq (show 0 < 16 by decide) hnil
          rw [hsome]
          have hlength : (backend.skip (chunk.length + 1) (backend.calls + 1)).incoming.length =
              backend.incoming.length - (chunk.length + 1) := by simp
          rcases ih (backend.skip (chunk.length + 1) (backend.calls + 1))
              (n - (chunk.length + 1)) (by omega) with
            ⟨hle, rest, calls, hrest, hsixteen, havail, hloop⟩ | ⟨hlt, calls, hloop⟩
          · refine .inl ⟨by omega, rest, calls, by omega, hsixteen, by omega, ?_⟩
            refine hloop.trans ?_
            rw [Source.skip_skip,
              show chunk.length + 1 + (n - (chunk.length + 1) - rest) = n - rest by omega]
          · refine .inr ⟨by omega, calls, ?_⟩
            refine hloop.trans ?_
            rw [Source.skip_skip, show chunk.length + 1 + (n - (chunk.length + 1)) = n by omega]
            rfl

namespace Receiver

/-- The receiver with another backend state and another buffer. -/
def moved (self : Receiver) (backend : Backend) (buf : List UInt8) : Receiver :=
  { self with tcp_backend_ := some backend, recv_buf_ := buf }

@[simp] theorem moved_backend (self : Receiver) (backend : Backend) (buf : List UInt8) :
    (self.moved backend buf).tcp_backend_ = some backend := rfl

@[simp] theorem moved_recv_buf (self : Receiver) (backend : Backend) (buf : List UInt8) :
    (self.moved backend buf).recv_buf_ = buf := rfl

@[simp] theorem moved_policy (self : Receiver) (backend : Backend) (buf : List UInt8) :
    (self.moved backend buf).buffer_policy_ = self.buffer_policy_ := rfl

/-- What `ignoreNBytes_` reports. -/
def ignored (backend : Backend) (n : Nat) : Except ErrorCode Nat :=
  if n ≤ backend.incoming.length then .ok n
  else
    match backend.atEnd with
    | some e => .error e
    | none => if n ≤ backend.incoming.length + 16 then .ok n else .error (.errc .connection_aborted)

section Calls

variable {self : Receiver} {backend : Backend}

theorem recvExact_eq (hb : self.tcp_backend_ = some backend) (n : Nat) :
    ∃ calls, self.recvExact_ n = .ok (backend.exact n, backend.incoming.take n,
      self.moved (backend.skip n calls) self.recv_buf_) := by
  obtain ⟨calls, hloop⟩ := recvExactLoop_eq n (n + 1) backend n [] (Nat.lt_succ_self n)
  refine ⟨calls, ?_⟩
  have hexact : (if n ≤ backend.incoming.length then .ok n else backend.exact n) =
      backend.exact n := by
    split
    · rename_i hle
      exact (Source.exact_of_le hle).symm
    · rfl
  simp only [recvExact_, hb, hloop, hexact]
  rfl

/-- Less than the whole request may be missing in the last ignore buffer only. -/
theorem ignoreNBytes_eq (hb : self.tcp_backend_ = some backend) (n : Nat) :
    ∃ calls, self.ignoreNBytes_ n =
      .ok (ignored backend n, self.moved (backend.skip n calls) self.recv_buf_) := by
  rcases ignoreLoop_eq (n + 1) backend n (Nat.lt_succ_self n) with
    ⟨hle, rest, calls, hrest, hsixteen, havail, hloop⟩ | ⟨hlt, calls, hloop⟩
  · by_cases hzero : rest = 0
    · subst hzero
      rw [Nat.sub_zero] at havail hloop
      refine ⟨calls, ?_⟩
      simp only [ignoreNBytes_, hb, hloop, ignored, if_pos havail]
      rfl
    · obtain ⟨calls', hexact⟩ := recvExact_eq
        (moved_backend self (backend.skip (n - rest) calls) self.recv_buf_) rest
      refine ⟨calls', ?_⟩
      rw [Source.skip_skip, Nat.sub_add_cancel hrest] at hexact
      have hleft : rest ≤ backend.incoming.length - (n - rest) ↔ n ≤ backend.incoming.length := by
        omega
      have hreport : ignored backend n =
          ((backend.skip (n - rest) calls).exact rest).map fun _ => n := by
        simp only [ignored, Source.exact, Source.skip_incoming, List.length_drop, hleft, if_pos hle]
        by_cases hall : n ≤ backend.incoming.length
        · simp only [if_pos hall]
          rfl
        · simp only [if_neg hall, Source.skip]
          cases backend.atEnd <;> rfl
      simp only [ignoreNBytes_, hb, hloop, ok_bind, if_neg hzero, hreport]
      refine (congrArg (· >>= _) hexact).trans ?_
      cases (backend.skip (n - rest) calls).exact rest <;> rfl
  · refine ⟨calls, ?_⟩
    simp only [ignoreNBytes_, hb, hloop, ok_bind, ignored,
      if_neg (show ¬ n ≤ backend.incoming.length by omega),
      if_neg (show ¬ n ≤ backend.incoming.length + 16 by omega)]
    cases backend.atEnd <;> rfl

theorem recvExact_of_le (hb : self.tcp_backend_ = some backend) {n : Nat}
    (havail : n ≤ backend.incoming.length) :
    ∃ calls, self.recvExact_ n = .ok (.ok n, backend.incoming.take n,
      self.moved (backend.skip n calls) self.recv_buf_) := by
  obtain ⟨calls, hexact⟩ := recvExact_eq hb n
  rw [Source.exact_of_le havail] at hexact
  exact ⟨calls, hexact⟩

theorem ignoreNBytes_of_le (hb : self.tcp_backend_ = some backend) {n : Nat}
    (havail : n ≤ backend.incoming.length) :
    ∃ calls, self.ignoreNBytes_ n =
      .ok (.ok n, self.moved (backend.skip n calls) self.recv_buf_) := by
  obtain ⟨calls, hignore⟩ := ignoreNBytes_eq hb n
  rw [ignored, if_pos havail] at hignore
  exact ⟨calls, hignore⟩

end Calls

end Receiver

end SpwRmap
