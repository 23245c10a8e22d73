import SpwRmap.Lib.Relational
import SpwRmap.Node.Exact
import SpwRmap.Packet.Corruption

/-!
# Chunks of the stream are invisible

Two nodes that differ only in the sizes of the chunks in which the same stream arrives
run in step: every receive call returns the same result, stores the same bytes and
takes the same number of them, so the rounds of the loop, the parse and the outcome are
the same. This holds for any stream, also a malformed one or one that ends anywhere.
The loop also ends: a round that is followed by another one has taken a header.
-/

namespace SpwRmap

open Span Stream Relational

/-- The parser has no loop of its own that could run on. -/
theorem PacketParser.parse_faults (self : PacketParser) (packet : List UInt8) (fault : Fault)
    (h : self.parse packet = .error fault) : fault.OfData := by
  by_cases hne : packet = []
  · rw [hne, PacketParser.parse_nil] at h
    cases h
    trivial
  · obtain ⟨status, next, hparse⟩ := self.parse_total hne
    rw [hparse] at h
    contradiction

namespace Receiver

/-- The bytes still to arrive. -/
def remaining (self : Receiver) : List UInt8 :=
  (self.tcp_backend_.map (·.incoming)).getD []

/-- Receivers that differ only in how the rest of the stream is cut into chunks. -/
def Alike (r s : Receiver) : Prop :=
  ∃ backend delivery calls, r.tcp_backend_ = some backend ∧
    s = r.moved { backend with delivery, calls } r.recv_buf_

/-- Equal results of two calls that leave the receivers alike, with at most `n` bytes to
arrive. -/
def InStep {α : Type} (n : Nat) (p q : α × Receiver) : Prop :=
  p.1 = q.1 ∧ Alike p.2 q.2 ∧ p.2.remaining.length ≤ n

section Steps

variable {r s : Receiver} {n : Nat}

theorem Alike.intro {backend : Backend} (hb : r.tcp_backend_ = some backend)
    (delivery : Nat → Nat) (calls : Nat) :
    Alike r (r.moved { backend with delivery, calls } r.recv_buf_) :=
  ⟨backend, delivery, calls, hb, rfl⟩

theorem Alike.recv_buf_eq (h : Alike r s) : s.recv_buf_ = r.recv_buf_ := by
  obtain ⟨backend, delivery, calls, hb, rfl⟩ := h
  rfl

theorem Alike.with_buf (h : Alike r s) (buf : List UInt8) :
    Alike { r with recv_buf_ := buf } { s with recv_buf_ := buf } := by
  obtain ⟨backend, delivery, calls, hb, rfl⟩ := h
  exact ⟨backend, delivery, calls, hb, rfl⟩

theorem InStep.mono {α : Type} {m : Nat} {p q : α × Receiver} (h : InStep n p q) (hle : n ≤ m) :
    InStep m p q :=
  ⟨h.1, h.2.1, h.2.2.trans hle⟩

/-- Returning the same value from receivers that are alike. -/
theorem agree_return {α : Type} (a : α) (h : Alike r s) (hle : r.remaining.length ≤ n) :
    Agree Fault.OfData (InStep n) (.ok (a, r) : Checked (α × Receiver)) (.ok (a, s)) :=
  .ok ⟨rfl, h, hle⟩

/-- Both runs take the same bytes. -/
theorem recvExact_alike (h : Alike r s) (size : Nat) :
    ∃ res received r' s', r.recvExact_ size = .ok (res, received, r') ∧
      s.recvExact_ size = .ok (res, received, s') ∧ Alike r' s' ∧
      r'.remaining = r.remaining.drop size ∧
      (size ≤ r.remaining.length ∧ res = .ok size ∨ res = .ok 0 ∨ ∃ e, res = .error e) := by
  obtain ⟨backend, delivery, calls, hb, rfl⟩ := h
  obtain ⟨calls₁, hr⟩ := recvExact_eq hb size
  obtain ⟨calls₂, hs⟩ := recvExact_eq
    (moved_backend r { backend with delivery, calls } r.recv_buf_) size
  refine ⟨_, _, _, _, hr, hs, ?_, ?_, ?_⟩
  · exact ⟨backend.skip size calls₁, delivery, calls₂, rfl, rfl⟩
  · simp [remaining, hb]
  · rw [Source.exact]
    split
    · rename_i hle
      exact .inl ⟨by simpa [remaining, hb] using hle, rfl⟩
    · cases backend.atEnd with
      | none => exact .inr (.inl rfl)
      | some e => exact .inr (.inr ⟨e, rfl⟩)

theorem ignoreNBytes_alike (h : Alike r s) (size : Nat) :
    Agree Fault.OfData (InStep r.remaining.length) (r.ignoreNBytes_ size)
      (s.ignoreNBytes_ size) := by
  obtain ⟨backend, delivery, calls, hb, rfl⟩ := h
  obtain ⟨calls₁, hr⟩ := ignoreNBytes_eq hb size
  obtain ⟨calls₂, hs⟩ := ignoreNBytes_eq
    (moved_backend r { backend with delivery, calls } r.recv_buf_) size
  rw [hr, hs]
  refine .ok ⟨rfl, ⟨backend.skip size calls₁, delivery, calls₂, rfl, rfl⟩, ?_⟩
  simp [remaining, hb]

theorem ensureRoom_alike (h : Alike r s) (total_size dataLength : Nat) (recv_buffer : Window) :
    Agree Fault.OfData (InStep r.remaining.length) (r.ensureRoom total_size dataLength recv_buffer)
      (s.ensureRoom total_size dataLength recv_buffer) := by
  obtain ⟨backend, delivery, calls, hb, rfl⟩ := h
  have halike := Alike.intro hb delivery calls
  rw [ensureRoom, ensureRoom]
  by_cases hroom : dataLength > recv_buffer.size
  · rw [if_pos hroom, if_pos hroom]
    by_cases hpolicy : r.buffer_policy_ = .Fixed
    · rw [if_pos hpolicy, if_pos ((moved_policy r _ _).trans hpolicy)]
      exact agree_return _ halike (Nat.le_refl _)
    · rw [if_neg hpolicy, if_neg (fun h => hpolicy ((moved_policy r _ _).symm.trans h))]
      dsimp only [moved_recv_buf]
      rw [tryResize]
      split
      · exact .error trivial
      · rw [ok_bind, ok_bind]
        split
        · exact agree_return _ (halike.with_buf _) (Nat.le_refl _)
        · exact .error trivial
  · rw [if_neg hroom, if_neg hroom]
    exact agree_return _ halike (Nat.le_refl _)

theorem recvPayload_alike (h : Alike r s) (dataLength : Nat) (recv_buffer : Window) :
    Agree Fault.OfData (InStep r.remaining.length) (r.recvPayload dataLength recv_buffer)
      (s.recvPayload dataLength recv_buffer) := by
  rw [recvPayload, recvPayload]
  split
  · obtain ⟨res, received, r', s', hr, hs, halike, hleft, -⟩ := recvExact_alike h dataLength
    simp only [hr, hs, ok_bind, halike.recv_buf_eq]
    refine agree_return res (halike.with_buf _) ?_
    have hremaining : r'.remaining.length ≤ r.remaining.length := by simp [hleft]
    exact hremaining
  · exact .error trivial

/-- One branch of the `switch` for each kind of frame. -/
theorem receiveBody_alike (h : Alike r s) (header : List UInt8) (total_size dataLength : Nat)
    (recv_buffer : Window) :
    Agree Fault.OfData (InStep r.remaining.length)
      (r.receiveBody header total_size dataLength recv_buffer)
      (s.receiveBody header total_size dataLength recv_buffer) := by
  rw [receiveBody, receiveBody]
  dsimp only
  split
  · apply (recvPayload_alike h dataLength recv_buffer).bind
    rintro ⟨res, r'⟩ ⟨res', s'⟩ ⟨hres, halike, hle⟩
    obtain rfl : res = res' := hres
    cases res with
    | error e => exact agree_return _ halike hle
    | ok size => exact agree_return _ halike hle
  split
  · apply (ignoreNBytes_alike h dataLength).bind
    rintro ⟨res, r'⟩ ⟨res', s'⟩ ⟨hres, halike, hle⟩
    obtain rfl : res = res' := hres
    cases res with
    | error e => exact agree_return _ halike hle
    | ok size => exact agree_return _ halike hle
  split
  · apply (recvPayload_alike h dataLength recv_buffer).bind
    rintro ⟨res, r'⟩ ⟨res', s'⟩ ⟨hres, halike, hle⟩
    obtain rfl : res = res' := hres
    cases res with
    | error e => exact agree_return _ halike hle
    | ok size =>
        dsimp only
        split
        · exact agree_return _ halike hle
        · exact .error trivial
  split
  · split
    · exact agree_return _ h (Nat.le_refl _)
    · obtain ⟨res, received, r', s', hr, hs, halike, hleft, -⟩ := recvExact_alike h 2
      have hle : r'.remaining.length ≤ r.remaining.length := by simp [hleft]
      rw [hr, hs, ok_bind, ok_bind]
      cases res with
      | error e => exact agree_return _ halike hle
      | ok size =>
          dsimp only
          split
          · exact agree_return _ halike hle
          · exact agree_return _ halike hle
  · exact agree_return _ h (Nat.le_refl _)

/-- A round that does not end the loop has taken at least the header of a frame. -/
def Advances (r : Receiver) (p q : Round × Receiver) : Prop :=
  InStep r.remaining.length p q ∧
    ((∃ res, p.1 = .done res) ∨ p.2.remaining.length < r.remaining.length)

theorem agree_done {r' s' : Receiver} (res : Except ErrorCode Nat) (h : Alike r' s')
    (hle : r'.remaining.length ≤ r.remaining.length) :
    Agree Fault.OfData (Advances r) (.ok (.done res, r') : Checked (Round × Receiver))
      (.ok (.done res, s')) :=
  .ok ⟨⟨rfl, h, hle⟩, .inl ⟨res, rfl⟩⟩

theorem receiveFrame_alike (h : Alike r s) (total_size : Nat) (recv_buffer : Window) :
    Agree Fault.OfData (Advances r) (r.receiveFrame total_size recv_buffer)
      (s.receiveFrame total_size recv_buffer) := by
  obtain ⟨res, received, r', s', hr, hs, halike, hleft, ⟨hheader, rfl⟩ | rfl | ⟨e, rfl⟩⟩ :=
    recvExact_alike h 12
  · have hless : r'.remaining.length ≤ r.remaining.length := by simp [hleft]
    simp only [receiveFrame, hr, hs, ok_bind]
    split
    · exact agree_done _ halike hless
    split
    · exact agree_done _ halike hless
    cases calculateDataLength (store (List.replicate 12 0x00) 0 received) with
    | error e => exact agree_done _ halike hless
    | ok dataLength =>
        dsimp only
        split
        · exact agree_done _ halike hless
        apply (ensureRoom_alike halike total_size dataLength recv_buffer).bind
        rintro ⟨room, r''⟩ ⟨room', s''⟩ ⟨hroom, halike', hle⟩
        obtain rfl : room = room' := hroom
        cases room with
        | error e => exact agree_done _ halike' (hle.trans hless)
        | ok window =>
            apply (receiveBody_alike halike' _ total_size dataLength window).mono
            intro p q hstep
            refine ⟨hstep.mono (hle.trans hless), .inr ?_⟩
            have hbody : p.2.remaining.length ≤ r''.remaining.length := hstep.2.2
            simp only [hleft, List.length_drop] at hle
            omega
  · rw [receiveFrame, receiveFrame, hr, hs]
    exact agree_done _ halike (by simp [hleft])
  · rw [receiveFrame, receiveFrame, hr, hs]
    exact agree_done _ halike (by simp [hleft])

theorem parseReceived_alike (h : Alike r s) (total_size : Nat) :
    Agree Fault.OfData (InStep r.remaining.length) (r.parseReceived total_size)
      (s.parseReceived total_size) := by
  obtain ⟨backend, delivery, calls, hb, rfl⟩ := h
  rw [parseReceived, parseReceived, moved_recv_buf, subspan]
  split
  · dsimp only [ok_bind]
    apply (Agree.of_eq rfl (r.packet_parser_.parse_faults _)).bind
    rintro ⟨status, parser⟩ _ rfl
    dsimp only
    split
    · exact agree_return _ ⟨backend, delivery, calls, hb, rfl⟩ (Nat.le_refl _)
    · exact agree_return _ ⟨backend, delivery, calls, hb, rfl⟩ (Nat.le_refl _)
  · exact .error trivial

/-- The whole loop, by induction on the fuel: each further round has fewer bytes to
arrive, so the fuel lasts. -/
theorem receiveLoop_alike (fuel : Nat) (h : Alike r s) (total_size : Nat) (recv_buffer : Window)
    (hfuel : r.remaining.length < fuel) :
    Agree Fault.OfData (InStep r.remaining.length) (receiveLoop fuel r total_size recv_buffer)
      (receiveLoop fuel s total_size recv_buffer) := by
  induction fuel generalizing r s total_size recv_buffer with
  | zero => omega
  | succ fuel ih =>
      rw [receiveLoop, receiveLoop]
      apply (receiveFrame_alike h total_size recv_buffer).bind
      rintro ⟨round, r'⟩ ⟨round', s'⟩ ⟨⟨hround, halike, hle⟩, hadvance⟩
      obtain rfl : round = round' := hround
      have halike : Alike r' s' := halike
      have hle : r'.remaining.length ≤ r.remaining.length := hle
      cases round with
      | done res => exact agree_return res halike hle
      | again total_size recv_buffer =>
          have hfewer : r'.remaining.length < r.remaining.length :=
            hadvance.resolve_left (by rintro ⟨_, h⟩; contradiction)
          have hfuel' : r'.remaining.length < fuel := by omega
          apply (ih halike total_size recv_buffer hfuel').mono
          exact fun p q hstep => hstep.mono hle
      | eof total_size =>
          apply (parseReceived_alike halike total_size).mono
          exact fun p q hstep => hstep.mono hle
      | restart =>
          have hfewer : r'.remaining.length < r.remaining.length :=
            hadvance.resolve_left (by rintro ⟨_, h⟩; contradiction)
          have hfuel' : r'.remaining.length < fuel := by omega
          dsimp only
          rw [wholeBuffer, wholeBuffer, halike.recv_buf_eq]
          apply (ih halike 0 _ hfuel').mono
          exact fun p q hstep => hstep.mono hle

end Steps

/-- What can be told of a call: its result, the bytes it left in the stream and in the
buffer, the packet its parser holds and the spans that were parsed. -/
def observed (p : Except ErrorCode Nat × Receiver) :
    Except ErrorCode Nat × List UInt8 × List UInt8 × PacketParser × List (List UInt8) :=
  (p.1, p.2.remaining, p.2.recv_buf_, p.2.packet_parser_, p.2.parsed)

/-- For any stream and any end of it, `recvAndParseOnePacket_` ends, and nothing that can
be told of it depends on how the stream is delivered. -/
theorem recvAndParseOnePacket_chunking (self : Receiver) (incoming : List UInt8)
    (atEnd : Option ErrorCode) (delivery delivery' : Nat → Nat) (calls calls' : Nat) :
    let run (delivery : Nat → Nat) (calls : Nat) :=
      recvAndParseOnePacket_ { self with
        tcp_backend_ := some { incoming, delivery, calls, atEnd } }
    run delivery calls ≠ .error .outOfFuel ∧
      (run delivery calls).map observed = (run delivery' calls').map observed := by
  dsimp only
  have halike : Alike { self with tcp_backend_ := some { incoming, delivery, calls, atEnd } }
      { self with
        tcp_backend_ := some { incoming, delivery := delivery', calls := calls', atEnd } } :=
    ⟨_, delivery', calls', rfl, rfl⟩
  have hagree := receiveLoop_alike (incoming.length + 1) halike 0 ⟨0, self.recv_buf_.length⟩
    (Nat.lt_succ_self _)
  constructor
  · exact hagree.yields.excludes (e := .outOfFuel) id
  · apply hagree.map_eq
    rintro ⟨res, r⟩ ⟨res', s⟩ ⟨hres, hrs, -⟩
    obtain rfl : res = res' := hres
    have hrs : Alike r s := hrs
    obtain ⟨backend, delivery'', calls'', hb, rfl⟩ := hrs
    simp [observed, remaining, hb, moved]

end Receiver

end SpwRmap
