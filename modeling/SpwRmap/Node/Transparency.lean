import SpwRmap.Node.Session

/-!
# Frames that do not belong to a packet

Time codes and discarded packets may stand between the frames of a packet. The loop of
`recvAndParseOnePacket_` stores nothing of them in the packet, but it compares every
announced length with the space left in the buffer before it looks at the type. With a fixed
buffer a frame that is only to be skipped is refused when it is longer than that space.

`reception` is what the loop makes of a list of frames, by the lengths and the payloads
alone. An inserted frame changes it exactly by being refused.
-/

namespace SpwRmap

open Span Stream

namespace Frame

/-- A frame with a known type and a payload whose length the header can hold. -/
structure OnStream (f : Frame) : Prop where
  known : f.type = 0x00 ∨ f.type = 0x02 ∨ f.isErrorEnd ∨ f.isTimeCode
  wellFormed : f.WellFormed
  length : f.payload.length < 2 ^ 64

theorem OnStream.mem_types {f : Frame} (h : f.OnStream) :
    f.type ∈ [0x00, 0x01, 0x02, 0x31, 0x30] := by
  obtain h | h | h | h := h.known
  · simp [h]
  · simp [h]
  · simp [isErrorEnd_iff.mp h]
  · obtain h | h := isTimeCode_iff.mp h
    · simp [h]
    · simp [h]

/-- The number of bytes gathered after a frame. -/
def gathered (f : Frame) (size : Nat) : Nat :=
  if f.isErrorEnd then 0 else if f.isData then size + f.payload.length else size

theorem gather_length (f : Frame) (acc : List UInt8) :
    (f.gather acc).length = f.gathered acc.length := by
  rw [gather, gathered]
  split
  · rfl
  · split
    · exact List.length_append
    · rfl

/-- Whether the next frame is the first of a packet, or stands before it. -/
def startAfter (f : Frame) (start : Bool) : Bool :=
  if f.isTimeCode then start else f.isErrorEnd || f.type = 0x00

theorem gather_timeCode {f : Frame} (h : f.isTimeCode = true) (acc : List UInt8) :
    f.gather acc = acc := by
  obtain h | h := isTimeCode_iff.mp h
  · simp [gather, isErrorEnd, isData, h]
  · simp [gather, isErrorEnd, isData, h]

theorem gather_errorEnd {f : Frame} (h : f.isErrorEnd = true) (acc : List UInt8) :
    f.gather acc = [] := by
  rw [gather, if_pos h]

/-- Nothing is gathered where a packet starts. -/
theorem gather_startAfter {f : Frame} {start : Bool} {acc : List UInt8} (hlast : f.type ≠ 0x00)
    (hstart : start = true → acc = []) (h : f.startAfter start = true) : f.gather acc = [] := by
  rw [startAfter] at h
  split at h
  · rename_i htime
    rw [gather_timeCode htime]
    exact hstart h
  · rw [Bool.or_eq_true, decide_eq_true_eq] at h
    exact gather_errorEnd (h.resolve_right hlast) acc

end Frame

/-- The length check: against the size of the buffer, and if it may grow against the largest
size there is. -/
def BufferPolicy.fits (policy : BufferPolicy) (capacity bytes : Nat) : Bool :=
  match policy with
  | .Fixed => bytes ≤ capacity
  | .AutoResize => bytes ≤ capacity ∨ bytes ≤ max_size

inductive Reception where
  | packet (payload : List UInt8)
  | refused
  | ended
  deriving DecidableEq, Repr

def reception (policy : BufferPolicy) (capacity : Nat) : List UInt8 → List Frame → Reception
  | _, [] => .ended
  | acc, f :: frames =>
      if policy.fits capacity (acc.length + f.payload.length) then
        if f.type = 0x00 then .packet (acc ++ f.payload)
        else reception policy capacity (f.gather acc) frames
      else
        .refused

/-- Every frame up to the end of the packet passes the length check. -/
def admits (policy : BufferPolicy) (capacity : Nat) : Nat → List Frame → Bool
  | _, [] => true
  | size, f :: frames =>
      policy.fits capacity (size + f.payload.length) &&
        (f.type = 0x00 || admits policy capacity (f.gathered size) frames)

section Reception

variable {policy : BufferPolicy} {capacity : Nat} {acc : List UInt8}

theorem admits_iff (acc : List UInt8) (frames : List Frame) :
    admits policy capacity acc.length frames = true ↔
      reception policy capacity acc frames ≠ .refused := by
  induction frames generalizing acc with
  | nil =>
      rw [admits, reception]
      exact iff_of_true rfl Reception.noConfusion
  | cons f frames ih =>
      rw [admits, reception]
      cases hfits : policy.fits capacity (acc.length + f.payload.length) with
      | false => simp
      | true =>
          by_cases hlast : f.type = 0x00
          · simp [hlast]
          · rw [← f.gather_length]
            simp only [hlast, Bool.true_and, decide_false, Bool.false_or, if_true, if_false]
            exact ih _

/-- Inserted frames: time codes anywhere, and packets with an error end before the first
frame of a packet. -/
inductive Inserted : Bool → List Frame → List Frame → Prop where
  | nil {start : Bool} : Inserted start [] []
  | keep {start : Bool} (f : Frame) {frames inserted : List Frame}
      (rest : Inserted (f.startAfter start) frames inserted) :
      Inserted start (f :: frames) (f :: inserted)
  | timeCode {start : Bool} (timecode : UInt8) {frames inserted : List Frame}
      (rest : Inserted start frames inserted) :
      Inserted start frames (Node.timeCodeFrame timecode :: inserted)
  | discarded (packet : List Frame) (e : Frame) {frames inserted : List Frame}
      (hpacket : ∀ f ∈ packet, f.type = 0x02 ∨ f.isTimeCode) (hend : e.isErrorEnd)
      (rest : Inserted true frames inserted) :
      Inserted true frames (packet ++ e :: inserted)

/-- A frame that passes the check and does not end the packet. -/
theorem reception_cons {f : Frame} {frames : List Frame} (hlast : f.type ≠ 0x00)
    (h : reception policy capacity acc (f :: frames) ≠ .refused) :
    reception policy capacity acc (f :: frames) =
      reception policy capacity (f.gather acc) frames := by
  rw [reception] at h ⊢
  by_cases hfits : policy.fits capacity (acc.length + f.payload.length) = true
  · rw [if_pos hfits, if_neg hlast]
  · rw [if_neg hfits] at h
    exact absurd rfl h

theorem Frame.type_ne_of_isTimeCode {f : Frame} (h : f.isTimeCode = true) : f.type ≠ 0x00 := by
  obtain h | h := Frame.isTimeCode_iff.mp h
  · rw [h]
    decide
  · rw [h]
    decide

/-- A discarded packet that is not refused is skipped. -/
theorem reception_discarded {packet frames : List Frame} {e : Frame}
    (hpacket : ∀ f ∈ packet, f.type = 0x02 ∨ f.isTimeCode) (hend : e.isErrorEnd)
    (h : reception policy capacity acc (packet ++ e :: frames) ≠ .refused) :
    reception policy capacity acc (packet ++ e :: frames) =
      reception policy capacity [] frames := by
  induction packet generalizing acc with
  | nil =>
      have hlast : e.type ≠ 0x00 := by
        rw [Frame.isErrorEnd_iff.mp hend]
        decide
      rw [List.nil_append] at h ⊢
      rw [reception_cons hlast h, Frame.gather_errorEnd hend]
  | cons f packet ih =>
      obtain ⟨hf, hpacket⟩ := List.forall_mem_cons.mp hpacket
      have hlast : f.type ≠ 0x00 := by
        obtain hf | hf := hf
        · rw [hf]
          decide
        · exact Frame.type_ne_of_isTimeCode hf
      rw [List.cons_append] at h ⊢
      have hnext := reception_cons hlast h
      rw [hnext] at h ⊢
      exact ih hpacket h

/-- Inserted frames that are not refused change nothing. -/
theorem Inserted.reception_eq {start : Bool} {frames inserted : List Frame}
    (h : Inserted start frames inserted) (hstart : start = true → acc = [])
    (hadmitted : reception policy capacity acc inserted ≠ .refused) :
    reception policy capacity acc inserted = reception policy capacity acc frames := by
  induction h generalizing acc with
  | nil => rfl
  | keep f rest ih =>
      rw [reception] at hadmitted ⊢
      rw [reception]
      by_cases hfits : policy.fits capacity (acc.length + f.payload.length) = true
      · rw [if_pos hfits] at hadmitted
        rw [if_pos hfits, if_pos hfits]
        by_cases hlast : f.type = 0x00
        · rw [if_pos hlast, if_pos hlast]
        · rw [if_neg hlast] at hadmitted
          rw [if_neg hlast, if_neg hlast]
          exact ih (Frame.gather_startAfter hlast hstart) hadmitted
      · rw [if_neg hfits] at hadmitted
        exact absurd rfl hadmitted
  | timeCode timecode rest ih =>
      have htime : (Node.timeCodeFrame timecode).isTimeCode = true := rfl
      have hnext := reception_cons (Frame.type_ne_of_isTimeCode htime) hadmitted
      rw [hnext, Frame.gather_timeCode htime] at hadmitted
      rw [hnext, Frame.gather_timeCode htime]
      exact ih hstart hadmitted
  | discarded packet e hpacket hend rest ih =>
      have hskipped := reception_discarded hpacket hend hadmitted
      rw [hskipped] at hadmitted
      rw [hskipped, hstart rfl]
      exact ih (fun _ => rfl) hadmitted

end Reception

/-- What a caller sees: the result, the parser, and the spans that were parsed; of a call
that faults, nothing. -/
def observe (outcome : Checked (Except ErrorCode Nat × Receiver)) :
    Option (Except ErrorCode Nat × PacketParser × List (List UInt8)) :=
  outcome.toOption.map fun r => (r.1, r.2.packet_parser_, r.2.parsed)

/-- What a caller sees of each reception. A buffer that may grow but not so far ends the
process. -/
def Reception.outcome (self : Receiver) (atEnd : Option ErrorCode) :
    Reception → Option (Except ErrorCode Nat × PacketParser × List (List UInt8))
  | .packet payload => (self.packet_parser_.parse payload).toOption.map fun r =>
      (if r.1 = .Success then .ok payload.length else .error (.status r.1), r.2,
        self.parsed ++ [payload])
  | .refused =>
      if self.buffer_policy_ = .Fixed then
        some (.error (.errc .no_buffer_space), self.packet_parser_, self.parsed)
      else
        none
  | .ended => some (atEnd.elim (.ok 0) .error, self.packet_parser_, self.parsed)

namespace Receiver

variable {self : Receiver} {backend : Backend} {recv_buffer : Window}
variable {acc rest : List UInt8} {f : Frame} {capacity : Nat}

/-- The buffer has the size that the length check is about, as far as it matters. -/
structure Sized (receiver : Receiver) (capacity : Nat) : Prop where
  fixed : receiver.buffer_policy_ = .Fixed → receiver.recv_buf_.length = capacity
  initial : capacity ≤ receiver.recv_buf_.length
  grown : receiver.recv_buf_.length ≤ capacity ∨ receiver.recv_buf_.length ≤ max_size
  small : receiver.recv_buf_.length < 2 ^ 64

theorem Sized.resized (h : Sized self capacity) {buf : List UInt8} (hresized : self.Resized buf) :
    Sized (self.moved backend buf) capacity := by
  obtain hsame | ⟨hpolicy, hgrows, hmax⟩ := hresized
  · obtain ⟨hfixed, hinitial, hgrown, hsmall⟩ := h
    rw [← hsame] at hfixed hinitial hgrown hsmall
    exact ⟨hfixed, hinitial, hgrown, hsmall⟩
  · refine ⟨?_, h.initial.trans hgrows, .inr hmax, Nat.lt_of_le_of_lt hmax (by decide)⟩
    intro hfixed
    rw [moved_policy, hpolicy] at hfixed
    contradiction

theorem Sized.roomFor (h : Sized self capacity) {bytes : Nat}
    (hfits : self.buffer_policy_.fits capacity bytes = true) : self.RoomFor bytes := by
  cases hpolicy : self.buffer_policy_ with
  | Fixed =>
      rw [hpolicy] at hfits
      rw [← h.fixed hpolicy] at hfits
      exact .inl (of_decide_eq_true hfits)
  | AutoResize =>
      rw [hpolicy] at hfits
      obtain hheld | hmax := of_decide_eq_true hfits
      · exact .inl (hheld.trans h.initial)
      · exact .inr ⟨hpolicy, hmax⟩

/-- A frame that fails the check ends the call. -/
theorem receiveLoop_refused (hb : self.tcp_backend_ = some backend)
    (hheld : Holds self recv_buffer acc) (hsized : Sized self capacity) (hf : f.OnStream)
    (hfits : ¬self.buffer_policy_.fits capacity (acc.length + f.payload.length) = true)
    (hin : backend.incoming = f.encode ++ rest) (fuel : Nat) :
    observe (receiveLoop (fuel + 1) self acc.length recv_buffer) =
      Reception.refused.outcome self backend.atEnd := by
  have hsize := hheld.size
  rw [hheld.offset] at hsize
  obtain ⟨calls, -, herror, hfault⟩ := receiveFrame_checked hb hf.mem_types hf.wellFormed.1
    hf.length hin acc.length recv_buffer
  cases hpolicy : self.buffer_policy_ with
  | Fixed =>
      rw [hpolicy, BufferPolicy.fits, decide_eq_true_eq, ← hsized.fixed hpolicy] at hfits
      have hlong : f.payload.length > recv_buffer.size := by omega
      have hframe := herror (.errc .no_buffer_space) _ (by
        rw [ensureRoom, if_pos hlong, moved_policy, if_pos hpolicy])
      rw [receiveLoop, hframe, Reception.outcome, if_pos hpolicy]
      rfl
  | AutoResize =>
      rw [hpolicy, BufferPolicy.fits, decide_eq_true_eq, not_or] at hfits
      have hgrown := hsized.grown
      have hsmall := hsized.small
      have hlength := hf.length
      have hlong : f.payload.length > recv_buffer.size := by omega
      have hfixed : ¬self.buffer_policy_ = .Fixed := by
        rw [hpolicy]
        exact BufferPolicy.noConfusion
      have hdies : ∃ fault, (self.moved (backend.skip 12 calls) self.recv_buf_).ensureRoom
          acc.length f.payload.length recv_buffer = .error fault := by
        rw [ensureRoom, if_pos hlong, moved_policy, if_neg hfixed]
        by_cases hwrap : acc.length + f.payload.length < 2 ^ 64
        · refine ⟨.lengthError, ?_⟩
          rw [Nat.mod_eq_of_lt hwrap, tryResize_lengthError 0 ?_ (by omega), error_bind]
          exact Nat.lt_of_le_of_lt hsize.ge (Nat.add_lt_add_left hlong _)
        · -- The sum wraps to less than what is gathered already.
          have hless : (acc.length + f.payload.length) % 2 ^ 64 < acc.length := by omega
          refine ⟨.outOfRange, ?_⟩
          rw [tryResize_eq 0 (.inl ?_), ok_bind, if_neg]
          · rw [resize_length]
            exact Nat.not_le.mpr hless
          · exact hless.le.trans (hsize.le.trans' (Nat.le_add_right _ _))
      obtain ⟨fault, hdies⟩ := hdies
      rw [receiveLoop, hfault fault hdies, Reception.outcome, if_neg hfixed]
      rfl

theorem receiveLoop_ended (hb : self.tcp_backend_ = some backend)
    (hin : backend.incoming = []) (total_size fuel : Nat) (recv_buffer : Window) :
    observe (receiveLoop (fuel + 1) self total_size recv_buffer) =
      Reception.ended.outcome self backend.atEnd := by
  obtain ⟨calls, hexact⟩ := recvExact_eq hb 12
  have hnone : backend.exact 12 = backend.atEnd.elim (.ok 0) .error := by
    rw [Source.exact, hin, if_neg (by decide)]
    cases backend.atEnd with
    | none => rfl
    | some e => rfl
  rw [hnone] at hexact
  rw [receiveLoop, receiveFrame, hexact, Reception.outcome]
  cases backend.atEnd with
  | none => rfl
  | some e => rfl

theorem Delivers.observe_eq {packet : List UInt8}
    {outcome : Checked (Except ErrorCode Nat × Receiver)} (h : Delivers self packet backend outcome)
    (atEnd : Option ErrorCode) :
    observe outcome = (Reception.packet packet).outcome self atEnd := by
  obtain ⟨status, next, buf, hparse, hout⟩ := h
  rw [hout, Reception.outcome, hparse]
  rfl

/-- By induction on the frames: a caller sees what becomes of the list. -/
theorem receiveLoop_reception (frames : List Frame) (fuel : Nat)
    (hb : self.tcp_backend_ = some backend) (hheld : Holds self recv_buffer acc)
    (hsized : Sized self capacity) (hframes : ∀ f ∈ frames, f.OnStream)
    (hin : backend.incoming = frames.flatMap Frame.encode ++ rest)
    (hrest : reception self.buffer_policy_ capacity acc frames = .ended → rest = [])
    (hfuel : frames.length < fuel) :
    observe (receiveLoop fuel self acc.length recv_buffer) =
      (reception self.buffer_policy_ capacity acc frames).outcome self backend.atEnd := by
  induction frames generalizing self backend recv_buffer acc fuel with
  | nil =>
      obtain ⟨fuel, rfl⟩ := Nat.exists_eq_add_one.mpr hfuel
      rw [hrest rfl] at hin
      exact receiveLoop_ended hb hin _ fuel _
  | cons f frames ih =>
      obtain ⟨fuel, rfl⟩ := Nat.exists_eq_add_one.mpr (Nat.zero_lt_of_lt hfuel)
      obtain ⟨hf, hframes⟩ := List.forall_mem_cons.mp hframes
      rw [List.flatMap_cons, List.append_assoc] at hin
      rw [reception] at hrest ⊢
      by_cases hfits : self.buffer_policy_.fits capacity (acc.length + f.payload.length) = true
      · have hroomFor := hsized.roomFor hfits
        rw [if_pos hfits] at hrest ⊢
        by_cases hlast : f.type = 0x00
        · obtain ⟨calls, buf, hloop, hstored⟩ :=
            receiveLoop_last hb hheld hlast hf.wellFormed.1 hf.length hroomFor hin fuel
          rw [if_pos hlast, hloop]
          have hne : acc ++ f.payload ≠ [] := by simp [hf.wellFormed.1]
          exact Delivers.observe_eq (parseReceived_eq hne hstored) backend.atEnd
        · have htype := hf.known.resolve_left hlast
          obtain ⟨calls, buf, window, hloop, hheld', hresized⟩ :=
            receiveLoop_step hb hheld htype hf.wellFormed hf.length hroomFor hin fuel
          rw [if_neg hlast] at hrest ⊢
          have hnext : (backend.skip f.encode.length calls).incoming =
              frames.flatMap Frame.encode ++ rest := by
            rw [Source.skip_incoming, hin, List.drop_left]
          rw [hloop]
          have hloop' := ih fuel (moved_backend self (backend.skip f.encode.length calls) buf)
            hheld' (hsized.resized hresized) hframes hnext hrest (Nat.lt_of_succ_lt_succ hfuel)
          exact hloop'
      · rw [if_neg hfits]
        exact receiveLoop_refused hb hheld hsized hf hfits hin fuel

/-- The receiver connected to `backend`. -/
def reading (self : Receiver) (backend : Backend) : Receiver :=
  { self with tcp_backend_ := some backend }

/-- One call on a stream that begins with the given frames. -/
theorem recvAndParseOnePacket_reception (self : Receiver) (hbuf : self.recv_buf_.length < 2 ^ 64)
    {frames : List Frame} (hframes : ∀ f ∈ frames, f.OnStream)
    (hin : backend.incoming = frames.flatMap Frame.encode ++ rest)
    (hrest : reception self.buffer_policy_ self.recv_buf_.length [] frames = .ended → rest = []) :
    observe (self.reading backend).recvAndParseOnePacket_ =
      (reception self.buffer_policy_ self.recv_buf_.length [] frames).outcome self
        backend.atEnd := by
  have hsized : Sized (self.reading backend) self.recv_buf_.length := ⟨fun _ => rfl, Nat.le_refl _, .inl (Nat.le_refl _), hbuf⟩
  have hfuel : frames.length < backend.incoming.length + 1 := by
    have hcount := Frame.length_le_flatMap_encode frames
    rw [hin, List.length_append]
    omega
  have hloop := receiveLoop_reception frames (backend.incoming.length + 1)
    (show (self.reading backend).tcp_backend_ = some backend from rfl) (Holds.whole _) hsized
    hframes hin hrest hfuel
  exact hloop

end Receiver

section Insertion

variable {policy : BufferPolicy} {capacity : Nat} {acc : List UInt8}

theorem Inserted.mem {start : Bool} {frames inserted : List Frame}
    (h : Inserted start frames inserted) {f : Frame} (hf : f ∈ frames) : f ∈ inserted := by
  induction h with
  | nil => exact hf
  | keep g rest ih =>
      obtain rfl | hf := List.mem_cons.mp hf
      · exact List.mem_cons_self
      · exact List.mem_cons_of_mem _ (ih hf)
  | timeCode timecode rest ih => exact List.mem_cons_of_mem _ (ih hf)
  | discarded packet e hpacket hend rest ih =>
      exact List.mem_append_right _ (List.mem_cons_of_mem _ (ih hf))

/-- A last frame keeps the call from running into the end of the stream. -/
theorem reception_ne_ended {frames : List Frame} (h : ∃ f ∈ frames, f.type = 0x00) :
    reception policy capacity acc frames ≠ .ended := by
  induction frames generalizing acc with
  | nil =>
      obtain ⟨f, hf, -⟩ := h
      contradiction
  | cons f frames ih =>
      rw [reception]
      split
      · split
        · exact Reception.noConfusion
        · rename_i hlast
          obtain ⟨g, hg, hend⟩ := h
          obtain rfl | hg := List.mem_cons.mp hg
          · contradiction
          · exact ih ⟨g, hg, hend⟩
      · exact Reception.noConfusion

theorem reception_packet_ne_nil {frames : List Frame} (hframes : ∀ f ∈ frames, f.OnStream)
    {payload : List UInt8} (h : reception policy capacity acc frames = .packet payload) :
    payload ≠ [] := by
  induction frames generalizing acc with
  | nil => contradiction
  | cons f frames ih =>
      obtain ⟨hf, hframes⟩ := List.forall_mem_cons.mp hframes
      rw [reception] at h
      split at h
      · split at h
        · cases h
          simp [hf.wellFormed.1]
        · exact ih hframes h
      · contradiction

/-- A caller can tell a refusal from the other outcomes. -/
theorem outcome_refused_iff (self : Receiver) {atEnd : Option ErrorCode} {r : Reception}
    (hpacket : ∀ payload, r = .packet payload → payload ≠ [])
    (hended : r = .ended → atEnd ≠ some (.errc .no_buffer_space)) :
    Reception.refused.outcome self atEnd = r.outcome self atEnd ↔ r = .refused := by
  refine ⟨?_, fun h => by rw [h]⟩
  intro hsame
  cases r with
  | refused => rfl
  | packet payload =>
      obtain ⟨status, next, hparse⟩ := self.packet_parser_.parse_total (hpacket payload rfl)
      rw [Reception.outcome, Reception.outcome, hparse] at hsame
      split at hsame
      · have hparsed : self.parsed = self.parsed ++ [payload] :=
          congrArg (fun r => r.2.2) (Option.some.inj hsame)
        simp at hparsed
      · cases hsame
  | ended =>
      rw [Reception.outcome, Reception.outcome] at hsame
      split at hsame
      · have hresult := congrArg (fun r => r.1) (Option.some.inj hsame)
        cases hend : atEnd with
        | none =>
            rw [hend] at hresult
            cases hresult
        | some e =>
            rw [hend] at hresult
            cases hresult
            exact absurd hend (hended rfl)
      · cases hsame

/-- The frames of one packet and nothing else. -/
def OnePacket (frames : List Frame) : Prop :=
  ∃ front last, frames = front ++ [last] ∧ (∀ f ∈ front, f.type = 0x02) ∧ last.type = 0x00

def payloadSize (frames : List Frame) : Nat := (frames.map (·.payload.length)).sum

/-- A fixed buffer admits a packet by the size of its payload. -/
theorem admits_onePacket {frames : List Frame} (h : OnePacket frames) (size : Nat) :
    admits .Fixed capacity size frames = true ↔ size + payloadSize frames ≤ capacity := by
  obtain ⟨front, last, rfl, hfront, hlast⟩ := h
  induction front generalizing size with
  | nil => simp [admits, BufferPolicy.fits, payloadSize, hlast]
  | cons f front ih =>
      obtain ⟨hf, hfront⟩ := List.forall_mem_cons.mp hfront
      have hgathered : f.gathered size = size + f.payload.length := by
        simp [Frame.gathered, Frame.isErrorEnd, Frame.isData, hf]
      have hcontinues : f.type ≠ 0x00 := by
        rw [hf]
        decide
      have hsize : payloadSize (f :: (front ++ [last])) =
          f.payload.length + payloadSize (front ++ [last]) := rfl
      rw [List.cons_append, admits, hgathered, hsize, Bool.and_eq_true, Bool.or_eq_true,
        decide_eq_true_eq, or_iff_right hcontinues, ih _ hfront, BufferPolicy.fits,
        decide_eq_true_eq]
      omega

/-- With a fixed buffer the call reports `no_buffer_space` for a refused stream only. -/
theorem refused_of_no_buffer_space {self receiver : Receiver} {backend : Backend}
    {frames : List Frame}
    (hseen : observe (self.reading backend).recvAndParseOnePacket_ =
      (reception self.buffer_policy_ self.recv_buf_.length [] frames).outcome self backend.atEnd)
    (hlast : ∃ f ∈ frames, f.type = 0x00)
    (h : (self.reading backend).recvAndParseOnePacket_ =
      .ok (.error (.errc .no_buffer_space), receiver)) :
    reception self.buffer_policy_ self.recv_buf_.length [] frames = .refused := by
  rw [h] at hseen
  cases hr : reception self.buffer_policy_ self.recv_buf_.length [] frames with
  | refused => rfl
  | ended => exact absurd hr (reception_ne_ended hlast)
  | packet payload =>
      rw [hr, Reception.outcome] at hseen
      cases hparse : self.packet_parser_.parse payload with
      | error fault =>
          rw [hparse] at hseen
          cases hseen
      | ok r =>
          rw [hparse] at hseen
          have hresult : (.error (.errc .no_buffer_space) : Except ErrorCode Nat) =
              if r.1 = .Success then .ok payload.length else .error (.status r.1) :=
            congrArg (fun r => r.1) (Option.some.inj hseen)
          split at hresult
          · cases hresult
          · cases hresult

theorem no_buffer_space_of_refused {self : Receiver} {backend : Backend} {frames : List Frame}
    (hpolicy : self.buffer_policy_ = .Fixed)
    (hseen : observe (self.reading backend).recvAndParseOnePacket_ =
      (reception self.buffer_policy_ self.recv_buf_.length [] frames).outcome self backend.atEnd)
    (hrefused : reception self.buffer_policy_ self.recv_buf_.length [] frames = .refused) :
    ∃ receiver, (self.reading backend).recvAndParseOnePacket_ =
      .ok (.error (.errc .no_buffer_space), receiver) := by
  rw [hrefused, Reception.outcome, if_pos hpolicy] at hseen
  cases hrun : (self.reading backend).recvAndParseOnePacket_ with
  | error fault =>
      rw [hrun] at hseen
      cases hseen
  | ok r =>
      rw [hrun] at hseen
      have hresult : r.1 = .error (.errc .no_buffer_space) :=
        congrArg (fun r => r.1) (Option.some.inj hseen)
      exact ⟨r.2, by rw [← hresult]⟩

/-- Frames that are inserted into a stream change what the caller sees exactly if the stream
passes the length check without them and not with them. For a packet with a fixed buffer the
same is exactly when `no_buffer_space` is reported though its own payload fits. -/
theorem insertion_transparent_iff (self : Receiver) (hbuf : self.recv_buf_.length < 2 ^ 64)
    {frames inserted : List Frame} (hinserted : Inserted true frames inserted)
    (hframes : ∀ f ∈ inserted, f.OnStream) {backend backend' : Backend} {rest : List UInt8}
    (hin : backend.incoming = frames.flatMap Frame.encode ++ rest)
    (hin' : backend'.incoming = inserted.flatMap Frame.encode ++ rest)
    (hatEnd : backend'.atEnd = backend.atEnd)
    (hend : (∃ f ∈ frames, f.type = 0x00) ∨
      rest = [] ∧ backend.atEnd ≠ some (.errc .no_buffer_space)) :
    (observe (self.reading backend').recvAndParseOnePacket_ =
        observe (self.reading backend).recvAndParseOnePacket_ ↔
      (admits self.buffer_policy_ self.recv_buf_.length 0 frames = true →
        admits self.buffer_policy_ self.recv_buf_.length 0 inserted = true)) ∧
    (self.buffer_policy_ = .Fixed → OnePacket frames →
      ((∀ receiver, (self.reading backend').recvAndParseOnePacket_ =
            .ok (.error (.errc .no_buffer_space), receiver) →
          self.recv_buf_.length < payloadSize frames) ↔
        (admits self.buffer_policy_ self.recv_buf_.length 0 frames = true →
          admits self.buffer_policy_ self.recv_buf_.length 0 inserted = true))) := by
  have hown : ∀ f ∈ frames, f.OnStream := fun f hf => hframes f (hinserted.mem hf)
  have hrest : ∀ frames', (∀ f ∈ frames, f ∈ frames') →
      reception self.buffer_policy_ self.recv_buf_.length [] frames' = .ended → rest = [] := by
    intro frames' hsub hended
    obtain ⟨f, hf, hlast⟩ | ⟨hrest, -⟩ := hend
    · exact absurd hended (reception_ne_ended ⟨f, hsub f hf, hlast⟩)
    · exact hrest
  have hseen := self.recvAndParseOnePacket_reception hbuf hown hin
    (hrest frames fun _ hf => hf)
  have hseen' := self.recvAndParseOnePacket_reception hbuf hframes hin'
    (hrest inserted fun _ hf => hinserted.mem hf)
  have hadmits : ∀ frames', admits self.buffer_policy_ self.recv_buf_.length 0 frames' = true ↔
      reception self.buffer_policy_ self.recv_buf_.length [] frames' ≠ .refused :=
    admits_iff []
  refine ⟨?_, ?_⟩
  · rw [hseen, hseen', hatEnd, hadmits, hadmits]
    refine ⟨?_, ?_⟩
    · intro hsame hfits hrefused
      rw [hrefused, outcome_refused_iff self fun _ => reception_packet_ne_nil hown] at hsame
      · exact hfits hsame
      · intro hended
        obtain hlast | ⟨-, hatEnd⟩ := hend
        · exact absurd hended (reception_ne_ended hlast)
        · exact hatEnd
    · intro hcondition
      by_cases hrefused :
          reception self.buffer_policy_ self.recv_buf_.length [] inserted = .refused
      · rw [hrefused, not_not.mp fun hfits => hcondition hfits hrefused]
      · rw [hinserted.reception_eq (fun _ => rfl) hrefused]
  · intro hpolicy hpacket
    have hown : admits self.buffer_policy_ self.recv_buf_.length 0 frames = true ↔
        payloadSize frames ≤ self.recv_buf_.length := by
      rw [hpolicy, admits_onePacket hpacket, Nat.zero_add]
    have hlast : ∃ f ∈ inserted, f.type = 0x00 := by
      obtain ⟨front, last, hsplit, -, hlast⟩ := hpacket
      exact ⟨last, hinserted.mem (by simp [hsplit]), hlast⟩
    rw [hadmits inserted, hown]
    refine ⟨?_, ?_⟩
    · intro hspace hfits hrefused
      obtain ⟨receiver, hrun⟩ := no_buffer_space_of_refused hpolicy hseen' hrefused
      exact absurd hfits (Nat.not_le.mpr (hspace receiver hrun))
    · intro hcondition receiver hrun
      by_contra hfits
      exact hcondition (Nat.not_lt.mp hfits) (refused_of_no_buffer_space hseen' hlast hrun)

end Insertion

/-- A write reply in two parts. -/
def splitReply : List Frame :=
  [{ type := 0x02, payload := [0x01, 0x34, 0x01, 0x3C, 0x00, 0xFE, 0x00, 0x20] },
    { type := 0x00, payload := [0x74] }]

theorem splitReply_onStream : ∀ f ∈ splitReply, f.OnStream := by
  intro f hf
  obtain rfl | rfl := List.mem_pair.mp hf
  · exact ⟨.inr (.inl rfl), ⟨by simp, fun h => absurd h (by decide)⟩, by decide⟩
  · exact ⟨.inl rfl, ⟨by simp, fun h => absurd h (by decide)⟩, by decide⟩

theorem timeCodeFrame_onStream (timecode : UInt8) : (Node.timeCodeFrame timecode).OnStream where
  known := .inr (.inr (.inr rfl))
  wellFormed := ⟨List.cons_ne_nil _ _, fun _ => ⟨rfl, timecode, rfl⟩⟩
  length := show 2 < 2 ^ 64 by decide

/-- A receiver with a fixed buffer of nine bytes, the size of the reply. -/
def nineBytes : Receiver where
  tcp_backend_ := none
  recv_buf_ := List.replicate 9 0
  buffer_policy_ := .Fixed

def streamOf (frames : List Frame) : Backend where
  incoming := frames.flatMap Frame.encode

/-- A time code before the reply. -/
theorem insertion_transparent_iff_before :
    observe (nineBytes.reading
        (streamOf (Node.timeCodeFrame 7 :: splitReply))).recvAndParseOnePacket_ =
      observe (nineBytes.reading (streamOf splitReply)).recvAndParseOnePacket_ := by
  have hinserted : Inserted true splitReply (Node.timeCodeFrame 7 :: splitReply) :=
    .timeCode 7 (.keep _ (.keep _ .nil))
  have hframes : ∀ f ∈ Node.timeCodeFrame 7 :: splitReply, f.OnStream :=
    List.forall_mem_cons.mpr ⟨timeCodeFrame_onStream 7, splitReply_onStream⟩
  have hlast : ∃ f ∈ splitReply, f.type = 0x00 :=
    ⟨_, List.mem_cons_of_mem _ List.mem_cons_self, rfl⟩
  have hin : ∀ frames, (streamOf frames).incoming = frames.flatMap Frame.encode ++ [] :=
    fun _ => (List.append_nil _).symm
  exact (insertion_transparent_iff nineBytes (by decide) hinserted hframes (hin _) (hin _) rfl
    (.inl hlast)).1.mpr fun _ => by decide

/-- The reply with a time code between its parts. -/
def interruptedReply : List Frame :=
  [{ type := 0x02, payload := [0x01, 0x34, 0x01, 0x3C, 0x00, 0xFE, 0x00, 0x20] },
    Node.timeCodeFrame 7, { type := 0x00, payload := [0x74] }]

/-- One byte of the buffer is left for the time code, so the call fails, though the reply
fits. -/
theorem interruptedReply_refused :
    Inserted true splitReply interruptedReply ∧ (∀ f ∈ interruptedReply, f.OnStream) ∧
      OnePacket splitReply ∧ payloadSize splitReply ≤ nineBytes.recv_buf_.length ∧
      (nineBytes.reading (streamOf splitReply)).recvAndParseOnePacket_.map (fun r => r.1) =
        .ok (.ok 9) ∧
      (nineBytes.reading (streamOf interruptedReply)).recvAndParseOnePacket_.map (fun r => r.1) =
        .ok (.error (.errc .no_buffer_space)) := by
  obtain ⟨hfirst, hrest⟩ := List.forall_mem_cons.mp splitReply_onStream
  refine ⟨.keep _ (.timeCode 7 (.keep _ .nil)), ?_, ?_, by decide, by decide +kernel,
    by decide +kernel⟩
  · exact List.forall_mem_cons.mpr ⟨hfirst, List.forall_mem_cons.mpr
      ⟨timeCodeFrame_onStream 7, hrest⟩⟩
  · exact ⟨[_], _, rfl, List.forall_mem_singleton.mpr rfl, rfl⟩

end SpwRmap
