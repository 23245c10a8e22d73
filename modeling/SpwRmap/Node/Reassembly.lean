import Mathlib.Data.List.DropRight
import SpwRmap.Node.Exact
import SpwRmap.Packet.ParserSpec

/-!
# Reassembly of a packet from its frames

A node with an automatically resized buffer receives a sequence of frames whose
last one has type `0x00`. However the stream is cut into chunks, the loop of
`recvAndParseOnePacket_` keeps one invariant, `Holds`: the payload gathered since
the last error end lies at the front of `recv_buf_`, `total_size` is its length
and `recv_buffer` is the rest of the buffer. Each frame takes the loop from the
payload gathered before it to the payload gathered after it.
-/

namespace SpwRmap

open Span Bytes Stream

/-- A frame on the wire. Header bytes 2 and 3 are ignored except in time codes. -/
structure Frame where
  type : UInt8
  extra : UInt8 × UInt8 := (0, 0)
  payload : List UInt8
  deriving DecidableEq, Repr

namespace Frame

def header (f : Frame) : List UInt8 :=
  f.type :: 0x00 :: f.extra.1 :: f.extra.2 :: toBigEndian 8 f.payload.length

def encode (f : Frame) : List UInt8 := f.header ++ f.payload

def isData (f : Frame) : Bool := f.type = 0x02 ∨ f.type = 0x00

def isErrorEnd (f : Frame) : Bool := f.type = 0x01

def isTimeCode (f : Frame) : Bool := f.type = 0x30 ∨ f.type = 0x31

/-- A payload, and in a time code the two bytes that `emitTimeCode` sends. -/
def WellFormed (f : Frame) : Prop :=
  f.payload ≠ [] ∧ (f.isTimeCode → f.extra = (0, 0) ∧ ∃ timecode, f.payload = [timecode, 0x00])

/-- The payload gathered after a frame, from the payload gathered before it. -/
def gather (f : Frame) (acc : List UInt8) : List UInt8 :=
  if f.isErrorEnd then [] else if f.isData then acc ++ f.payload else acc

/-- The payloads of the data frames that follow the last error end. -/
def delivered (frames : List Frame) : List UInt8 :=
  ((frames.rtakeWhile fun f => !f.isErrorEnd).filter isData).flatMap payload

theorem isErrorEnd_iff {f : Frame} : f.isErrorEnd = true ↔ f.type = 0x01 := by
  simp [isErrorEnd]

theorem isTimeCode_iff {f : Frame} : f.isTimeCode = true ↔ f.type = 0x30 ∨ f.type = 0x31 := by
  simp [isTimeCode]

@[simp] theorem header_length (f : Frame) : f.header.length = 12 := by
  simp [header]

@[simp] theorem encode_length (f : Frame) : f.encode.length = 12 + f.payload.length := by
  simp [encode]

/-- Each frame takes at least its header, so the stream bounds their number. -/
theorem length_le_flatMap_encode (frames : List Frame) :
    frames.length ≤ (frames.flatMap encode).length := by
  induction frames with
  | nil => exact Nat.le_refl 0
  | cons f frames ih =>
      simp only [List.length_cons, List.flatMap_cons, List.length_append, encode_length]
      omega

/-- Gathering frame by frame yields the delivered payload. -/
theorem foldl_gather (frames : List Frame) :
    frames.foldl (fun acc f => f.gather acc) [] = delivered frames := by
  induction frames using List.reverseRecOn with
  | nil => rfl
  | append_singleton frames f ih =>
      rw [List.foldl_concat, ih, gather]
      simp only [delivered, List.rtakeWhile_concat]
      cases hend : f.isErrorEnd with
      | true => simp
      | false =>
          cases hdata : f.isData with
          | true => simp [hdata]
          | false => simp [hdata]

theorem calculateDataLength_header (f : Frame) (h : f.payload.length < 2 ^ 64) :
    calculateDataLength f.header = .ok f.payload.length := by
  rw [calculateDataLength, if_neg (by simp)]
  have hfield : (f.header.drop 4).take 8 = toBigEndian 8 f.payload.length := by
    rw [header, List.drop_succ_cons, List.drop_succ_cons, List.drop_succ_cons,
      List.drop_succ_cons, List.drop_zero, List.take_of_length_le (by simp)]
  rw [hfield, orShifted_toBigEndian (by simpa using h)]

end Frame

namespace Receiver

/-- The gathered payload lies at the front of the buffer and the window is the
rest of it. -/
structure Holds (receiver : Receiver) (recv_buffer : Window) (acc : List UInt8) : Prop where
  offset : recv_buffer.offset = acc.length
  size : recv_buffer.offset + recv_buffer.size = receiver.recv_buf_.length
  stored : receiver.recv_buf_.take acc.length = acc

theorem Holds.whole (self : Receiver) : Holds self self.wholeBuffer [] :=
  ⟨rfl, Nat.zero_add _, rfl⟩

/-- There is room for so many bytes, or it can be made: the buffer may grow, and to that
size. -/
def RoomFor (self : Receiver) (bytes : Nat) : Prop :=
  bytes ≤ self.recv_buf_.length ∨ self.buffer_policy_ = .AutoResize ∧ bytes ≤ max_size

/-- The buffer as it was, or one that has grown. -/
def Resized (self : Receiver) (buf : List UInt8) : Prop :=
  buf.length = self.recv_buf_.length ∨
    self.buffer_policy_ = .AutoResize ∧ self.recv_buf_.length ≤ buf.length ∧
      buf.length ≤ max_size

section Steps

variable {self : Receiver} {backend : Backend} {recv_buffer : Window}
variable {acc rest : List UInt8} {f : Frame}

/-- A resized buffer still holds the gathered payload and has room for the next one. -/
theorem ensureRoom_eq {dataLength : Nat} (hheld : Holds self recv_buffer acc)
    (hroomFor : self.RoomFor (acc.length + dataLength)) :
    ∃ window buf, self.ensureRoom acc.length dataLength recv_buffer =
        .ok (.ok window, { self with recv_buf_ := buf }) ∧
      Holds { self with recv_buf_ := buf } window acc ∧ dataLength ≤ window.size ∧
      self.Resized buf := by
  have hsize := hheld.size
  rw [hheld.offset] at hsize
  rw [ensureRoom]
  by_cases hroom : dataLength > recv_buffer.size
  · obtain ⟨hpolicy, hbound⟩ := hroomFor.resolve_left (by omega)
    have hgrows : self.recv_buf_.length ≤ acc.length + dataLength := by omega
    refine ⟨⟨acc.length, dataLength⟩, resize 0 self.recv_buf_ (acc.length + dataLength), ?_, ?_,
      Nat.le_refl _, .inr ⟨hpolicy, ?_⟩⟩
    · have hlt : acc.length + dataLength < 2 ^ 64 := Nat.lt_of_le_of_lt hbound max_size_lt
      rw [Nat.mod_eq_of_lt hlt, tryResize_eq 0 (.inr hbound), ok_bind]
      simp [hroom, hpolicy]
    · refine ⟨rfl, by simp, ?_⟩
      have hfront := resize_take 0 hgrows
      calc (resize 0 self.recv_buf_ (acc.length + dataLength)).take acc.length
          = ((resize 0 self.recv_buf_ (acc.length + dataLength)).take
              self.recv_buf_.length).take acc.length := by
            rw [List.take_take, Nat.min_eq_left (by omega)]
        _ = acc := by rw [hfront, hheld.stored]
    · rw [resize_length]
      exact ⟨hgrows, hbound⟩
  · exact ⟨recv_buffer, self.recv_buf_, if_neg hroom, hheld, by omega, .inl rfl⟩

/-- The payload of a data frame is stored behind the gathered payload. -/
theorem recvPayload_eq (hb : self.tcp_backend_ = some backend)
    (hheld : Holds self recv_buffer acc) {payload : List UInt8}
    (hroom : payload.length ≤ recv_buffer.size) (hin : backend.incoming = payload ++ rest) :
    ∃ calls buf, self.recvPayload payload.length recv_buffer =
        .ok (.ok payload.length, self.moved (backend.skip payload.length calls) buf) ∧
      buf.length = self.recv_buf_.length ∧
      buf.take (acc ++ payload).length = acc ++ payload := by
  obtain ⟨calls, hexact⟩ := recvExact_of_le hb (n := payload.length) (by simp [hin])
  rw [hin, List.take_left] at hexact
  have hsize := hheld.size
  rw [hheld.offset] at hsize
  refine ⟨calls, store self.recv_buf_ acc.length payload, ?_, ?_, ?_⟩
  · rw [recvPayload, if_pos hroom, hexact, hheld.offset]
    rfl
  · exact store_length (by omega)
  · rw [List.length_append, store_take (by omega), hheld.stored]

/-- A frame with a known type and a payload reaches the check of its length. What follows
is decided by that check. -/
theorem receiveFrame_checked (hb : self.tcp_backend_ = some backend)
    (htype : f.type ∈ [0x00, 0x01, 0x02, 0x31, 0x30]) (hne : f.payload ≠ [])
    (hlength : f.payload.length < 2 ^ 64) (hin : backend.incoming = f.encode ++ rest)
    (total_size : Nat) (recv_buffer : Window) :
    ∃ calls,
      (∀ window receiver, (self.moved (backend.skip 12 calls) self.recv_buf_).ensureRoom
          total_size f.payload.length recv_buffer = .ok (.ok window, receiver) →
        self.receiveFrame total_size recv_buffer =
          receiver.receiveBody f.header total_size f.payload.length window) ∧
      (∀ e receiver, (self.moved (backend.skip 12 calls) self.recv_buf_).ensureRoom
          total_size f.payload.length recv_buffer = .ok (.error e, receiver) →
        self.receiveFrame total_size recv_buffer = .ok (.done (.error e), receiver)) ∧
      ∀ fault, (self.moved (backend.skip 12 calls) self.recv_buf_).ensureRoom
          total_size f.payload.length recv_buffer = .error fault →
        self.receiveFrame total_size recv_buffer = .error fault := by
  have hfront : backend.incoming.take 12 = f.header := by
    rw [hin, Frame.encode, List.append_assoc, List.take_left' f.header_length]
  obtain ⟨calls, hexact⟩ := recvExact_of_le hb (n := 12) (by simp [hin]; omega)
  rw [hfront] at hexact
  have hheader : store (List.replicate 12 0x00) 0 f.header = f.header := by
    simp [store]
  have hpos : f.payload.length ≠ 0 := by simpa using hne
  simp only [receiveFrame, hexact, ok_bind, hheader]
  rw [if_neg (not_not_intro (show f.header.getD 0 0 ∈ _ from htype)),
    if_neg (by simp [Frame.header]), Frame.calculateDataLength_header f hlength]
  simp only [if_neg hpos]
  refine ⟨calls, ?_, ?_, ?_⟩
  · intro window receiver hensure
    rw [hensure]
    rfl
  · intro e receiver hensure
    rw [hensure]
    rfl
  · intro fault hensure
    rw [hensure]
    rfl

/-- Every well-formed frame reaches the `switch` with its header, its length and
room for its payload. -/
theorem receiveFrame_eq (hb : self.tcp_backend_ = some backend)
    (hheld : Holds self recv_buffer acc) (htype : f.type ∈ [0x00, 0x01, 0x02, 0x31, 0x30])
    (hne : f.payload ≠ []) (hlength : f.payload.length < 2 ^ 64)
    (hroomFor : self.RoomFor (acc.length + f.payload.length))
    (hin : backend.incoming = f.encode ++ rest) :
    ∃ calls window buf,
      self.receiveFrame acc.length recv_buffer =
        (self.moved (backend.skip 12 calls) buf).receiveBody f.header acc.length
          f.payload.length window ∧
      Holds (self.moved (backend.skip 12 calls) buf) window acc ∧
      f.payload.length ≤ window.size ∧ self.Resized buf := by
  obtain ⟨calls, hreached, -⟩ :=
    receiveFrame_checked hb htype hne hlength hin acc.length recv_buffer
  have hmoved : Holds (self.moved (backend.skip 12 calls) self.recv_buf_) recv_buffer acc :=
    ⟨hheld.offset, hheld.size, hheld.stored⟩
  have hroomFor : (self.moved (backend.skip 12 calls) self.recv_buf_).RoomFor
      (acc.length + f.payload.length) := hroomFor
  obtain ⟨window, buf, hensure, hheld', hroom, hresized⟩ := ensureRoom_eq hmoved hroomFor
  exact ⟨calls, window, buf, hreached _ _ hensure, hheld', hroom, hresized⟩

/-- What is left of the stream after the header of its first frame. -/
theorem skip_header (hin : backend.incoming = f.encode ++ rest) (calls : Nat) :
    (backend.skip 12 calls).incoming = f.payload ++ rest := by
  rw [Source.skip_incoming, hin, Frame.encode, List.append_assoc, List.drop_left' f.header_length]

/-- A final frame leaves the loop with the whole packet at the front of the buffer. -/
theorem receiveLoop_last (hb : self.tcp_backend_ = some backend)
    (hheld : Holds self recv_buffer acc) (htype : f.type = 0x00) (hne : f.payload ≠ [])
    (hlength : f.payload.length < 2 ^ 64) (hroomFor : self.RoomFor (acc.length + f.payload.length))
    (hin : backend.incoming = f.encode ++ rest) (fuel : Nat) :
    ∃ calls buf,
      receiveLoop (fuel + 1) self acc.length recv_buffer =
        (self.moved (backend.skip f.encode.length calls) buf).parseReceived
          (acc ++ f.payload).length ∧
      buf.take (acc ++ f.payload).length = acc ++ f.payload := by
  obtain ⟨calls, window, buf, hframe, hheld', hroom, -⟩ :=
    receiveFrame_eq hb hheld (by simp [htype]) hne hlength hroomFor hin
  obtain ⟨calls', buf', hpayload, -, hstored⟩ :=
    recvPayload_eq rfl hheld' hroom (skip_header hin calls)
  refine ⟨calls', buf', ?_, hstored⟩
  have hbody : (self.moved (backend.skip 12 calls) buf).receiveBody f.header acc.length
      f.payload.length window = .ok (.eof (acc ++ f.payload).length,
        self.moved (backend.skip f.encode.length calls') buf') := by
    rw [receiveBody, if_pos (show f.header.getD 0 0 = 0x00 from htype), hpayload,
      List.length_append, Frame.encode_length, Source.skip_skip]
    rfl
  rw [receiveLoop, hframe, hbody, ok_bind]

/-- Continued data joins the packet, and the window moves past it. -/
theorem receiveBody_continued (hb : self.tcp_backend_ = some backend)
    (hheld : Holds self recv_buffer acc) (htype : f.type = 0x02)
    (hroom : f.payload.length ≤ recv_buffer.size) (hin : backend.incoming = f.payload ++ rest) :
    ∃ calls buf window,
      self.receiveBody f.header acc.length f.payload.length recv_buffer =
        .ok (.again (acc ++ f.payload).length window,
          self.moved (backend.skip f.payload.length calls) buf) ∧
      Holds (self.moved (backend.skip f.payload.length calls) buf) window (acc ++ f.payload) ∧
      buf.length = self.recv_buf_.length := by
  obtain ⟨calls, buf, hpayload, hlen, hstored⟩ := recvPayload_eq hb hheld hroom hin
  refine ⟨calls, buf,
    ⟨recv_buffer.offset + f.payload.length, recv_buffer.size - f.payload.length⟩, ?_,
    ⟨?_, ?_, ?_⟩, hlen⟩
  · have hswitch : f.header.getD 0 0 = 0x02 := htype
    simp only [receiveBody, hswitch, hpayload, ok_bind, if_pos hroom]
    rw [List.length_append]
    rfl
  · rw [hheld.offset, List.length_append]
  · have hsize := hheld.size
    simp only [moved_recv_buf, hlen]
    omega
  · exact hstored

/-- The payload of an error end is skipped and the packet starts again. -/
theorem receiveBody_errorEnd (hb : self.tcp_backend_ = some backend) (htype : f.isErrorEnd)
    (hin : backend.incoming = f.payload ++ rest) (total_size : Nat) (recv_buffer : Window) :
    ∃ calls, self.receiveBody f.header total_size f.payload.length recv_buffer =
      .ok (.restart, self.moved (backend.skip f.payload.length calls) self.recv_buf_) := by
  obtain ⟨calls, hignore⟩ := ignoreNBytes_of_le hb (n := f.payload.length) (by simp [hin])
  have hswitch : f.header.getD 0 0 = 0x01 := Frame.isErrorEnd_iff.mp htype
  refine ⟨calls, ?_⟩
  simp only [receiveBody, hswitch, hignore, ok_bind]
  rfl

/-- The two bytes of a time code are stored outside the buffer. -/
theorem receiveBody_timeCode (hb : self.tcp_backend_ = some backend) (htype : f.isTimeCode)
    (hwf : f.WellFormed) (hin : backend.incoming = f.payload ++ rest) (total_size : Nat)
    (recv_buffer : Window) :
    ∃ calls, self.receiveBody f.header total_size f.payload.length recv_buffer =
      .ok (.again total_size recv_buffer,
        self.moved (backend.skip f.payload.length calls) self.recv_buf_) := by
  obtain ⟨hextra, timecode, hpayload⟩ := hwf.2 htype
  have htwo : f.payload.length = 2 := by simp [hpayload]
  obtain ⟨calls, hexact⟩ := recvExact_of_le hb (n := 2) (by simp [hin, hpayload])
  have hheader : f.header.drop 2 = timeCodeHeader := by
    simp only [Frame.header, hextra, htwo]
    rfl
  have hswitch : f.header.getD 0 0 = 0x30 ∨ f.header.getD 0 0 = 0x31 :=
    Frame.isTimeCode_iff.mp htype
  have hreceived : backend.incoming.take 2 = [timecode, 0x00] := by
    rw [hin, ← htwo, List.take_left, hpayload]
  rw [hreceived] at hexact
  refine ⟨calls, ?_⟩
  rw [htwo]
  obtain hswitch | hswitch := hswitch
  · simp only [receiveBody, hswitch, hheader, hexact, ok_bind]
    rfl
  · simp only [receiveBody, hswitch, hheader, hexact, ok_bind]
    rfl

/-- Any other frame takes the loop to its next round, with the payload gathered
so far extended, kept or dropped. -/
theorem receiveLoop_step (hb : self.tcp_backend_ = some backend)
    (hheld : Holds self recv_buffer acc) (htype : f.type = 0x02 ∨ f.isErrorEnd ∨ f.isTimeCode)
    (hwf : f.WellFormed) (hlength : f.payload.length < 2 ^ 64)
    (hroomFor : self.RoomFor (acc.length + f.payload.length))
    (hin : backend.incoming = f.encode ++ rest) (fuel : Nat) :
    ∃ calls buf window,
      receiveLoop (fuel + 1) self acc.length recv_buffer =
        receiveLoop fuel (self.moved (backend.skip f.encode.length calls) buf)
          (f.gather acc).length window ∧
      Holds (self.moved (backend.skip f.encode.length calls) buf) window (f.gather acc) ∧
      self.Resized buf := by
  have hknown : f.type ∈ [0x00, 0x01, 0x02, 0x31, 0x30] := by
    obtain h | h | h := htype
    · simp [h]
    · simp [Frame.isErrorEnd_iff.mp h]
    · obtain h | h := Frame.isTimeCode_iff.mp h
      · simp [h]
      · simp [h]
  obtain ⟨calls, window, buf, hframe, hheld', hroom, hresized⟩ :=
    receiveFrame_eq hb hheld hknown hwf.1 hlength hroomFor hin
  have hrest := skip_header hin calls
  rw [receiveLoop, hframe, Frame.encode_length]
  obtain hdata | hend | htime := htype
  · obtain ⟨calls', buf', window', hbody, hheld'', hlen⟩ :=
      receiveBody_continued rfl hheld' hdata hroom hrest
    have hgather : f.gather acc = acc ++ f.payload := by
      simp [Frame.gather, Frame.isErrorEnd, Frame.isData, hdata]
    rw [Source.skip_skip] at hbody hheld''
    rw [hbody, hgather]
    refine ⟨calls', buf', window', rfl, hheld'', ?_⟩
    rw [Resized, hlen]
    exact hresized
  · obtain ⟨calls', hbody⟩ :=
      receiveBody_errorEnd (moved_backend self _ buf) hend hrest acc.length window
    have hgather : f.gather acc = [] := by
      simp [Frame.gather, hend]
    rw [Source.skip_skip] at hbody
    rw [hbody, hgather]
    exact ⟨calls', buf, _, rfl, Holds.whole _, hresized⟩
  · obtain ⟨calls', hbody⟩ :=
      receiveBody_timeCode (moved_backend self _ buf) htime hwf hrest acc.length window
    have hgather : f.gather acc = acc := by
      obtain h | h := Frame.isTimeCode_iff.mp htime
      · simp [Frame.gather, Frame.isErrorEnd, Frame.isData, h]
      · simp [Frame.gather, Frame.isErrorEnd, Frame.isData, h]
    rw [Source.skip_skip] at hbody
    rw [hbody, hgather]
    exact ⟨calls', buf, window, rfl, ⟨hheld'.offset, hheld'.size, hheld'.stored⟩, hresized⟩

/-- What a call that received `packet` returns and leaves, by the status of the
parser it ran. -/
def Delivers (self : Receiver) (packet : List UInt8) (backend : Backend)
    (outcome : Checked (Except ErrorCode Nat × Receiver)) : Prop :=
  ∃ status next buf,
    self.packet_parser_.parse packet = .ok (status, next) ∧
    outcome = .ok (if status = .Success then .ok packet.length else .error (.status status),
      { self with
        tcp_backend_ := some backend
        recv_buf_ := buf
        packet_parser_ := next
        parsed := self.parsed ++ [packet] })

/-- Parsing the front of the buffer. -/
theorem parseReceived_eq {packet buf : List UInt8} (hne : packet ≠ [])
    (hstored : buf.take packet.length = packet) :
    Delivers self packet backend ((self.moved backend buf).parseReceived packet.length) := by
  obtain ⟨status, next, hparse⟩ := self.packet_parser_.parse_total hne
  have hlen : packet.length ≤ buf.length := by
    have h := congrArg List.length hstored
    rw [List.length_take] at h
    omega
  refine ⟨status, next, buf, hparse, ?_⟩
  rw [parseReceived, moved_recv_buf, subspan_eq (by omega), ok_bind, List.drop_zero, hstored]
  have hparse' : (self.moved backend buf).packet_parser_.parse packet = .ok (status, next) := hparse
  rw [hparse', ok_bind]
  by_cases hsuccess : status = .Success
  · simp [hsuccess, moved]
  · simp [hsuccess, moved]

/-- The loop over a whole sequence of frames, from any payload gathered before. -/
theorem receiveLoop_frames (frames : List Frame) (last : Frame) (fuel : Nat)
    (hpolicy : self.buffer_policy_ = .AutoResize) (hb : self.tcp_backend_ = some backend)
    (hheld : Holds self recv_buffer acc)
    (htypes : ∀ f ∈ frames, f.type = 0x02 ∨ f.isErrorEnd ∨ f.isTimeCode)
    (hlast : last.type = 0x00) (hwf : ∀ f ∈ frames ++ [last], f.WellFormed)
    (hbound : acc.length + ((frames ++ [last]).map (·.payload.length)).sum ≤ max_size)
    (hfuel : frames.length < fuel)
    (hin : backend.incoming = (frames ++ [last]).flatMap Frame.encode ++ rest) :
    ∃ calls, Delivers self ((frames ++ [last]).foldl (fun acc f => f.gather acc) acc)
      (backend.skip ((frames ++ [last]).flatMap Frame.encode).length calls)
      (receiveLoop fuel self acc.length recv_buffer) := by
  have hmax := max_size_lt
  induction frames generalizing self backend recv_buffer acc fuel with
  | nil =>
      obtain ⟨fuel, rfl⟩ := Nat.exists_eq_add_one.mpr hfuel
      simp only [List.nil_append, List.flatMap_cons, List.flatMap_nil, List.append_nil,
        List.map_cons, List.map_nil, List.sum_cons, List.sum_nil, Nat.add_zero,
        List.mem_singleton, forall_eq, List.foldl_cons, List.foldl_nil] at hin hbound hwf ⊢
      obtain ⟨calls, buf, hloop, hstored⟩ :=
        receiveLoop_last hb hheld hlast hwf.1 (by omega) (.inr ⟨hpolicy, hbound⟩) hin fuel
      have hgather : last.gather acc = acc ++ last.payload := by
        simp [Frame.gather, Frame.isErrorEnd, Frame.isData, hlast]
      rw [hloop, hgather]
      exact ⟨calls, parseReceived_eq (by simp [hwf.1]) hstored⟩
  | cons f frames ih =>
      obtain ⟨fuel, rfl⟩ := Nat.exists_eq_add_one.mpr (Nat.zero_lt_of_lt hfuel)
      simp only [List.cons_append, List.flatMap_cons, List.append_assoc, List.map_cons,
        List.sum_cons, List.forall_mem_cons, List.length_cons, List.foldl_cons]
        at hin hbound hwf htypes hfuel ⊢
      obtain ⟨calls, buf, window, hloop, hheld', -⟩ := receiveLoop_step hb hheld htypes.1 hwf.1
        (by omega) (.inr ⟨hpolicy, by omega⟩) hin fuel
      have hgather : (f.gather acc).length ≤ acc.length + f.payload.length := by
        rw [Frame.gather]
        split
        · simp
        · split
          · simp
          · omega
      have hrest : (backend.skip f.encode.length calls).incoming =
          (frames ++ [last]).flatMap Frame.encode ++ rest := by
        rw [Source.skip_incoming, hin, List.drop_left]
      obtain ⟨calls', status, next, buf', hparse, hout⟩ :=
        ih fuel ((moved_policy self _ buf).trans hpolicy) rfl hheld' htypes.2 hwf.2 (by omega)
          (by omega) hrest
      refine ⟨calls', status, next, buf', hparse, ?_⟩
      rw [hloop, hout, Source.skip_skip, ← List.length_append]
      rfl

end Steps

/-- A node whose buffer grows on demand receives a frame sequence of any length:
`recvAndParseOnePacket_` consumes exactly its bytes and runs `parse` once, on the
delivered payload. -/
theorem recvAndParseOnePacket_delivers (self : Receiver) (backend : Backend)
    (hpolicy : self.buffer_policy_ = .AutoResize) (hb : self.tcp_backend_ = some backend)
    (frames : List Frame) (last : Frame) (rest : List UInt8)
    (htypes : ∀ f ∈ frames, f.type = 0x02 ∨ f.isErrorEnd ∨ f.isTimeCode)
    (hlast : last.type = 0x00) (hwf : ∀ f ∈ frames ++ [last], f.WellFormed)
    (hsum : ((frames ++ [last]).map (·.payload.length)).sum < 2 ^ 63)
    (hin : backend.incoming = (frames ++ [last]).flatMap Frame.encode ++ rest) :
    ∃ calls, Delivers self (Frame.delivered (frames ++ [last]))
      { backend with incoming := rest, calls := calls } self.recvAndParseOnePacket_ := by
  have hfuel : frames.length < backend.incoming.length + 1 := by
    have hframes := Frame.length_le_flatMap_encode (frames ++ [last])
    simp only [hin, List.length_append, List.length_singleton] at hframes ⊢
    omega
  have hbound : ([] : List UInt8).length + ((frames ++ [last]).map (·.payload.length)).sum ≤
      max_size := by
    rw [List.length_nil, Nat.zero_add]
    exact Nat.le_sub_one_of_lt hsum
  obtain ⟨calls, hdelivers⟩ := receiveLoop_frames frames last (backend.incoming.length + 1)
    hpolicy hb (Holds.whole self) htypes hlast hwf hbound hfuel hin
  have hrest : backend.skip ((frames ++ [last]).flatMap Frame.encode).length calls =
      { backend with incoming := rest, calls := calls } := by
    rw [Source.skip, hin, List.drop_left]
  rw [Frame.foldl_gather, hrest] at hdelivers
  refine ⟨calls, ?_⟩
  rw [recvAndParseOnePacket_, hb]
  exact hdelivers

/-- A packet in two parts, after a discarded one and with a time code in between,
at a node whose buffer has one byte. The trailing byte belongs to the next packet. -/
def twoParts : Receiver where
  tcp_backend_ := some {
    incoming := [0x02, 0, 0, 0, 0, 0, 0, 0, 0, 0, 0, 1, 0xAA,
      0x01, 0, 0, 0, 0, 0, 0, 0, 0, 0, 0, 1, 0xBB,
      0x02, 0, 0, 0, 0, 0, 0, 0, 0, 0, 0, 2, 0x41, 0x42,
      0x30, 0, 0, 0, 0, 0, 0, 0, 0, 0, 0, 2, 0x07, 0x00,
      0x00, 0, 0, 0, 0, 0, 0, 0, 0, 0, 0, 1, 0x43, 0x99] }
  recv_buf_ := [0x00]

theorem recvAndParseOnePacket_delivers_twoParts :
    ∃ calls, Delivers twoParts [0x41, 0x42, 0x43] { incoming := [0x99], calls := calls }
      twoParts.recvAndParseOnePacket_ := by
  have hpacket : Frame.delivered ([⟨0x02, (0, 0), [0xAA]⟩, ⟨0x01, (0, 0), [0xBB]⟩,
      ⟨0x02, (0, 0), [0x41, 0x42]⟩, ⟨0x30, (0, 0), [0x07, 0x00]⟩] ++ [⟨0x00, (0, 0), [0x43]⟩]) =
      [0x41, 0x42, 0x43] := by decide
  rw [← hpacket]
  exact recvAndParseOnePacket_delivers twoParts _ rfl rfl _ _ [0x99] (by decide) rfl
    (by simp [Frame.WellFormed, Frame.isTimeCode]) (by decide) rfl

end Receiver

end SpwRmap
