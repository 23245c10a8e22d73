import SpwRmap.Node.Exact

/-!
# Where the receive loop stands

A `Position` is what the loop of `recvAndParseOnePacket_` has before a frame, without
the contents of the buffer: the size gathered, the size of `recv_buf_` and the bytes
still to come. The frame at a position is read off these bytes. `next` moves past a
frame that is complete and lets the loop go on, so that the position at which a call
stops is a function of the stream, of the buffer policy and of the size of the buffer.

The loop follows the positions: at each of them its window is the part of `recv_buf_`
from the gathered size on.
-/

namespace SpwRmap

open Span Bytes Stream

/-- A head of the loop. The size gathered lies inside the buffer. -/
structure Position where
  total_size : Nat
  capacity : Nat
  stream : List UInt8
  inside : total_size ≤ capacity

namespace Position

def header (p : Position) : List UInt8 := p.stream.take 12

def type (p : Position) : UInt8 := p.header.getD 0 0

/-- The length that the header announces. -/
def announced (p : Position) : Nat := orShifted ((p.header.drop 4).take 8)

/-- The header is there and passes the checks in front of the buffer. -/
def Opened (p : Position) : Prop :=
  12 ≤ p.stream.length ∧ p.type ∈ [0x00, 0x01, 0x02, 0x31, 0x30] ∧ p.header.getD 1 0 = 0x00 ∧
    p.announced ≠ 0

/-- The window is too small for the announced length. -/
def Short (p : Position) : Prop := p.capacity - p.total_size < p.announced

/-- The buffer has room or may get it. -/
def Fits (policy : BufferPolicy) (p : Position) : Prop :=
  p.Short → policy = .AutoResize

/-- The buffer cannot grow to the size that it takes. -/
def TooLong (p : Position) : Prop := p.Short ∧ max_size < p.total_size + p.announced

/-- The new size of the buffer is not a `size_t`. -/
def Wraps (p : Position) : Prop := p.Short ∧ 2 ^ 64 ≤ p.total_size + p.announced

/-- The stream ends inside the header or inside the payload that it announces. -/
def Truncated (p : Position) : Prop :=
  p.stream.length < 12 ∨ p.stream.length < 12 + p.announced

/-- A time code as `emitTimeCode` sends it. -/
def TimeCode (p : Position) : Prop :=
  (p.type = 0x30 ∨ p.type = 0x31) ∧ p.header.drop 2 = Receiver.timeCodeHeader ∧
    p.stream.getD 13 0 = 0x00

instance (p : Position) : Decidable p.Opened := inferInstanceAs (Decidable (_ ∧ _))
instance (p : Position) : Decidable p.Short := inferInstanceAs (Decidable (_ < _))
instance (policy : BufferPolicy) (p : Position) : Decidable (p.Fits policy) :=
  inferInstanceAs (Decidable (_ → _))
instance (p : Position) : Decidable p.TooLong := inferInstanceAs (Decidable (_ ∧ _))
instance (p : Position) : Decidable p.Wraps := inferInstanceAs (Decidable (_ ∧ _))
instance (p : Position) : Decidable p.Truncated := inferInstanceAs (Decidable (_ ∨ _))
instance (p : Position) : Decidable p.TimeCode := inferInstanceAs (Decidable (_ ∧ _))

/-- The size of the buffer once it has room for the payload. -/
def grown (p : Position) : Nat := max p.capacity (p.total_size + p.announced)

/-- `recv_buffer`: the buffer from the gathered size on. -/
def window (p : Position) : Window := ⟨p.total_size, p.capacity - p.total_size⟩

/-- `recv_buffer` with room for the payload. -/
def room (p : Position) : Window := ⟨p.total_size, p.grown - p.total_size⟩

/-- The frame gets as far as its payload, which is all there. -/
def Complete (policy : BufferPolicy) (p : Position) : Prop :=
  p.Opened ∧ p.Fits policy ∧ ¬ p.TooLong ∧ ¬ p.Truncated

instance (policy : BufferPolicy) (p : Position) : Decidable (p.Complete policy) :=
  inferInstanceAs (Decidable (_ ∧ _))

/-- The position past a frame, with the size gathered then. -/
def past (p : Position) (total_size : Nat) (h : total_size ≤ p.grown) : Position where
  total_size := total_size
  capacity := p.grown
  stream := p.stream.drop (12 + p.announced)
  inside := h

theorem le_grown (p : Position) : p.total_size ≤ p.grown :=
  p.inside.trans (Nat.le_max_left _ _)

/-- The position after a frame with which a call does not end. -/
def next (policy : BufferPolicy) (p : Position) : Option Position :=
  if p.Complete policy then
    if p.type = 0x02 then
      some (p.past (p.total_size + p.announced) (Nat.le_max_right _ _))
    else if p.type = 0x01 then
      some (p.past 0 (Nat.zero_le _))
    else if p.TimeCode then
      some (p.past p.total_size p.le_grown)
    else
      none
  else
    none

/-- The position after at most `n` frames. -/
def after (policy : BufferPolicy) : Nat → Position → Position
  | 0, p => p
  | n + 1, p =>
      match p.next policy with
      | some q => after policy n q
      | none => p

/-- The position at which a call stops. Each frame takes a byte at least, so that the
stream bounds their number. -/
def last (policy : BufferPolicy) (p : Position) : Position := p.after policy p.stream.length

section

variable {policy : BufferPolicy} {p q : Position}

theorem announced_lt (p : Position) : p.announced < 2 ^ 64 := by
  have hlen : ((p.header.drop 4).take 8).length ≤ 8 := by simp
  rw [announced, orShifted_eq]
  exact Nat.lt_of_lt_of_le (ofBigEndian_lt _) (Nat.pow_le_pow_right (by decide) hlen)

/-- No vector is as long as a sum that wraps. -/
theorem Wraps.tooLong (h : p.Wraps) : p.TooLong :=
  ⟨h.1, Nat.lt_of_lt_of_le max_size_lt h.2⟩

theorem announced_le_room (p : Position) : p.announced ≤ p.room.size := by
  simp only [room, grown]
  omega

theorem room_inside (p : Position) : p.room.offset + p.room.size ≤ p.grown := by
  simp only [room, grown]
  omega

/-- All that a step to the next position says. -/
theorem next_eq_some (h : p.next policy = some q) :
    p.Complete policy ∧
      ((p.type = 0x02 ∧ q = p.past (p.total_size + p.announced) (Nat.le_max_right _ _)) ∨
       (p.type = 0x01 ∧ q = p.past 0 (Nat.zero_le _)) ∨
       (p.TimeCode ∧ q = p.past p.total_size p.le_grown)) := by
  rw [next] at h
  split at h
  · rename_i hcomplete
    refine ⟨hcomplete, ?_⟩
    split at h
    · rename_i htype
      exact .inl ⟨htype, (Option.some.inj h).symm⟩
    split at h
    · rename_i htype
      exact .inr (.inl ⟨htype, (Option.some.inj h).symm⟩)
    split at h
    · rename_i htime
      exact .inr (.inr ⟨htime, (Option.some.inj h).symm⟩)
    · contradiction
  · contradiction

/-- A frame of another kind than the final one is the last only if it is cut off. -/
theorem truncated_of_next_none (h : p.next policy = none) (hopened : p.Opened)
    (hfits : p.Fits policy) (hlong : ¬ p.TooLong)
    (htype : p.type = 0x02 ∨ p.type = 0x01 ∨ p.TimeCode) : p.Truncated := by
  apply Decidable.byContradiction
  intro htrunc
  rw [next, if_pos ⟨hopened, hfits, hlong, htrunc⟩] at h
  split at h
  · contradiction
  split at h
  · contradiction
  split at h
  · contradiction
  · rename_i hdata hdiscard htime
    obtain htype | htype | htype := htype
    · exact hdata htype
    · exact hdiscard htype
    · exact htime htype

theorem announced_timeCode (p : Position) (h : p.header.drop 2 = Receiver.timeCodeHeader) :
    p.announced = 2 := by
  rw [announced, show (4 : Nat) = 2 + 2 from rfl, ← List.drop_drop, h]
  rfl

/-- The second byte of the payload. -/
theorem second_byte (p : Position) : (p.stream.drop 12).getD 1 0 = p.stream.getD 13 0 := by
  rw [List.getD_eq_getElem?_getD, List.getElem?_drop, ← List.getD_eq_getElem?_getD]

theorem next_stream (h : p.next policy = some q) :
    q.stream = p.stream.drop (12 + p.announced) ∧ q.stream.length < p.stream.length := by
  obtain ⟨hcomplete, hq⟩ := next_eq_some h
  have hstream : q.stream = p.stream.drop (12 + p.announced) := by
    obtain ⟨-, rfl⟩ | ⟨-, rfl⟩ | ⟨-, rfl⟩ := hq
    · rfl
    · rfl
    · rfl
  refine ⟨hstream, ?_⟩
  have hlen := hcomplete.1.1
  rw [hstream, List.length_drop]
  omega

/-- A position at which a call stops stays. -/
theorem after_of_next_none (h : p.next policy = none) (n : Nat) : p.after policy n = p := by
  cases n with
  | zero => rfl
  | succ n => rw [after, h]

theorem after_add (m n : Nat) : p.after policy (m + n) = (p.after policy m).after policy n := by
  induction m generalizing p with
  | zero => rw [Nat.zero_add, after]
  | succ m ih =>
      rw [Nat.add_right_comm, after, after]
      cases h : p.next policy with
      | some q => exact ih
      | none => exact (after_of_next_none h n).symm

/-- Past the last position there is no other. -/
theorem next_last : (p.last policy).next policy = none := by
  suffices h : ∀ n (p : Position), p.stream.length ≤ n → (p.after policy n).next policy = none from
    h _ p (Nat.le_refl _)
  intro n
  induction n with
  | zero =>
      intro p hlen
      rw [after, next, if_neg]
      rintro ⟨hopened, -⟩
      have := hopened.1
      omega
  | succ n ih =>
      intro p hlen
      rw [after]
      cases h : p.next policy with
      | none => exact h
      | some q =>
          have hless := (next_stream h).2
          exact ih q (by omega)

/-- A position that a call passes or stops at: if it stops there, it is the last one. -/
theorem after_eq_last {n : Nat} (h : (p.after policy n).next policy = none) :
    p.after policy n = p.last policy := by
  have h₁ : p.after policy (n + p.stream.length) = p.after policy n := by
    rw [after_add, after_of_next_none h]
  have h₂ : p.after policy (p.stream.length + n) = p.last policy := by
    rw [after_add]
    exact after_of_next_none next_last n
  rw [← h₁, ← h₂, Nat.add_comm]

end

end Position

namespace Receiver

/-- What the lines in front of the `switch` come to: the result with which the call
returns, or a frame and the window for its payload. -/
inductive Opening where
  | stop (result : Except ErrorCode Nat)
  | frame (header : List UInt8) (dataLength : Nat) (recv_buffer : Window)

def openFrame (self : Receiver) (total_size : Nat) (recv_buffer : Window) :
    Checked (Opening × Receiver) := do
  let (res, received, self) ← self.recvExact_ 12
  match res with
  | .error e => return (.stop (.error e), self)
  | .ok 0 => return (.stop (.ok 0), self)
  | .ok _ =>
      let header := store (List.replicate 12 0x00) 0 received
      if header.getD 0 0 ∉ [0x00, 0x01, 0x02, 0x31, 0x30] then
        return (.stop (.error (.errc .bad_message)), self)
      if header.getD 1 0 ≠ 0x00 then
        return (.stop (.error (.errc .bad_message)), self)
      match calculateDataLength header with
      | .error e => return (.stop (.error e), self)
      | .ok dataLength =>
          if dataLength = 0 then
            return (.stop (.error (.errc .bad_message)), self)
          let (room, self) ← self.ensureRoom total_size dataLength recv_buffer
          match room with
          | .error e => return (.stop (.error e), self)
          | .ok recv_buffer => return (.frame header dataLength recv_buffer, self)

/-- A round is its opening and the `switch`. -/
theorem receiveFrame_open (self : Receiver) (total_size : Nat) (recv_buffer : Window) :
    self.receiveFrame total_size recv_buffer =
      self.openFrame total_size recv_buffer >>= fun (opening, self) =>
        match opening with
        | .stop res => .ok (.done res, self)
        | .frame header dataLength recv_buffer =>
            self.receiveBody header total_size dataLength recv_buffer := by
  rw [receiveFrame, openFrame]
  cases self.recvExact_ 12 with
  | error e => rfl
  | ok r =>
      obtain ⟨res, received, self⟩ := r
      match res with
      | .error e => rfl
      | .ok 0 => rfl
      | .ok (n + 1) =>
          simp only [ok_bind]
          split
          · rfl
          split
          · rfl
          cases calculateDataLength (store (List.replicate 12 0x00) 0 received) with
          | error e => rfl
          | ok dataLength =>
              dsimp only
              split
              · rfl
              cases self.ensureRoom total_size dataLength recv_buffer with
              | error e => rfl
              | ok r =>
                  obtain ⟨room, self⟩ := r
                  cases room with
                  | error e => rfl
                  | ok recv_buffer => rfl

section Opening

variable {self : Receiver} {backend : Backend} {p : Position}

/-- A missing header ends the call as the end of the stream says. -/
theorem openFrame_end (hb : self.tcp_backend_ = some backend)
    (hshort : backend.incoming.length < 12) (total_size : Nat) (recv_buffer : Window) :
    ∃ res calls, (res = .ok 0 ∨ ∃ e, backend.atEnd = some e ∧ res = .error e) ∧
      self.openFrame total_size recv_buffer =
        .ok (.stop res, self.moved (backend.skip 12 calls) self.recv_buf_) := by
  obtain ⟨calls, hexact⟩ := recvExact_eq hb 12
  rw [Source.exact, if_neg (Nat.not_le.mpr hshort)] at hexact
  cases hend : backend.atEnd with
  | none =>
      rw [hend] at hexact
      refine ⟨.ok 0, calls, .inl rfl, ?_⟩
      rw [openFrame, hexact]
      rfl
  | some e =>
      rw [hend] at hexact
      refine ⟨.error e, calls, .inr ⟨e, rfl, rfl⟩, ?_⟩
      rw [openFrame, hexact]
      rfl

/-- The lines after the header. -/
theorem openFrame_header (hb : self.tcp_backend_ = some backend)
    (hin : backend.incoming = p.stream) (hlen : 12 ≤ p.stream.length) (total_size : Nat)
    (recv_buffer : Window) :
    ∃ calls, self.openFrame total_size recv_buffer =
      if p.Opened then
        (self.moved (backend.skip 12 calls) self.recv_buf_).ensureRoom total_size p.announced
          recv_buffer >>= fun (room, self) =>
            match room with
            | .error e => .ok (.stop (.error e), self)
            | .ok recv_buffer => .ok (.frame p.header p.announced recv_buffer, self)
      else
        .ok (.stop (.error (.errc .bad_message)),
          self.moved (backend.skip 12 calls) self.recv_buf_) := by
  obtain ⟨calls, hexact⟩ := recvExact_of_le hb (n := 12) (by rw [hin]; exact hlen)
  have hheader : store (List.replicate 12 0x00) 0 (backend.incoming.take 12) = p.header := by
    simp [store, hin, Position.header, hlen]
  have hlength : calculateDataLength p.header = .ok p.announced := by
    rw [calculateDataLength, if_neg (by simp [Position.header, hlen])]
    rfl
  refine ⟨calls, ?_⟩
  simp only [openFrame, hexact, ok_bind, hheader, hlength]
  by_cases htype : p.header.getD 0 0 ∈ [0x00, 0x01, 0x02, 0x31, 0x30]
  · rw [if_neg (not_not_intro htype)]
    by_cases hreserved : p.header.getD 1 0 = 0x00
    · rw [if_neg (not_not_intro hreserved)]
      by_cases hzero : p.announced = 0
      · rw [if_pos hzero, if_neg (fun h : p.Opened => h.2.2.2 hzero)]
        rfl
      · rw [if_neg hzero, if_pos (show p.Opened from ⟨hlen, htype, hreserved, hzero⟩)]
        congr 1
    · rw [if_pos hreserved, if_neg (fun h : p.Opened => hreserved h.2.2.1)]
      rfl
  · rw [if_pos htype, if_neg (fun h : p.Opened => htype h.2.1)]
    rfl

/-- A fixed buffer that is too small. -/
theorem ensureRoom_reject (self : Receiver) (hfits : ¬ p.Fits self.buffer_policy_) :
    self.ensureRoom p.total_size p.announced p.window =
      .ok (.error (.errc .no_buffer_space), self) := by
  obtain ⟨hshort, hpolicy⟩ := Classical.not_imp.mp hfits
  have hfixed : self.buffer_policy_ = .Fixed := by
    cases hp : self.buffer_policy_ with
    | Fixed => rfl
    | AutoResize => exact (hpolicy hp).elim
  rw [ensureRoom, if_pos (show p.announced > p.window.size from hshort), if_pos hfixed]

/-- A new size that wrapped lies below the gathered size, where the sub-span starts. -/
theorem ensureRoom_wraps (self : Receiver) (hbuf : self.recv_buf_.length = p.capacity)
    (hfits : p.Fits self.buffer_policy_) (hwraps : p.Wraps) :
    self.ensureRoom p.total_size p.announced p.window = .error .outOfRange := by
  obtain ⟨hshort, hsum⟩ := hwraps
  have hlt := p.announced_lt
  have hinside := p.inside
  have hshrinks : (p.total_size + p.announced) % 2 ^ 64 ≤ self.recv_buf_.length := by omega
  rw [ensureRoom, if_pos (show p.announced > p.window.size from hshort),
    if_neg (by rw [hfits hshort]; decide), tryResize_eq 0 (.inl hshrinks), ok_bind, if_neg]
  rw [resize_length]
  omega

/-- A new size that did not wrap, and is too large for a vector. -/
theorem ensureRoom_tooLong (self : Receiver) (hbuf : self.recv_buf_.length = p.capacity)
    (hfits : p.Fits self.buffer_policy_) (hlong : p.TooLong) (hwraps : ¬ p.Wraps) :
    self.ensureRoom p.total_size p.announced p.window = .error .lengthError := by
  obtain ⟨hshort, hsum⟩ := hlong
  have hlt : p.total_size + p.announced < 2 ^ 64 :=
    Nat.lt_of_not_le fun h => hwraps ⟨hshort, h⟩
  have hinside := p.inside
  have hgrows : self.recv_buf_.length < p.total_size + p.announced := by
    rw [Position.Short] at hshort
    omega
  rw [ensureRoom, if_pos (show p.announced > p.window.size from hshort),
    if_neg (by rw [hfits hshort]; decide), Nat.mod_eq_of_lt hlt,
    tryResize_lengthError 0 hgrows hsum, error_bind]

theorem ensureRoom_grown (self : Receiver) (hbuf : self.recv_buf_.length = p.capacity)
    (hfits : p.Fits self.buffer_policy_) (hlong : ¬ p.TooLong) :
    ∃ buf, buf.length = p.grown ∧ self.ensureRoom p.total_size p.announced p.window =
      .ok (.ok p.room, { self with recv_buf_ := buf }) := by
  have hinside := p.inside
  by_cases hshort : p.Short
  · have hsum : p.total_size + p.announced ≤ max_size :=
      Nat.le_of_not_lt fun h => hlong ⟨hshort, h⟩
    have hlt : p.total_size + p.announced < 2 ^ 64 := Nat.lt_of_le_of_lt hsum max_size_lt
    have hgrown : p.grown = p.total_size + p.announced := by
      rw [Position.Short] at hshort
      rw [Position.grown]
      omega
    refine ⟨resize 0 self.recv_buf_ (p.total_size + p.announced), by simp [hgrown], ?_⟩
    rw [ensureRoom, if_pos (show p.announced > p.window.size from hshort),
      if_neg (by rw [hfits hshort]; decide), Nat.mod_eq_of_lt hlt, tryResize_eq 0 (.inr hsum)]
    simp only [ok_bind, resize_length, if_pos (Nat.le_add_right _ _), Position.room, hgrown]
  · have hgrown : p.grown = p.capacity := by
      rw [Position.Short] at hshort
      rw [Position.grown]
      omega
    refine ⟨self.recv_buf_, hbuf.trans hgrown.symm, ?_⟩
    rw [ensureRoom, if_neg (show ¬ p.announced > p.window.size from hshort), Position.room,
      hgrown]
    rfl

/-- A frame that gets as far as the `switch`. -/
theorem openFrame_frame (hb : self.tcp_backend_ = some backend)
    (hin : backend.incoming = p.stream) (hbuf : self.recv_buf_.length = p.capacity)
    (hopened : p.Opened) (hfits : p.Fits self.buffer_policy_) (hlong : ¬ p.TooLong) :
    ∃ calls buf, buf.length = p.grown ∧ self.openFrame p.total_size p.window =
      .ok (.frame p.header p.announced p.room, self.moved (backend.skip 12 calls) buf) := by
  obtain ⟨calls, hopen⟩ := openFrame_header hb hin hopened.1 p.total_size p.window
  obtain ⟨buf, hlen, hroom⟩ := ensureRoom_grown
    (self.moved (backend.skip 12 calls) self.recv_buf_) hbuf hfits hlong
  refine ⟨calls, buf, hlen, ?_⟩
  rw [hopen, if_pos hopened, hroom]
  rfl

/-- A new size that wrapped makes the sub-span start behind the end of the buffer. -/
theorem openFrame_wraps (hb : self.tcp_backend_ = some backend)
    (hin : backend.incoming = p.stream) (hbuf : self.recv_buf_.length = p.capacity)
    (hopened : p.Opened) (hfits : p.Fits self.buffer_policy_) (hwraps : p.Wraps) :
    self.openFrame p.total_size p.window = .error .outOfRange := by
  obtain ⟨calls, hopen⟩ := openFrame_header hb hin hopened.1 p.total_size p.window
  have hroom := ensureRoom_wraps
    (self.moved (backend.skip 12 calls) self.recv_buf_) hbuf hfits hwraps
  rw [hopen, if_pos hopened, hroom]
  rfl

/-- A new size that is too large for a vector is an exception. -/
theorem openFrame_tooLong (hb : self.tcp_backend_ = some backend)
    (hin : backend.incoming = p.stream) (hbuf : self.recv_buf_.length = p.capacity)
    (hopened : p.Opened) (hfits : p.Fits self.buffer_policy_) (hlong : p.TooLong)
    (hwraps : ¬ p.Wraps) :
    self.openFrame p.total_size p.window = .error .lengthError := by
  obtain ⟨calls, hopen⟩ := openFrame_header hb hin hopened.1 p.total_size p.window
  have hroom := ensureRoom_tooLong
    (self.moved (backend.skip 12 calls) self.recv_buf_) hbuf hfits hlong hwraps
  rw [hopen, if_pos hopened, hroom]
  rfl

/-- Everything else returns, with zero or an error. -/
theorem openFrame_stop (hb : self.tcp_backend_ = some backend)
    (hin : backend.incoming = p.stream) (hrejected : ¬ (p.Opened ∧ p.Fits self.buffer_policy_)) :
    ∃ res calls, (res = .ok 0 ∨ ∃ e, res = .error e) ∧ self.openFrame p.total_size p.window =
      .ok (.stop res, self.moved (backend.skip 12 calls) self.recv_buf_) := by
  by_cases hlen : 12 ≤ p.stream.length
  · obtain ⟨calls, hopen⟩ := openFrame_header hb hin hlen p.total_size p.window
    by_cases hopened : p.Opened
    · have hfits : ¬ p.Fits self.buffer_policy_ := fun h => hrejected ⟨hopened, h⟩
      have hroom := ensureRoom_reject
        (self.moved (backend.skip 12 calls) self.recv_buf_) hfits
      refine ⟨.error (.errc .no_buffer_space), calls, .inr ⟨_, rfl⟩, ?_⟩
      rw [hopen, if_pos hopened, hroom]
      rfl
    · refine ⟨.error (.errc .bad_message), calls, .inr ⟨_, rfl⟩, ?_⟩
      rw [hopen, if_neg hopened]
  · obtain ⟨res, calls, hres, hopen⟩ :=
      openFrame_end hb (by rw [hin]; omega) p.total_size p.window
    refine ⟨res, calls, ?_, hopen⟩
    obtain rfl | ⟨e, -, rfl⟩ := hres
    · exact .inl rfl
    · exact .inr ⟨e, rfl⟩

end Opening

section Switch

variable {self : Receiver} {backend : Backend} {header : List UInt8} {recv_buffer : Window}

/-- A payload that fits its window, or what of it is there. -/
theorem recvPayload_any (hb : self.tcp_backend_ = some backend) {n : Nat}
    (hroom : n ≤ recv_buffer.size)
    (hinside : recv_buffer.offset + recv_buffer.size ≤ self.recv_buf_.length) :
    ∃ calls buf, buf.length = self.recv_buf_.length ∧ self.recvPayload n recv_buffer =
      .ok (backend.exact n, self.moved (backend.skip n calls) buf) := by
  obtain ⟨calls, hexact⟩ := recvExact_eq hb n
  refine ⟨calls, store self.recv_buf_ recv_buffer.offset (backend.incoming.take n), ?_, ?_⟩
  · apply store_length
    rw [List.length_take]
    omega
  · rw [recvPayload, if_pos hroom, hexact]
    rfl

theorem receiveBody_final (hb : self.tcp_backend_ = some backend) (htype : header.getD 0 0 = 0x00)
    {n : Nat} (hroom : n ≤ recv_buffer.size)
    (hinside : recv_buffer.offset + recv_buffer.size ≤ self.recv_buf_.length) (total_size : Nat) :
    ∃ calls buf, buf.length = self.recv_buf_.length ∧
      self.receiveBody header total_size n recv_buffer =
        .ok (match backend.exact n with
          | .error e => .done (.error e)
          | .ok size => .eof (total_size + size), self.moved (backend.skip n calls) buf) := by
  obtain ⟨calls, buf, hlen, hpayload⟩ := recvPayload_any hb hroom hinside
  refine ⟨calls, buf, hlen, ?_⟩
  rw [receiveBody, if_pos htype, hpayload]
  cases backend.exact n <;> rfl

theorem receiveBody_continue (hb : self.tcp_backend_ = some backend)
    (htype : header.getD 0 0 = 0x02) {n : Nat} (hroom : n ≤ recv_buffer.size)
    (hinside : recv_buffer.offset + recv_buffer.size ≤ self.recv_buf_.length) (total_size : Nat) :
    ∃ calls buf, buf.length = self.recv_buf_.length ∧
      self.receiveBody header total_size n recv_buffer =
        .ok (match backend.exact n with
          | .error e => .done (.error e)
          | .ok size => .again (total_size + size)
              ⟨recv_buffer.offset + n, recv_buffer.size - n⟩,
            self.moved (backend.skip n calls) buf) := by
  obtain ⟨calls, buf, hlen, hpayload⟩ := recvPayload_any hb hroom hinside
  refine ⟨calls, buf, hlen, ?_⟩
  simp only [receiveBody, htype, hpayload, ok_bind, if_pos hroom]
  cases backend.exact n <;> rfl

theorem receiveBody_discard (hb : self.tcp_backend_ = some backend)
    (htype : header.getD 0 0 = 0x01) (n total_size : Nat) (recv_buffer : Window) :
    ∃ calls, self.receiveBody header total_size n recv_buffer =
      .ok (match ignored backend n with
        | .error e => .done (.error e)
        | .ok _ => .restart, self.moved (backend.skip n calls) self.recv_buf_) := by
  obtain ⟨calls, hignore⟩ := ignoreNBytes_eq hb n
  refine ⟨calls, ?_⟩
  simp only [receiveBody, htype, hignore, ok_bind]
  cases ignored backend n <;> rfl

/-- The second byte of a time code is zero when it is missing. -/
theorem timeCode_second (l : List UInt8) :
    (store [0x00, 0x00] 0 (l.take 2)).getD 1 0 = l.getD 1 0 := by
  match l with
  | [] => rfl
  | [_] => rfl
  | _ :: _ :: _ => rfl

theorem receiveBody_time_malformed (htype : header.getD 0 0 = 0x30 ∨ header.getD 0 0 = 0x31)
    (hheader : header.drop 2 ≠ timeCodeHeader) (n total_size : Nat) :
    self.receiveBody header total_size n recv_buffer =
      .ok (.done (.error (.errc .bad_message)), self) := by
  obtain htype | htype := htype
  · simp only [receiveBody, htype, if_pos hheader]
    rfl
  · simp only [receiveBody, htype, if_pos hheader]
    rfl

theorem receiveBody_time (hb : self.tcp_backend_ = some backend)
    (htype : header.getD 0 0 = 0x30 ∨ header.getD 0 0 = 0x31)
    (hheader : header.drop 2 = timeCodeHeader) (n total_size : Nat) (recv_buffer : Window) :
    ∃ calls, self.receiveBody header total_size n recv_buffer =
      .ok (match backend.exact 2 with
        | .error e => .done (.error e)
        | .ok _ =>
            if backend.incoming.getD 1 0 ≠ 0x00 then .done (.error (.errc .bad_message))
            else .again total_size recv_buffer,
          self.moved (backend.skip 2 calls) self.recv_buf_) := by
  obtain ⟨calls, hexact⟩ := recvExact_eq hb 2
  refine ⟨calls, ?_⟩
  have hswitch : self.receiveBody header total_size n recv_buffer =
      self.recvExact_ 2 >>= fun (res, received, self) =>
        match res with
        | .error e => .ok (.done (.error e), self)
        | .ok _ =>
            if (store [0x00, 0x00] 0 received).getD 1 0 ≠ 0x00 then
              .ok (.done (.error (.errc .bad_message)), self)
            else
              .ok (.again total_size recv_buffer, self) := by
    obtain htype | htype := htype
    · simp only [receiveBody, htype, if_neg (not_not_intro hheader)]
      rfl
    · simp only [receiveBody, htype, if_neg (not_not_intro hheader)]
      rfl
  rw [hswitch, hexact, ok_bind]
  dsimp only
  rw [timeCode_second]
  cases backend.exact 2 with
  | error e => rfl
  | ok size =>
      dsimp only
      split
      · rfl
      · rfl

end Switch

end Receiver

end SpwRmap
