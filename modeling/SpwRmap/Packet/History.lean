import SpwRmap.Packet.Grammar

/-!
# What a parser keeps of earlier packets

A parser has one record for all packets, and the parser of each format writes only the
fields of its format. The others keep what earlier calls have left there. `kept` is that
part of a record; two parsers agree on an accepted packet exactly if they agree on it, and
the packet is that of a fresh parser exactly if it has the values of a fresh record.
-/

namespace SpwRmap

open Span Grammar

namespace PacketParser

/-- The fields that an accepted packet of the type leaves alone. -/
def kept (type : PacketType) (p : Packet) : Packet :=
  match type with
  | .Read => { status := p.status, data := p.data }
  | .Write => { status := p.status }
  | .ReadReply =>
      { targetSpaceWireAddress := p.targetSpaceWireAddress
        key := p.key
        extendedAddress := p.extendedAddress
        address := p.address }
  | .WriteReply =>
      { targetSpaceWireAddress := p.targetSpaceWireAddress
        key := p.key
        extendedAddress := p.extendedAddress
        address := p.address
        dataLength := p.dataLength
        data := p.data }
  | .Undefined => p

theorem decoded_eq_iff (type : PacketType) (p q : Packet) (path body : List UInt8) :
    decoded type p path body = decoded type q path body ↔ kept type p = kept type q := by
  cases type with
  | Undefined => exact Iff.rfl
  | Read => simp [decoded, kept, commandPacket]
  | Write => simp [decoded, kept, writePacket, commandPacket]
  | ReadReply =>
      simp [decoded, kept, readReplyPacket, readReplyHeaderPacket, replyPacket]
  | WriteReply => simp [decoded, kept, replyPacket]

/-- An accepted packet is not empty, and a fresh parser accepts it too. -/
theorem accepts_of_success {self next : PacketParser} {packet : List UInt8}
    (hparse : parse self packet = .ok (.Success, next)) :
    ∃ type path body, Accepts type packet path body ∧
      next = ⟨decoded type self.packet_ path body⟩ := by
  have hne : packet ≠ [] := by
    intro hnil
    rw [hnil, parse_nil] at hparse
    cases hparse
  obtain ⟨type, path, body, haccepts⟩ := accepts_of_parse hne hparse
  refine ⟨type, path, body, haccepts, ?_⟩
  have hok := (parse_of_accepts self haccepts).symm.trans hparse
  simpa using hok.symm

/-- The record after an accepted packet is that of a fresh parser, exactly if the fields that
the format leaves alone have the values of a fresh record. -/
theorem parse_independent_iff {self next : PacketParser} {packet : List UInt8}
    (hparse : parse self packet = .ok (.Success, next)) :
    ∃ type path body fresh, Accepts type packet path body ∧
      parse {} packet = .ok (.Success, fresh) ∧
      (next.packet_ = fresh.packet_ ↔ kept type self.packet_ = kept type {}) := by
  obtain ⟨type, path, body, haccepts, rfl⟩ := accepts_of_success hparse
  exact ⟨type, path, body, _, haccepts, parse_of_accepts {} haccepts, decoded_eq_iff ..⟩

/-- The calls of `parse` on one parser. -/
def parseAll (self : PacketParser) : List (List UInt8) → Checked PacketParser
  | [] => .ok self
  | packet :: packets => do
      let (_, next) ← parse self packet
      parseAll next packets

/-- A read reply with one data byte. -/
def readReplyOfOneByte : List UInt8 :=
  [0x34, 0x01, 0x0C, 0x00, 0xFE, 0x00, 0x20, 0x00, 0x00, 0x00, 0x01, 0x85, 0xAA, 0x35]

/-- A write reply behind a one-byte path. -/
def writeReplyBehindPath : List UInt8 :=
  [0x01, 0x34, 0x01, 0x3C, 0x00, 0xFE, 0x00, 0x20, 0x74]

/-- The parser after a read reply and then accepting a write reply. -/
theorem parse_independent_iff_afterReply :
    ∃ self next type path body fresh, parseAll {} [readReplyOfOneByte] = .ok self ∧
      parse self writeReplyBehindPath = .ok (.Success, next) ∧
      Accepts type writeReplyBehindPath path body ∧
      parse {} writeReplyBehindPath = .ok (.Success, fresh) ∧
      (next.packet_ = fresh.packet_ ↔ kept type self.packet_ = kept type {}) := by
  obtain ⟨self, hself⟩ : ∃ self, parseAll {} [readReplyOfOneByte] = .ok self := ⟨_, rfl⟩
  obtain ⟨next, hnext⟩ : ∃ next, parse self writeReplyBehindPath = .ok (.Success, next) := by
    cases hself
    exact ⟨_, rfl⟩
  obtain ⟨type, path, body, fresh, h⟩ := parse_independent_iff hnext
  exact ⟨self, next, type, path, body, fresh, hself, hnext, h⟩

/-- The data of an earlier read reply is still in the record of a write reply. -/
theorem parse_shows_earlier :
    ∃ self next fresh, parseAll {} [readReplyOfOneByte] = .ok self ∧
      parse self writeReplyBehindPath = .ok (.Success, next) ∧
      parse {} writeReplyBehindPath = .ok (.Success, fresh) ∧
      next.packet_.data = [0xAA] ∧ fresh.packet_.data = [] ∧ next.packet_ ≠ fresh.packet_ :=
  ⟨_, _, _, rfl, rfl, rfl, rfl, rfl, by decide⟩

/-- The format that the instruction byte of a packet announces. -/
def announced (packet : List UInt8) : PacketType :=
  match (byteOf (bodyOf packet) 2).toNat.testBit 6, (byteOf (bodyOf packet) 2).toNat.testBit 5 with
  | false, false => .ReadReply
  | false, true => .WriteReply
  | true, false => .Read
  | true, true => .Write

/-- A call leaves the fields alone that the announced format does not have, accepted or not. -/
theorem parse_kept {self next : PacketParser} {packet : List UInt8} {status : Status}
    (hparse : parse self packet = .ok (status, next)) :
    kept (announced packet) next.packet_ = kept (announced packet) self.packet_ := by
  have hne : packet ≠ [] := by
    intro hnil
    rw [hnil, parse_nil] at hparse
    cases hparse
  rw [parse_eq self packet hne] at hparse
  split at hparse
  · cases hparse
    rfl
  rename_i hshort
  rw [parseFormat_eq] at hparse
  unfold announced
  cases h6 : (byteOf (bodyOf packet) 2).toNat.testBit 6 <;>
    cases h5 : (byteOf (bodyOf packet) 2).toNat.testBit 5 <;> simp only [h6, h5] at hparse ⊢
  · rw [parseReadReplyPacket_eq, Except.ok.injEq] at hparse
    split_ifs at hparse <;> cases hparse <;> rfl
  · rw [parseWriteReplyPacket_eq, Except.ok.injEq] at hparse
    split_ifs at hparse <;> cases hparse <;> rfl
  · rw [parseReadPacket_eq _ _ (by omega), Except.ok.injEq] at hparse
    split_ifs at hparse <;> cases hparse <;> rfl
  · rw [parseWritePacket_eq _ _ (by omega), Except.ok.injEq] at hparse
    split_ifs at hparse <;> cases hparse <;> rfl

theorem parseAll_kept {type : PacketType} :
    ∀ {self next : PacketParser} {packets : List (List UInt8)},
      (∀ packet ∈ packets, announced packet = type) → parseAll self packets = .ok next →
      kept type next.packet_ = kept type self.packet_ := by
  intro self next packets
  induction packets generalizing self with
  | nil =>
      intro _ hrun
      cases hrun
      rfl
  | cons packet packets ih =>
      intro hall hrun
      cases hmid : parse self packet with
      | error e =>
          rw [parseAll, hmid, error_bind] at hrun
          cases hrun
      | ok result =>
      obtain ⟨status, mid⟩ := result
      rw [parseAll, hmid, ok_bind] at hrun
      have hfirst := parse_kept hmid
      rw [hall packet (by simp)] at hfirst
      rw [ih (fun p hp => hall p (by simp [hp])) hrun, hfirst]

theorem announced_of_accepts {type : PacketType} {packet path body : List UInt8}
    (h : Accepts type packet path body) : announced packet = type := by
  have hformat := h.format
  unfold announced
  rw [h.path_body.2]
  cases type with
  | Undefined => exact hformat.elim
  | Read => rw [hformat.1, hformat.2.1]
  | Write => rw [hformat.1, hformat.2.1]
  | ReadReply => rw [hformat.1, hformat.2.1]
  | WriteReply => rw [hformat.1, hformat.2.1]

/-- A parser that has been given packets of one format only is independent of them. -/
theorem parse_of_uniform {type : PacketType} {packets : List (List UInt8)} {packet : List UInt8}
    {self next : PacketParser} (hall : ∀ p ∈ packets, announced p = type)
    (hrun : parseAll {} packets = .ok self) (htype : announced packet = type)
    (hparse : parse self packet = .ok (.Success, next)) :
    parse {} packet = .ok (.Success, next) := by
  obtain ⟨accepted, path, body, haccepts, rfl⟩ := accepts_of_success hparse
  have haccepted : accepted = type := by rw [← htype, announced_of_accepts haccepts]
  have hkept := parseAll_kept hall hrun
  subst haccepted
  rw [parse_of_accepts {} haccepts, (decoded_eq_iff ..).mpr hkept]

end PacketParser

end SpwRmap
