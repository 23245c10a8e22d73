import SpwRmap.Crc.Linear
import SpwRmap.Packet.Grammar

/-!
# Corrupted packets

The four formats protect different regions by checksums, and a corrupted instruction
byte, reply-address length or data length makes the parser check other regions than
the ones that were written. Whatever regions these are, they follow each other and
each of them has residue zero, so the whole body has. Two accepted bodies of one
length thus differ by a string of residue zero, which neither a burst of at most eight
bits nor an odd number of bits is.
-/

namespace SpwRmap

open Bits crc PacketParser

namespace Grammar

variable {type : PacketType} {packet path body : List UInt8}

/-- A region with residue zero leaves the residue of what follows. -/
theorem calcCRC_of_take {n : Nat} (htake : calcCRC (body.take n) = 0) :
    calcCRC body = calcCRC (body.drop n) := by
  calc calcCRC body = calcCRC (body.take n ++ body.drop n) := by rw [List.take_append_drop]
    _ = calcCRC (body.drop n) := by rw [calcCRC_append, htake]

/-- The residue property that all formats share. -/
theorem Format.calcCRC_eq_zero (h : Format type body) : calcCRC body = 0 := by
  cases type with
  | Undefined => exact h.elim
  | Read =>
      obtain ⟨-, -, hlen, hcrc⟩ := h
      have hheader := (residue_take_iff body (15 + replySizeOf body) (by omega)).mpr hcrc
      rw [List.take_of_length_le (by omega)] at hheader
      exact hheader
  | Write =>
      obtain ⟨-, -, hlen, hcrc, hdata⟩ := h
      have hheader := (residue_take_iff body (15 + replySizeOf body) (by omega)).mpr hcrc
      have hrest := (residue_drop_iff body (16 + replySizeOf body)
        (numberOf body (12 + replySizeOf body) 3) (by omega)).mpr hdata
      rw [List.take_of_length_le (by rw [List.length_drop]; omega)] at hrest
      rw [show 15 + replySizeOf body + 1 = 16 + replySizeOf body by omega] at hheader
      rw [calcCRC_of_take hheader]
      exact hrest
  | ReadReply =>
      obtain ⟨-, -, hlen, hcrc, hdata⟩ := h
      have hheader := (residue_take_iff body 11 (by omega)).mpr hcrc
      have hrest := (residue_drop_iff body 12 (numberOf body 8 3) (by omega)).mpr hdata
      rw [List.take_of_length_le (by rw [List.length_drop]; omega)] at hrest
      rw [calcCRC_of_take hheader]
      exact hrest
  | WriteReply =>
      obtain ⟨-, -, hlen, hcrc⟩ := h
      have hheader := (residue_take_iff body 7 (by omega)).mpr hcrc
      rw [List.take_of_length_le (by omega)] at hheader
      exact hheader

/-- The path ends where the first byte from `0x20` on stands. -/
theorem pathOf_eq_of_take {p q : List UInt8} (hlen : q.length = p.length)
    (htake : q.take (pathOf p).length = (pathOf p))
    (hbyte : 0x20 ≤ byteOf q (pathOf p).length) (hbody : bodyOf p ≠ []) : pathOf q = pathOf p := by
  have hsplit : (pathOf p).length + (bodyOf p).length = p.length := by
    rw [← List.length_append, pathOf_append_bodyOf]
  have hlt : (pathOf p).length < q.length := by
    have := List.length_pos_of_ne_nil hbody
    omega
  have hget : byteOf q (pathOf p).length = q[(pathOf p).length] := List.getD_eq_getElem _ _ hlt
  have hq : q = pathOf p ++ q[(pathOf p).length] :: q.drop ((pathOf p).length + 1) := by
    rw [← List.drop_eq_getElem_cons hlt]
    conv_lhs => rw [← List.take_append_drop (pathOf p).length q, htake]
  have hpath : ∀ b ∈ pathOf p, decide (b < 0x20) = true := by
    intro b hb
    exact List.mem_takeWhile_imp (p := fun b : UInt8 => decide (b < 0x20)) hb
  have hstop : ¬ q[(pathOf p).length] < 0x20 := by
    rw [← hget]
    exact UInt8.not_lt.mpr hbyte
  conv_lhs => rw [hq]
  rw [pathOf, List.takeWhile_append_of_pos hpath]
  simp [hstop]

end Grammar

open Grammar

/-- A corrupted packet with the path of an accepted one is not accepted, when the bits
that were flipped lie within eight consecutive ones or are odd in number. -/
theorem parse_rejects_corruption {self self' next : PacketParser} {p p' : List UInt8}
    (hparse : parse self p = .ok (.Success, next)) (hlen : p'.length = p.length)
    (hpath : p'.take (pathOf p).length = p.take (pathOf p).length)
    (hbyte : 0x20 ≤ byteOf p' (pathOf p).length) (hne : p' ≠ p)
    (hflips : Burst (flips p p') ∨ Odd ((flips p p').count true)) (next' : PacketParser) :
    parse self' p' ≠ .ok (.Success, next') := by
  intro hparse'
  have hnil : p ≠ [] := by
    rintro rfl
    rw [parse_nil] at hparse
    contradiction
  have hnil' : p' ≠ [] := by
    rintro rfl
    exact hnil (List.eq_nil_of_length_eq_zero hlen.symm)
  obtain ⟨type, path, body, haccepts⟩ := accepts_of_parse hnil hparse
  obtain ⟨type', path', body', haccepts'⟩ := accepts_of_parse hnil' hparse'
  -- Both packets have the same path, so their bodies have the same length.
  obtain ⟨hpathOf, hbodyOf⟩ := haccepts.path_body
  obtain ⟨hpathOf', -⟩ := haccepts'.path_body
  have htake : p.take (pathOf p).length = pathOf p := by
    rw [hpathOf, haccepts.split, List.take_left]
  have hbody : bodyOf p ≠ [] := by
    intro hempty
    have hsize := haccepts.size
    rw [← hbodyOf, hempty] at hsize
    contradiction
  have hsame : path' = path := by
    rw [← hpathOf', ← hpathOf]
    exact pathOf_eq_of_take hlen (hpath.trans htake) hbyte hbody
  have hsplit' : p' = path ++ body' := by
    rw [← hsame]
    exact haccepts'.split
  have hbodies : body.length = body'.length := by
    rw [haccepts.split, hsplit', List.length_append, List.length_append] at hlen
    omega
  -- The difference of the packets is that of their bodies behind zeros.
  have hdiff : xorBytes p p' = List.replicate path.length 0 ++ xorBytes body body' := by
    rw [haccepts.split, hsplit', xorBytes_append rfl, xorBytes_self]
  have hresidue : calcCRC (xorBytes p p') = 0 := by
    have hlinear := calcCRC_xor hbodies 0 0
    rw [haccepts.format.calcCRC_eq_zero, haccepts'.format.calcCRC_eq_zero] at hlinear
    rw [hdiff, calcCRC_append, calcCRC_replicate_zero]
    exact hlinear
  rw [flips_eq hlen.symm] at hflips
  obtain hburst | hodd := hflips
  · exact calcCRC_ne_zero_of_burst hburst (exists_ne_zero_of_ne hlen.symm hne.symm) hresidue
  · exact calcCRC_ne_zero_of_odd hodd hresidue

/-- A write reply whose instruction byte lost a bit, which makes it a read reply. -/
theorem parse_rejects_corruption_writeReply :
    ¬ ∃ next', parse {} [0x01, 0x34, 0x01, 0x1C, 0x00, 0xFE, 0x00, 0x20, 0x74] =
      .ok (.Success, next') := by
  rintro ⟨next', hparse'⟩
  have hparse : parse {} [0x01, 0x34, 0x01, 0x3C, 0x00, 0xFE, 0x00, 0x20, 0x74] =
      .ok (.Success, ⟨{ replyAddress := [0x01], initiatorLogicalAddress := 0x34
                        instruction := 0x3C, targetLogicalAddress := 0xFE
                        transactionID := 0x20, type := .WriteReply }⟩) := by
    decide +kernel
  have hodd : Odd ((flips [0x01, 0x34, 0x01, 0x3C, 0x00, 0xFE, 0x00, 0x20, 0x74]
      [0x01, 0x34, 0x01, 0x1C, 0x00, 0xFE, 0x00, 0x20, 0x74]).count true) :=
    Nat.odd_iff.mpr (by decide +kernel)
  refine parse_rejects_corruption hparse ?_ ?_ ?_ ?_ (.inr hodd) next' hparse'
  · decide
  · decide +kernel
  · decide +kernel
  · decide

end SpwRmap
