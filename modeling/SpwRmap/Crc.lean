import Mathlib.Data.List.Basic

/-!
# The RMAP checksum, as `crc.cc` computes it

`calcCRC` folds the bytes through a 256-entry table. An entry of the table is eight
steps of a shift register, so that entry zero is its only zero entry. A string
followed by its own checksum has checksum zero, and only that byte does so: the
parser's test for a zero residue is therefore the test that the last byte is the
checksum of the bytes before it.
-/

namespace SpwRmap.crc

set_option maxRecDepth 2000 in
def CRC_LOOKUP_TABLE : Vector UInt8 256 := #v[
    0x00, 0x91, 0xe3, 0x72, 0x07, 0x96, 0xe4, 0x75,
    0x0e, 0x9f, 0xed, 0x7c, 0x09, 0x98, 0xea, 0x7b,
    0x1c, 0x8d, 0xff, 0x6e, 0x1b, 0x8a, 0xf8, 0x69,
    0x12, 0x83, 0xf1, 0x60, 0x15, 0x84, 0xf6, 0x67,
    0x38, 0xa9, 0xdb, 0x4a, 0x3f, 0xae, 0xdc, 0x4d,
    0x36, 0xa7, 0xd5, 0x44, 0x31, 0xa0, 0xd2, 0x43,
    0x24, 0xb5, 0xc7, 0x56, 0x23, 0xb2, 0xc0, 0x51,
    0x2a, 0xbb, 0xc9, 0x58, 0x2d, 0xbc, 0xce, 0x5f,
    0x70, 0xe1, 0x93, 0x02, 0x77, 0xe6, 0x94, 0x05,
    0x7e, 0xef, 0x9d, 0x0c, 0x79, 0xe8, 0x9a, 0x0b,
    0x6c, 0xfd, 0x8f, 0x1e, 0x6b, 0xfa, 0x88, 0x19,
    0x62, 0xf3, 0x81, 0x10, 0x65, 0xf4, 0x86, 0x17,
    0x48, 0xd9, 0xab, 0x3a, 0x4f, 0xde, 0xac, 0x3d,
    0x46, 0xd7, 0xa5, 0x34, 0x41, 0xd0, 0xa2, 0x33,
    0x54, 0xc5, 0xb7, 0x26, 0x53, 0xc2, 0xb0, 0x21,
    0x5a, 0xcb, 0xb9, 0x28, 0x5d, 0xcc, 0xbe, 0x2f,
    0xe0, 0x71, 0x03, 0x92, 0xe7, 0x76, 0x04, 0x95,
    0xee, 0x7f, 0x0d, 0x9c, 0xe9, 0x78, 0x0a, 0x9b,
    0xfc, 0x6d, 0x1f, 0x8e, 0xfb, 0x6a, 0x18, 0x89,
    0xf2, 0x63, 0x11, 0x80, 0xf5, 0x64, 0x16, 0x87,
    0xd8, 0x49, 0x3b, 0xaa, 0xdf, 0x4e, 0x3c, 0xad,
    0xd6, 0x47, 0x35, 0xa4, 0xd1, 0x40, 0x32, 0xa3,
    0xc4, 0x55, 0x27, 0xb6, 0xc3, 0x52, 0x20, 0xb1,
    0xca, 0x5b, 0x29, 0xb8, 0xcd, 0x5c, 0x2e, 0xbf,
    0x90, 0x01, 0x73, 0xe2, 0x97, 0x06, 0x74, 0xe5,
    0x9e, 0x0f, 0x7d, 0xec, 0x99, 0x08, 0x7a, 0xeb,
    0x8c, 0x1d, 0x6f, 0xfe, 0x8b, 0x1a, 0x68, 0xf9,
    0x82, 0x13, 0x61, 0xf0, 0x85, 0x14, 0x66, 0xf7,
    0xa8, 0x39, 0x4b, 0xda, 0xaf, 0x3e, 0x4c, 0xdd,
    0xa6, 0x37, 0x45, 0xd4, 0xa1, 0x30, 0x42, 0xd3,
    0xb4, 0x25, 0x57, 0xc6, 0xb3, 0x22, 0x50, 0xc1,
    0xba, 0x2b, 0x59, 0xc8, 0xbd, 0x2c, 0x5e, 0xcf]

/-- One table lookup. The index is a byte, hence below 256. -/
def crcStep (crc byte : UInt8) : UInt8 :=
  CRC_LOOKUP_TABLE.get (crc ^^^ byte).toFin

/-- `calcCRC(data, crc)`; the source's default initial value is zero. -/
def calcCRC (data : List UInt8) (crc : UInt8 := 0x00) : UInt8 :=
  data.foldl crcStep crc

theorem calcCRC_append (xs ys : List UInt8) (crc : UInt8) :
    calcCRC (xs ++ ys) crc = calcCRC ys (calcCRC xs crc) := by
  simp [calcCRC, List.foldl_append]

/-- One step of the shift register with the polynomial `x ^ 8 + x ^ 2 + x + 1`. -/
def shiftBit (crc : UInt8) : UInt8 :=
  if crc.toNat.testBit 0 then crc >>> 1 ^^^ 0xE0 else crc >>> 1

/-- The shift register over one byte. -/
def shiftByte : Nat → UInt8 → UInt8
  | 0, crc => crc
  | n + 1, crc => shiftByte n (shiftBit crc)

/-- The table holds the eight steps of every byte. -/
theorem table_eq : CRC_LOOKUP_TABLE.toList =
    (List.finRange 256).map fun i => shiftByte 8 (UInt8.ofFin i) := by
  decide +kernel

theorem lookup_eq_shiftByte (i : Fin 256) :
    CRC_LOOKUP_TABLE.get i = shiftByte 8 (UInt8.ofFin i) := by
  have hget : CRC_LOOKUP_TABLE.toList[i.val]? = some (CRC_LOOKUP_TABLE.get i) := by
    rw [Vector.getElem?_toList]
    exact Vector.getElem?_eq_getElem i.isLt
  have hi := congrArg (fun entries => entries[i.val]?) table_eq
  rw [hget, List.getElem?_map, List.getElem?_eq_getElem (by simp), List.getElem_finRange] at hi
  exact Option.some.inj hi

theorem shiftBit_eq_zero_iff (crc : UInt8) : shiftBit crc = 0 ↔ crc = 0 := by
  constructor
  · intro hzero
    have hdiv : (crc >>> 1).toNat = crc.toNat / 2 := by
      simp [UInt8.toNat_shiftRight, Nat.shiftRight_eq_div_pow]
    rw [shiftBit] at hzero
    split at hzero
    · -- A shifted byte has no top bit, and the polynomial does.
      have hpoly : crc >>> 1 = 0xE0 := UInt8.xor_eq_zero_iff.mp hzero
      rw [hpoly, show (0xE0 : UInt8).toNat = 224 from rfl] at hdiv
      have hcrc := crc.toNat_lt
      omega
    · rename_i hlow
      rw [hzero, show (0 : UInt8).toNat = 0 from rfl] at hdiv
      rw [Nat.testBit_zero, decide_eq_true_iff] at hlow
      apply UInt8.toNat_inj.mp
      rw [show (0 : UInt8).toNat = 0 from rfl]
      omega
  · rintro rfl
    rfl

theorem shiftByte_eq_zero_iff (n : Nat) (crc : UInt8) : shiftByte n crc = 0 ↔ crc = 0 := by
  induction n generalizing crc with
  | zero => rfl
  | succ n ih => exact (ih (shiftBit crc)).trans (shiftBit_eq_zero_iff crc)

theorem crcStep_eq_shiftByte (crc byte : UInt8) : crcStep crc byte = shiftByte 8 (crc ^^^ byte) :=
  lookup_eq_shiftByte _

/-- Entry zero is the table's only zero entry. -/
theorem crcStep_eq_zero_iff (crc byte : UInt8) : crcStep crc byte = 0 ↔ byte = crc := by
  rw [crcStep_eq_shiftByte, shiftByte_eq_zero_iff, UInt8.xor_eq_zero_iff]
  exact eq_comm

/-- The zero-residue test accepts exactly the byte that is the checksum. -/
theorem calcCRC_concat_eq_zero_iff (xs : List UInt8) (b : UInt8) :
    calcCRC (xs ++ [b]) = 0 ↔ b = calcCRC xs := by
  rw [calcCRC_append]
  exact crcStep_eq_zero_iff _ _

end SpwRmap.crc
