import Mathlib.Algebra.Group.Int.Defs
import Mathlib.Algebra.Group.Nat.Defs
import Mathlib.Logic.Function.Basic
import SpwRmap.Packet.Basic

/-!
# The transaction table

The vectors `reply_callback_`, `reply_error_callback_`,
`available_transaction_ids_` and `transaction_last_used_`, all indexed by
transaction identifier minus `transaction_id_min_`. A vector is the function of
its entries; the callbacks are of any type. Times are in nanoseconds of the steady
clock.

Each operation below is what one critical section of the source does to the table.
-/

namespace SpwRmap

/-- The range of transaction identifiers of a node. -/
structure TransactionRange where
  transaction_id_min : UInt16 := 0x0020
  transaction_id_max : UInt16 := 0x0040
  ordered : transaction_id_min ≤ transaction_id_max := by decide

namespace TransactionRange

/-- `transaction_id_max_ - transaction_id_min_`. -/
def total (range : TransactionRange) : Nat :=
  range.transaction_id_max.toNat - range.transaction_id_min.toNat

/-- `transaction_id_min_ + index`. -/
def identifier (range : TransactionRange) (index : Nat) : UInt16 :=
  UInt16.ofNat (range.transaction_id_min.toNat + index)

/-- The range check of `poll` and, when it passes, the index. -/
def index (range : TransactionRange) (transactionID : UInt16) : Option Nat :=
  if transactionID < range.transaction_id_min ∨ transactionID ≥ range.transaction_id_max then
    none
  else
    some (transactionID.toNat - range.transaction_id_min.toNat)

theorem identifier_toNat (range : TransactionRange) {i : Nat} (h : i < range.total) :
    (range.identifier i).toNat = range.transaction_id_min.toNat + i := by
  have hmax : range.transaction_id_max.toNat < 2 ^ 16 := range.transaction_id_max.toNat_lt
  rw [total] at h
  rw [identifier, UInt16.toNat_ofNat']
  omega

/-- An allocated identifier leads back to its index. -/
theorem index_identifier (range : TransactionRange) {i : Nat} (h : i < range.total) :
    range.index (range.identifier i) = some i := by
  have hid := range.identifier_toNat h
  rw [total] at h
  rw [index, if_neg, hid, Nat.add_sub_cancel_left]
  rw [UInt16.lt_iff_toNat_lt, ge_iff_le, UInt16.le_iff_toNat_le, hid]
  omega

theorem toNat_sub_of_index (range : TransactionRange) {transactionID : UInt16} {i : Nat}
    (h : range.index transactionID = some i) :
    transactionID.toNat - range.transaction_id_min.toNat = i := by
  rw [index] at h
  split at h
  · contradiction
  · exact Option.some.inj h

theorem lt_total_of_index (range : TransactionRange) {transactionID : UInt16} {i : Nat}
    (h : range.index transactionID = some i) : i < range.total := by
  rw [index] at h
  split at h
  · contradiction
  · rename_i hin
    cases h
    rw [UInt16.lt_iff_toNat_lt, ge_iff_le, UInt16.le_iff_toNat_le] at hin
    rw [total]
    omega

end TransactionRange

/-- `std::chrono::steady_clock::time_point::min()`. -/
def timePointMin : Int := -2 ^ 63

structure Table (κ : Type) where
  reply_callback_ : Nat → Option κ := fun _ => none
  reply_error_callback_ : Nat → Option κ := fun _ => none
  available_transaction_ids_ : Nat → Bool := fun _ => true
  transaction_last_used_ : Nat → Int := fun _ => timePointMin

/-- A timeout in milliseconds as it is compared with a time in nanoseconds: the product is a
64-bit integer, and wraps around. -/
def nanoseconds (timeout : Int) : Int := (timeout * 10 ^ 6).bmod (2 ^ 64)

theorem nanoseconds_eq {timeout : Int} (hlow : -2 ^ 63 ≤ timeout * 10 ^ 6)
    (hhigh : timeout * 10 ^ 6 < 2 ^ 63) : nanoseconds timeout = timeout * 10 ^ 6 :=
  Int.bmod_eq_of_le hlow hhigh

/-- Only a product that is too large comes out smaller. -/
theorem le_nanoseconds {timeout : Int} (hhigh : timeout * 10 ^ 6 < 2 ^ 63) :
    timeout * 10 ^ 6 ≤ nanoseconds timeout := by
  by_cases hlow : -2 ^ 63 ≤ timeout * 10 ^ 6
  · exact Int.le_of_eq (nanoseconds_eq hlow hhigh).symm
  · have hbound : -2 ^ 63 ≤ nanoseconds timeout := by
      rw [nanoseconds, Int.bmod_def]
      omega
    exact Int.le_trans (Int.le_of_not_le hlow) hbound

/-- What the loop of `getAvailableTransactionID_` finds under the lock. -/
inductive Scan where
  | available (index : Nat)
  | expired (index : Nat)
  | exhausted
  deriving DecidableEq, Repr

namespace Table

variable {κ : Type}

/-- The `for` loop of `getAvailableTransactionID_` over the remaining indices, with
`expired_index` as found so far. -/
def scanFrom (table : Table κ) (now timeout : Int) : List Nat → Option Nat → Scan
  | [], some i => .expired i
  | [], none => .exhausted
  | i :: rest, expired_index =>
      if table.available_transaction_ids_ i then
        .available i
      else if expired_index = none ∧ now - table.transaction_last_used_ i > nanoseconds timeout then
        scanFrom table now timeout rest (some i)
      else
        scanFrom table now timeout rest expired_index

def scan (range : TransactionRange) (table : Table κ) (now timeout : Int) : Scan :=
  table.scanFrom now timeout (List.range range.total) none

/-- An available identifier is handed out. -/
def acquire (table : Table κ) (i : Nat) (now : Int) : Table κ :=
  { table with
    available_transaction_ids_ := Function.update table.available_transaction_ids_ i false
    transaction_last_used_ := Function.update table.transaction_last_used_ i now }

/-- `releaseTransactionID_`. -/
def release (table : Table κ) (i : Nat) : Table κ :=
  { table with
    available_transaction_ids_ := Function.update table.available_transaction_ids_ i true
    transaction_last_used_ := Function.update table.transaction_last_used_ i timePointMin }

/-- Both callbacks are stored. -/
def register (table : Table κ) (i : Nat) (callback : κ) : Table κ :=
  { table with
    reply_callback_ := Function.update table.reply_callback_ i (some callback)
    reply_error_callback_ := Function.update table.reply_error_callback_ i (some callback) }

/-- Both callbacks are reset. -/
def clear (table : Table κ) (i : Nat) : Table κ :=
  { table with
    reply_callback_ := Function.update table.reply_callback_ i none
    reply_error_callback_ := Function.update table.reply_error_callback_ i none }

/-- `reply_error_callback_[i] = nullptr`, the last line of every callback. -/
def resetError (table : Table κ) (i : Nat) : Table κ :=
  { table with reply_error_callback_ := Function.update table.reply_error_callback_ i none }

/-- Whether the time since the last use of an index is above the timeout. -/
def late (table : Table κ) (now timeout : Int) (i : Nat) : Bool :=
  decide (now - table.transaction_last_used_ i > nanoseconds timeout)

/-- The loop looks for the first available index and, besides, for the first late one. -/
theorem scanFrom_eq (table : Table κ) (now timeout : Int) (indices : List Nat)
    (expired_index : Option Nat) :
    table.scanFrom now timeout indices expired_index =
      (indices.find? table.available_transaction_ids_).elim
        ((expired_index.or (indices.find? (table.late now timeout))).elim .exhausted .expired)
        .available := by
  induction indices generalizing expired_index with
  | nil =>
      cases expired_index with
      | none => rfl
      | some i => rfl
  | cons i rest ih =>
      rw [scanFrom, ih, ih]
      cases havailable : table.available_transaction_ids_ i with
      | true => simp [havailable]
      | false =>
          rw [if_neg Bool.false_ne_true, List.find?_cons_of_neg (by simp [havailable])]
          cases expired_index with
          | some j => simp
          | none =>
              by_cases hlate : now - table.transaction_last_used_ i > nanoseconds timeout
              · have hfound : table.late now timeout i = true := decide_eq_true hlate
                rw [if_pos ⟨rfl, hlate⟩, List.find?_cons_of_pos hfound]
                rfl
              · have hyoung : ¬table.late now timeout i = true :=
                  fun h => hlate (of_decide_eq_true h)
                rw [if_neg fun h => hlate h.2, List.find?_cons_of_neg hyoung]

section Scan

variable {range : TransactionRange} {table : Table κ} {now timeout : Int} {i : Nat}

theorem scan_eq : table.scan range now timeout =
    ((List.range range.total).find? table.available_transaction_ids_).elim
      (((List.range range.total).find? (table.late now timeout)).elim .exhausted .expired)
      .available := by
  rw [scan, scanFrom_eq, Option.none_or]

/-- An available index is preferred to a late one. -/
theorem found_iff (available late : Option Nat) (i : Nat) :
    (available.elim (late.elim .exhausted .expired) .available = Scan.available i ↔
      available = some i) ∧
    (available.elim (late.elim .exhausted .expired) .available = Scan.expired i ↔
      available = none ∧ late = some i) ∧
    (available.elim (late.elim .exhausted .expired) .available = Scan.exhausted ↔
      available = none ∧ late = none) := by
  cases available with
  | some j => simp
  | none => cases late <;> simp

theorem find_available_eq_none_iff :
    (List.range range.total).find? table.available_transaction_ids_ = none ↔
      ∀ j < range.total, table.available_transaction_ids_ j = false := by
  simp only [List.find?_range_eq_none, Bool.not_eq_true']

theorem scan_eq_available_iff :
    table.scan range now timeout = .available i ↔ i < range.total ∧
      table.available_transaction_ids_ i = true ∧
      ∀ j < i, table.available_transaction_ids_ j = false := by
  rw [scan_eq, (found_iff _ _ i).1, List.find?_range_eq_some, List.mem_range]
  simp only [Bool.not_eq_true', and_left_comm]

theorem scan_eq_expired_iff :
    table.scan range now timeout = .expired i ↔
      (∀ j < range.total, table.available_transaction_ids_ j = false) ∧ i < range.total ∧
      now - table.transaction_last_used_ i > nanoseconds timeout ∧
      ∀ j < i, ¬now - table.transaction_last_used_ j > nanoseconds timeout := by
  rw [scan_eq, (found_iff _ _ i).2.1, find_available_eq_none_iff, List.find?_range_eq_some,
    List.mem_range]
  simp only [late, decide_eq_true_eq, Bool.not_eq_true', decide_eq_false_iff_not, and_left_comm]

theorem scan_eq_exhausted_iff :
    table.scan range now timeout = .exhausted ↔
      (∀ j < range.total, table.available_transaction_ids_ j = false) ∧
      ∀ j < range.total, ¬now - table.transaction_last_used_ j > nanoseconds timeout := by
  rw [scan_eq, (found_iff _ _ 0).2.2, find_available_eq_none_iff, List.find?_range_eq_none]
  simp only [late, Bool.not_eq_true', decide_eq_false_iff_not]

theorem scan_available (h : table.scan range now timeout = .available i) :
    i < range.total ∧ table.available_transaction_ids_ i = true := by
  obtain ⟨hi, havailable, -⟩ := scan_eq_available_iff.mp h
  exact ⟨hi, havailable⟩

theorem scan_expired (h : table.scan range now timeout = .expired i) :
    i < range.total ∧ table.available_transaction_ids_ i = false ∧
      now - table.transaction_last_used_ i > nanoseconds timeout := by
  obtain ⟨hnone, hi, hlate, -⟩ := scan_eq_expired_iff.mp h
  exact ⟨hi, hnone i hi, hlate⟩

/-- The loop finds an available index if there is one. -/
theorem scan_finds (table : Table κ) (now timeout : Int) (hi : i < range.total)
    (havailable : table.available_transaction_ids_ i = true) :
    ∃ j, table.scan range now timeout = .available j := by
  cases hscan : table.scan range now timeout with
  | available j => exact ⟨j, rfl⟩
  | expired j =>
      rw [(scan_eq_expired_iff.mp hscan).1 i hi] at havailable
      contradiction
  | exhausted =>
      rw [(scan_eq_exhausted_iff.mp hscan).1 i hi] at havailable
      contradiction

end Scan

/-- On a slot that is empty already, the last line of a callback does nothing. -/
theorem resetError_release_clear (table : Table κ) (i : Nat) :
    ((table.clear i).release i).resetError i = (table.clear i).release i := by
  simp [resetError, release, clear]

end Table

end SpwRmap
