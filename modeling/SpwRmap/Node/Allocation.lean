import Mathlib.Order.Bounds.Basic
import Mathlib.Order.Lattice.Nat
import SpwRmap.Node.Calls

/-!
# Which transaction identifier is handed out

`getAvailableTransactionID_` looks through the table for an available identifier, and on the
way for an operation that has waited too long. As long as a slot that is not available
holds both callbacks of one operation, a forced release frees it, and the second round of
the loop ends at the slot that the first has freed.

A timeout of more nanoseconds than 64 bits hold is compared as a smaller one. Then the loop
takes an identifier away from an operation that has not waited too long.
-/

namespace SpwRmap

open Span

namespace Node

variable {self : Node}

/-- The same node after so many operations were started. -/
def counting (self : Node) (operations : Nat) : Node := { self with operations }

def availableSlots (self : Node) : Set Nat :=
  {i | i < self.range.total ∧ self.table.available_transaction_ids_ i = true}

/-- The slots of operations that have waited for longer than so many nanoseconds. -/
def slotsOlderThan (self : Node) (limit now : Int) : Set Nat :=
  {i | i < self.range.total ∧ (∃ callback, self.table.reply_callback_ i = some callback) ∧
    now - self.table.transaction_last_used_ i > limit}

/-- The slots of operations that have waited for longer than the timeout. -/
def overdueSlots (self : Node) (now : Int) : Set Nat :=
  self.slotsOlderThan (self.transaction_timeout_ * 10 ^ 6) now

/-- The slots that the comparison finds to have waited for longer. -/
def lateSlots (self : Node) (now : Int) : Set Nat :=
  self.slotsOlderThan (nanoseconds self.transaction_timeout_) now

/-- What an allocation returns and leaves that takes an identifier away from the slots of
`late`, where `now` are the readings of the clock. -/
structure Selects (late : Set Nat) (before : Node) (now : Nat → Int)
    (r : Except ErrorCode UInt16 × Node) : Prop where
  available : before.availableSlots.Nonempty → ∃ i, IsLeast before.availableSlots i ∧
    r = (.ok (before.range.identifier i), { before with table := before.table.acquire i (now 0) })
  overdue : before.availableSlots = ∅ → late.Nonempty →
    ∃ i callback, IsLeast late i ∧ before.table.reply_callback_ i = some callback ∧
      r = (.ok (before.range.identifier i), { before with
        table := ((before.table.clear i).release i).acquire i (now 1)
        events := before.events ++ [.setValue callback.operation (.error (.errc .timed_out))] })
  exhausted : before.availableSlots = ∅ → late = ∅ →
    r = (.error (.errc .resource_unavailable_try_again), before)

/-- What `getAvailableTransactionID_` should return and leave. -/
abbrev Allocates (before : Node) (now : Nat → Int) (r : Except ErrorCode UInt16 × Node) : Prop :=
  Selects (before.overdueSlots (now 0)) before now r

/-- Where no identifier is available: the comparison singles out the same slot as the timeout
itself, or none either. -/
def ComparesExactly (self : Node) (now : Int) : Prop :=
  self.availableSlots = ∅ →
    ∀ i, IsLeast (self.lateSlots now) i ↔ IsLeast (self.overdueSlots now) i

/-- A timeout whose nanoseconds are a 64-bit integer. -/
theorem comparesExactly_of_fits (hlow : -2 ^ 63 ≤ self.transaction_timeout_ * 10 ^ 6)
    (hhigh : self.transaction_timeout_ * 10 ^ 6 < 2 ^ 63) (now : Int) :
    self.ComparesExactly now := by
  intro _ i
  rw [lateSlots, nanoseconds_eq hlow hhigh, overdueSlots]

/-- A slot that is not available holds both callbacks of an operation, with its own
identifier. -/
def Filled (node : Node) : Prop :=
  ∀ i < node.range.total, node.table.available_transaction_ids_ i = false →
    ∃ operation, node.table.reply_callback_ i = some ⟨operation, node.range.identifier i⟩ ∧
      node.table.reply_error_callback_ i = some ⟨operation, node.range.identifier i⟩

/-- The error callback of an occupied slot settles its operation and frees the slot. -/
theorem forceReleaseTransaction_eq (ndebug : Bool) {i operation : Nat}
    (hi : i < self.range.total)
    (hslot : self.table.reply_error_callback_ i = some ⟨operation, self.range.identifier i⟩) :
    self.forceReleaseTransaction_ ndebug i = .ok { self with
      table := (self.table.clear i).release i
      events := self.events ++ [.setValue operation (.error (.errc .timed_out))] } := by
  simp only [forceReleaseTransaction_, hslot, runErrorCallback]
  rw [finish_eq ndebug (i := i)]
  · simp only [record, Table.resetError_release_clear]
  · exact self.range.index_identifier hi

theorem availableSlots_eq_empty
    (hnone : ∀ j < self.range.total, self.table.available_transaction_ids_ j = false) :
    self.availableSlots = ∅ := by
  apply Set.eq_empty_of_forall_notMem
  rintro i ⟨hi, havailable⟩
  rw [hnone i hi] at havailable
  contradiction

section Cases

variable {now : Nat → Int} {i : Nat}

theorem selects_of_available (late : Set Nat)
    (hscan : self.table.scan self.range (now 0) self.transaction_timeout_ = .available i) :
    Selects late self now (.ok (self.range.identifier i),
      { self with table := self.table.acquire i (now 0) }) := by
  obtain ⟨hi, havailable, hfirst⟩ := Table.scan_eq_available_iff.mp hscan
  have hleast : IsLeast self.availableSlots i := by
    refine ⟨⟨hi, havailable⟩, ?_⟩
    rintro j ⟨-, hj⟩
    by_contra hlt
    rw [hfirst j (Nat.not_le.mp hlt)] at hj
    contradiction
  have hne : self.availableSlots ≠ ∅ := Set.nonempty_iff_ne_empty.mp ⟨i, hleast.1⟩
  exact ⟨fun _ => ⟨i, hleast, rfl⟩, fun hempty => absurd hempty hne,
    fun hempty => absurd hempty hne⟩

theorem selects_of_exhausted
    (hscan : self.table.scan self.range (now 0) self.transaction_timeout_ = .exhausted) :
    Selects (self.lateSlots (now 0)) self now
      (.error (.errc .resource_unavailable_try_again), self) := by
  obtain ⟨hnone, hyoung⟩ := Table.scan_eq_exhausted_iff.mp hscan
  have hnot : self.lateSlots (now 0) = ∅ := by
    apply Set.eq_empty_of_forall_notMem
    intro i hmem
    exact hyoung i hmem.1 hmem.2.2
  refine ⟨?_, ?_, fun _ _ => rfl⟩
  · rw [availableSlots_eq_empty hnone]
    exact fun hne => absurd hne Set.not_nonempty_empty
  · rw [hnot]
    exact fun _ hne => absurd hne Set.not_nonempty_empty

theorem selects_of_expired {callback : Callback}
    (hscan : self.table.scan self.range (now 0) self.transaction_timeout_ = .expired i)
    (hslot : self.table.reply_callback_ i = some callback) :
    Selects (self.lateSlots (now 0)) self now (.ok (self.range.identifier i), { self with
      table := ((self.table.clear i).release i).acquire i (now 1)
      events := self.events ++ [.setValue callback.operation (.error (.errc .timed_out))] }) := by
  obtain ⟨hnone, hi, hlate, hfirst⟩ := Table.scan_eq_expired_iff.mp hscan
  have hleast : IsLeast (self.lateSlots (now 0)) i := by
    refine ⟨⟨hi, ⟨callback, hslot⟩, hlate⟩, ?_⟩
    intro j hj
    by_contra hlt
    exact hfirst j (Nat.not_le.mp hlt) hj.2.2
  have hne : self.lateSlots (now 0) ≠ ∅ := Set.nonempty_iff_ne_empty.mp ⟨i, hleast.1⟩
  refine ⟨?_, fun _ _ => ⟨i, callback, hleast, hslot, rfl⟩, fun _ hnot => absurd hnot hne⟩
  rw [availableSlots_eq_empty hnone]
  exact fun hne => absurd hne Set.not_nonempty_empty

/-- The slot that a forced release has freed is the first one available in the next round. -/
theorem scan_released
    (hscan : self.table.scan self.range (now 0) self.transaction_timeout_ = .expired i)
    (later : Int) :
    ((self.table.clear i).release i).scan self.range later self.transaction_timeout_ =
      .available i := by
  obtain ⟨hnone, hi, -⟩ := Table.scan_eq_expired_iff.mp hscan
  refine Table.scan_eq_available_iff.mpr ⟨hi, Function.update_self .., ?_⟩
  intro j hj
  rw [← hnone j (hj.trans hi)]
  exact Function.update_of_ne hj.ne _ _

end Cases

/-- The first round finds the slot, or frees it and leaves it to the second. -/
theorem allocateLoop_selects (h : self.Filled) (ndebug : Bool) (now : Nat → Int) :
    ∃ r, Selects (self.lateSlots (now 0)) self now r ∧
      ∀ fuel, allocateLoop ndebug (fuel + 2) self now = .ok r := by
  cases hscan : self.table.scan self.range (now 0) self.transaction_timeout_ with
  | available i =>
      refine ⟨_, selects_of_available _ hscan, ?_⟩
      intro fuel
      rw [allocateLoop, hscan]
  | exhausted =>
      refine ⟨_, selects_of_exhausted hscan, ?_⟩
      intro fuel
      rw [allocateLoop, hscan]
  | expired i =>
      obtain ⟨hi, hused, -⟩ := Table.scan_expired hscan
      obtain ⟨operation, hslot, herror⟩ := h i hi hused
      refine ⟨_, selects_of_expired hscan hslot, ?_⟩
      intro fuel
      rw [allocateLoop, hscan]
      dsimp only
      rw [forceReleaseTransaction_eq ndebug hi herror, ok_bind, allocateLoop]
      dsimp only
      rw [scan_released hscan]

/-- All that the table holds for a slot. -/
structure SameSlot (before after : Table Callback) (i : Nat) : Prop where
  available : after.available_transaction_ids_ i = before.available_transaction_ids_ i
  callback : after.reply_callback_ i = before.reply_callback_ i
  error_callback : after.reply_error_callback_ i = before.reply_error_callback_ i
  last_used : after.transaction_last_used_ i = before.transaction_last_used_ i

theorem SameSlot.acquire (table : Table Callback) {i j : Nat} (h : j ≠ i) (now : Int) :
    SameSlot table (table.acquire i now) j :=
  ⟨Function.update_of_ne h _ _, rfl, rfl, Function.update_of_ne h _ _⟩

theorem SameSlot.release_clear (table : Table Callback) {i j : Nat} (h : j ≠ i) :
    SameSlot table ((table.clear i).release i) j :=
  ⟨Function.update_of_ne h _ _, Function.update_of_ne h _ _, Function.update_of_ne h _ _,
    Function.update_of_ne h _ _⟩

theorem SameSlot.trans {a b c : Table Callback} {i : Nat} (h : SameSlot a b i)
    (h' : SameSlot b c i) : SameSlot a c i :=
  ⟨h'.available.trans h.available, h'.callback.trans h.callback,
    h'.error_callback.trans h.error_callback, h'.last_used.trans h.last_used⟩

variable {now : Nat → Int} {limit : Int} {r : Except ErrorCode UInt16 × Node}

/-- Whatever the case, one slot at most was touched, and its identifier is the result. -/
theorem Selects.cases (h : Selects (self.slotsOlderThan limit (now 0)) self now r) :
    (∃ i < self.range.total, r.1 = .ok (self.range.identifier i) ∧
      ∀ j, j ≠ i → SameSlot self.table r.2.table j) ∨
    (∃ e, r.1 = .error e) ∧ r.2 = self := by
  by_cases havailable : self.availableSlots.Nonempty
  · obtain ⟨i, hleast, rfl⟩ := h.available havailable
    exact .inl ⟨i, hleast.1.1, rfl, fun j hj => .acquire self.table hj _⟩
  have hempty := Set.not_nonempty_iff_eq_empty.mp havailable
  by_cases hlate : (self.slotsOlderThan limit (now 0)).Nonempty
  · obtain ⟨i, callback, hleast, -, rfl⟩ := h.overdue hempty hlate
    refine .inl ⟨i, hleast.1.1, rfl, ?_⟩
    intro j hj
    exact (SameSlot.release_clear self.table hj).trans (.acquire _ hj _)
  · rw [h.exhausted hempty (Set.not_nonempty_iff_eq_empty.mp hlate)]
    exact .inr ⟨⟨_, rfl⟩, rfl⟩

theorem Selects.frame (h : Selects (self.slotsOlderThan limit (now 0)) self now r) {j : Nat}
    (hother : r.1 ≠ .ok (self.range.identifier j)) : SameSlot self.table r.2.table j := by
  obtain ⟨i, -, hid, hsame⟩ | ⟨-, hnode⟩ := h.cases
  · apply hsame j
    rintro rfl
    exact hother hid
  · rw [hnode]
    exact ⟨rfl, rfl, rfl, rfl⟩

theorem Selects.inRange (h : Selects (self.slotsOlderThan limit (now 0)) self now r)
    {transaction_id : UInt16} (hid : r.1 = .ok transaction_id) :
    self.range.transaction_id_min ≤ transaction_id ∧
      transaction_id < self.range.transaction_id_max := by
  obtain ⟨i, hi, hres, -⟩ | ⟨⟨e, hres⟩, -⟩ := h.cases
  · cases hid.symm.trans hres
    have htoNat := self.range.identifier_toNat hi
    rw [TransactionRange.total] at hi
    rw [UInt16.le_iff_toNat_le, UInt16.lt_iff_toNat_lt, htoNat]
    omega
  · cases hid.symm.trans hres

theorem exists_isLeast {slots : Set Nat} (h : slots.Nonempty) : ∃ i, IsLeast slots i :=
  ⟨sInf slots, Nat.sInf_mem h, fun _ hj => Nat.sInf_le hj⟩

/-- The result tells from which slot an identifier was taken away. -/
theorem Selects.isLeast {limit' : Int} {i : Nat}
    (h : Selects (self.slotsOlderThan limit (now 0)) self now r)
    (h' : Selects (self.slotsOlderThan limit' (now 0)) self now r)
    (hempty : self.availableSlots = ∅)
    (hi : IsLeast (self.slotsOlderThan limit (now 0)) i) :
    IsLeast (self.slotsOlderThan limit' (now 0)) i := by
  obtain ⟨j, _, hj, -, hres⟩ := h.overdue hempty ⟨i, hi.1⟩
  obtain rfl := hi.unique hj
  by_cases hlate : (self.slotsOlderThan limit' (now 0)).Nonempty
  · obtain ⟨k, _, hk, -, hres'⟩ := h'.overdue hempty hlate
    have hid : self.range.identifier i = self.range.identifier k :=
      Except.ok.inj (congrArg Prod.fst (hres.symm.trans hres'))
    have hik : i = k := by
      have hindex := self.range.index_identifier hi.1.1
      rw [hid, self.range.index_identifier hk.1.1] at hindex
      exact (Option.some.inj hindex).symm
    rw [hik]
    exact hk
  · have hres' := h'.exhausted hempty (Set.not_nonempty_iff_eq_empty.mp hlate)
    cases congrArg Prod.fst (hres.symm.trans hres')

/-- The allocation does what the timeout says exactly if the comparison does. -/
theorem allocates_iff (h : Selects (self.lateSlots (now 0)) self now r) :
    Allocates self now r ↔ self.ComparesExactly (now 0) := by
  constructor
  · intro hallocates hempty i
    exact ⟨h.isLeast hallocates hempty, Selects.isLeast hallocates h hempty⟩
  · intro hexact
    refine ⟨h.available, ?_, ?_⟩
    · intro hempty hoverdue
      obtain ⟨i, hi⟩ := exists_isLeast hoverdue
      have hlate := (hexact hempty i).mpr hi
      obtain ⟨j, callback, hj, hrest⟩ := h.overdue hempty ⟨i, hlate.1⟩
      exact ⟨j, callback, (hexact hempty j).mp hj, hrest⟩
    · intro hempty hnone
      apply h.exhausted hempty
      by_contra hlate
      obtain ⟨i, hi⟩ := exists_isLeast (Set.nonempty_iff_ne_empty.mpr hlate)
      have hoverdue := ((hexact hempty i).mp hi).1
      rw [hnone] at hoverdue
      exact hoverdue

end Node

end SpwRmap
