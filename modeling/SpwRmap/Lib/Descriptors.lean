import Mathlib.Data.Finset.Basic

/-!
# Tables of open descriptors

A table holds the descriptors that are open. Every descriptor that is opened has a new
number, so that a number stands for one opening and not for whatever has its place later.
That the numbers to come are new is part of the table.
-/

structure Descriptors where
  next : Nat
  live : Finset Nat
  fresh : ∀ d ∈ live, d < next

namespace Descriptors

/-- Nothing has been opened yet. -/
def empty : Descriptors := ⟨0, ∅, by simp⟩

/-- Opens descriptor `next`. -/
def opening (table : Descriptors) : Descriptors where
  next := table.next + 1
  live := insert table.next table.live
  fresh := by
    intro d hd
    obtain rfl | hd := Finset.mem_insert.mp hd
    · exact Nat.lt_succ_self _
    · exact Nat.lt_succ_of_lt (table.fresh d hd)

def closing (table : Descriptors) (d : Nat) : Descriptors where
  next := table.next
  live := table.live.erase d
  fresh := fun _ hd => table.fresh _ (Finset.mem_of_mem_erase hd)

/-- A variable without a descriptor has nothing to close. -/
def closingIn (table : Descriptors) (fd : Option Nat) : Descriptors :=
  match fd with
  | none => table
  | some d => table.closing d

variable (table : Descriptors)

@[simp] theorem opening_next : table.opening.next = table.next + 1 := rfl

@[simp] theorem opening_live : table.opening.live = insert table.next table.live := rfl

@[simp] theorem closing_next (d : Nat) : (table.closing d).next = table.next := rfl

@[simp] theorem closing_live (d : Nat) : (table.closing d).live = table.live.erase d := rfl

theorem notMem_live {d : Nat} (h : table.next ≤ d) : d ∉ table.live := by
  intro hd
  exact absurd (table.fresh d hd) (Nat.not_lt.mpr h)

/-- What is opened and closed again has left no trace among the open ones. -/
@[simp] theorem closing_opening_live : (table.opening.closing table.next).live = table.live := by
  rw [closing_live, opening_live]
  exact Finset.erase_insert (table.notMem_live (Nat.le_refl _))

/-- Of two descriptors opened in a row, the first is closed again. -/
theorem closing_opening_opening_live : (table.opening.opening.closing table.next).live =
    insert (table.next + 1) table.live := by
  have hnext := table.notMem_live (Nat.le_refl table.next)
  rw [closing_live, opening_live, opening_next, opening_live,
    Finset.erase_insert_of_ne (Nat.succ_ne_self _), Finset.erase_insert hnext]

/-- Everything that was opened since has been closed, and nothing else. -/
structure Restored (before after : Descriptors) : Prop where
  next_le : before.next ≤ after.next
  live_eq : after.live = before.live

/-- Nothing has been closed since. -/
structure Extended (before after : Descriptors) : Prop where
  next_le : before.next ≤ after.next
  subset : before.live ⊆ after.live

variable {table} {a b c : Descriptors}

theorem Restored.refl (table : Descriptors) : Restored table table := ⟨Nat.le_refl _, rfl⟩

theorem Restored.trans (h : Restored a b) (h' : Restored b c) : Restored a c :=
  ⟨h.next_le.trans h'.next_le, h'.live_eq.trans h.live_eq⟩

theorem Restored.extended (h : Restored a b) : Extended a b := ⟨h.next_le, h.live_eq.ge⟩

theorem Extended.trans (h : Extended a b) (h' : Extended b c) : Extended a c :=
  ⟨h.next_le.trans h'.next_le, h.subset.trans h'.subset⟩

theorem Restored.opening_closing (table : Descriptors) :
    Restored table (table.opening.closing table.next) :=
  ⟨Nat.le_succ _, table.closing_opening_live⟩

theorem Extended.opening (table : Descriptors) : Extended table table.opening :=
  ⟨Nat.le_succ _, Finset.subset_insert _ _⟩

/-- Two descriptors opened in a row and closed again. -/
theorem Restored.opening_closing_twice (table : Descriptors) :
    Restored table ((table.opening.opening.closing table.next).closing (table.next + 1)) := by
  have hsucc := table.notMem_live (Nat.le_succ table.next)
  refine ⟨Nat.le_add_right _ 2, ?_⟩
  rw [closing_live, closing_opening_opening_live, Finset.erase_insert hsucc]

end Descriptors
