import Mathlib.Data.List.Basic
import Mathlib.Logic.Function.Iterate

/-!
# Memories whose cells follow each other

A memory is a function of the address. The cells of a block are those that `next` leads
to from its first address, so an address space that wraps around is one as well. A block
that does not meet itself reads back what was written to it.
-/

namespace Memory

variable {α β : Type} (next : α → α)

/-- The `n` cells from `a` on. -/
def read (memory : α → β) : α → Nat → List β
  | _, 0 => []
  | a, n + 1 => memory a :: read memory (next a) n

def write [DecidableEq α] (memory : α → β) : α → List β → α → β
  | _, [] => memory
  | a, b :: bs => write (Function.update memory a b) (next a) bs

variable {next} {memory : α → β} {a x : α} {b : β} {bs cs : List β} {n k : Nat}

@[simp] theorem read_length : (read next memory a n).length = n := by
  induction n generalizing a with
  | zero => rfl
  | succ n ih => rw [read, List.length_cons, ih]

/-- The first `n` cells from `a` on are different ones. -/
def Apart (next : α → α) (a : α) (n : Nat) : Prop :=
  ∀ i < n, ∀ j < n, next^[i] a = next^[j] a → i = j

theorem Apart.tail (h : Apart next a (n + 1)) : Apart next (next a) n := by
  intro i hi j hj heq
  exact Nat.succ.inj (h (i + 1) (Nat.succ_lt_succ hi) (j + 1) (Nat.succ_lt_succ hj) heq)

theorem Apart.ne_head (h : Apart next a (n + 1)) : ∀ i < n, next^[i] (next a) ≠ a := by
  intro i hi heq
  exact Nat.succ_ne_zero i (h (i + 1) (Nat.succ_lt_succ hi) 0 (Nat.succ_pos n) heq)

variable [DecidableEq α]

/-- A block is written in one piece or in two. -/
theorem write_append : write next memory a (bs ++ cs) =
    write next (write next memory a bs) (next^[bs.length] a) cs := by
  induction bs generalizing memory a with
  | nil => rfl
  | cons b bs ih =>
      rw [List.cons_append, write, write, ih, List.length_cons, Function.iterate_succ_apply]

/-- A cell outside the block is kept. -/
theorem write_of_forall_ne (h : ∀ i < bs.length, next^[i] a ≠ x) :
    write next memory a bs x = memory x := by
  induction bs generalizing memory a with
  | nil => rfl
  | cons b bs ih =>
      have hfirst : a ≠ x := h 0 (Nat.succ_pos _)
      rw [write, ih, Function.update_of_ne hfirst.symm]
      intro i hi
      exact h (i + 1) (Nat.succ_lt_succ hi)

theorem read_write_self (h : Apart next a bs.length) :
    read next (write next memory a bs) a bs.length = bs := by
  induction bs generalizing memory a with
  | nil => rfl
  | cons b bs ih =>
      have hhead : write next memory a (b :: bs) a = b := by
        rw [write, write_of_forall_ne h.ne_head, Function.update_self]
      rw [List.length_cons, read, hhead]
      exact congrArg (b :: ·) (ih h.tail)

end Memory
