import Mathlib.Algebra.Group.Nat.Defs
import Mathlib.Data.List.Basic

/-!
# Views of byte buffers with checked access

A span is the list of its elements. Reading an element and taking a sub-span
have preconditions in the modelled language; a violated precondition is a
`Fault`, an outcome of its own that no caller can confuse with an error it
handles. `Cursor` is the idiom `out[head++] = b` over an output span with a signed
32-bit index: while the writes stay inside the span and the index below its largest
value, the cursor is `Cursor.after out w`, the original span with its first bytes
replaced by the bytes `w` written so far. An increment of the largest index is a fault.
-/

namespace Span

/-- What the modelled language leaves undefined, or stops with. `overflow` is one of a
signed integer, `lengthError` the exception of a buffer that cannot grow. A loop of the
model that runs out of fuel is a fault too. -/
inductive Fault where
  | outOfRange
  | nullPointer
  | assertion
  | overflow
  | lengthError
  | outOfFuel
  deriving DecidableEq, Repr

/-- The faults that depend on the data alone, and on no object that may be missing and
no loop that may run on. -/
def Fault.OfData : Fault → Prop
  | .outOfRange | .assertion | .overflow | .lengthError => True
  | .nullPointer | .outOfFuel => False

/-- A computation whose preconditions are checked. -/
abbrev Checked (α : Type) : Type := Except Fault α

@[simp] theorem ok_bind {α β : Type} (a : α) (f : α → Checked β) :
    ((Except.ok a : Checked α) >>= f) = f a := rfl

@[simp] theorem error_bind {α β : Type} (e : Fault) (f : α → Checked β) :
    ((Except.error e : Checked α) >>= f) = .error e := rfl

@[simp] theorem pure_eq_ok {α : Type} (a : α) : (pure a : Checked α) = .ok a := rfl

/-- An assertion, switched off when `ndebug` is set. -/
def check (ndebug : Bool) (condition : Prop) [Decidable condition] : Checked Unit :=
  if ndebug = true ∨ condition then .ok () else .error .assertion

@[simp] theorem check_of (ndebug : Bool) {condition : Prop} [Decidable condition]
    (h : condition) : check ndebug condition = .ok () := by
  simp [check, h]

section Access

variable {α : Type} {s : List α} {i off len : Nat}

/-- `s[i]`. -/
def read (s : List α) (i : Nat) : Checked α :=
  match s[i]? with
  | some a => .ok a
  | none => .error .outOfRange

/-- `s.subspan(off, len)`. -/
def subspan (s : List α) (off len : Nat) : Checked (List α) :=
  if off + len ≤ s.length then .ok ((s.drop off).take len) else .error .outOfRange

/-- `s.subspan(off)`. -/
def dropFront (s : List α) (off : Nat) : Checked (List α) :=
  if off ≤ s.length then .ok (s.drop off) else .error .outOfRange

/-- `s[off]`, `s[off + 1]`, ..., read one after another. -/
def readMany (s : List α) (off : Nat) : Nat → Checked (List α)
  | 0 => .ok []
  | k + 1 => do
      let a ← read s off
      let rest ← readMany s (off + 1) k
      return a :: rest

theorem read_getD (d : α) (h : i < s.length) : read s i = .ok (s.getD i d) := by
  simp [read, h]

theorem readMany_eq {k : Nat} (h : off + k ≤ s.length) :
    readMany s off k = .ok ((s.drop off).take k) := by
  induction k generalizing off with
  | zero => simp [readMany]
  | succ k ih =>
      have hread : read s off = .ok s[off] := by simp [read, show off < s.length by omega]
      rw [readMany, hread, ok_bind, ih (by omega), ok_bind,
        List.drop_eq_getElem_cons (show off < s.length by omega), List.take_succ_cons, pure_eq_ok]

theorem read_append_right (a b : List α) (i : Nat) :
    read (a ++ b) (a.length + i) = read b i := by
  rw [read, read, List.getElem?_append_right (Nat.le_add_right _ _), Nat.add_sub_cancel_left]

theorem subspan_eq (h : off + len ≤ s.length) :
    subspan s off len = .ok ((s.drop off).take len) := if_pos h

theorem dropFront_eq (h : off ≤ s.length) : dropFront s off = .ok (s.drop off) := if_pos h

end Access

/-- The bytes of `s` with those from `off` on overwritten by `bytes`. -/
def store {α : Type} (s : List α) (off : Nat) (bytes : List α) : List α :=
  s.take off ++ bytes ++ s.drop (off + bytes.length)

/-- `resize` of a vector whose new elements are `a`. -/
def resize {α : Type} (a : α) (s : List α) (n : Nat) : List α :=
  s.take n ++ List.replicate (n - s.length) a

/-- `max_size()` of a vector of bytes. -/
def max_size : Nat := 2 ^ 63 - 1

theorem max_size_lt : max_size < 2 ^ 64 := by
  decide

/-- `resize`, which throws `std::length_error` rather than make a vector grow beyond
`max_size()`. -/
def tryResize {α : Type} (a : α) (s : List α) (n : Nat) : Checked (List α) :=
  if s.length < n ∧ max_size < n then .error .lengthError else .ok (resize a s n)

section Store

variable {α : Type} {s bytes : List α} {off n : Nat}

@[simp] theorem resize_length (a : α) (s : List α) (n : Nat) : (resize a s n).length = n := by
  simp only [resize, List.length_append, List.length_take, List.length_replicate]
  omega

theorem resize_take (a : α) (hn : s.length ≤ n) : (resize a s n).take s.length = s := by
  rw [resize, List.take_of_length_le hn, List.take_left']
  rfl

theorem tryResize_eq (a : α) (h : n ≤ s.length ∨ n ≤ max_size) :
    tryResize a s n = .ok (resize a s n) := by
  apply if_neg
  rintro ⟨hgrows, hlong⟩
  omega

theorem tryResize_lengthError (a : α) (hgrows : s.length < n) (hlong : max_size < n) :
    tryResize a s n = .error .lengthError := if_pos ⟨hgrows, hlong⟩

theorem store_length (h : off + bytes.length ≤ s.length) :
    (store s off bytes).length = s.length := by
  simp only [store, List.length_append, List.length_take, List.length_drop]
  omega

/-- What was in front stays, and the stored bytes follow it. -/
theorem store_take (h : off ≤ s.length) :
    (store s off bytes).take (off + bytes.length) = s.take off ++ bytes := by
  have hlen : (s.take off ++ bytes).length = off + bytes.length := by
    simp [Nat.min_eq_left h]
  rw [store, ← hlen, List.take_left]

end Store

/-- The difference of two `size_t` values. -/
def sizeSub (a b : Nat) : Nat := (a + (2 ^ 64 - b % 2 ^ 64)) % 2 ^ 64

theorem sizeSub_eq {a b : Nat} (h : b ≤ a) (ha : a < 2 ^ 64) : sizeSub a b = a - b := by
  rw [sizeSub]
  omega

/-- The largest value of an `int`. -/
def INT_MAX : Nat := 2 ^ 31 - 1

theorem INT_MAX_eq : INT_MAX = 2147483647 := rfl

/-- An output span and the index of the next byte to write, an `int` that starts at zero. -/
structure Cursor where
  out : List UInt8
  head : Nat
  deriving DecidableEq, Repr

namespace Cursor

def start (out : List UInt8) : Cursor := ⟨out, 0⟩

/-- `out[head++] = b`. The index is incremented before the access. -/
def put (c : Cursor) (b : UInt8) : Checked Cursor :=
  if c.head < INT_MAX then
    if c.head < c.out.length then .ok ⟨c.out.set c.head b, c.head + 1⟩ else .error .outOfRange
  else .error .overflow

/-- One `put` for each byte, in order. -/
def putAll : Cursor → List UInt8 → Checked Cursor
  | c, [] => .ok c
  | c, b :: bs => c.put b >>= fun c => c.putAll bs

/-- The loop `for (i = 0; i < n; ++i) out[head++] = b`. -/
def putRepeat : Cursor → Nat → UInt8 → Checked Cursor
  | c, 0, _ => .ok c
  | c, n + 1, b => c.put b >>= fun c => c.putRepeat n b

theorem put_eq (c : Cursor) (b : UInt8) : c.put b = c.putAll [b] := by
  cases h : c.put b <;> simp [putAll, h]

theorem putRepeat_eq (c : Cursor) (n : Nat) (b : UInt8) :
    c.putRepeat n b = c.putAll (List.replicate n b) := by
  induction n generalizing c with
  | zero => rfl
  | succ n ih => simp only [putRepeat, List.replicate_succ, putAll, ih]

theorem putAll_append (c : Cursor) (xs ys : List UInt8) :
    c.putAll (xs ++ ys) = c.putAll xs >>= fun c => c.putAll ys := by
  induction xs generalizing c with
  | nil => rfl
  | cons x xs ih =>
      simp only [List.cons_append, putAll]
      cases c.put x with
      | ok c => exact ih c
      | error e => rfl

/-- Consecutive stores are one `putAll`, whatever follows them. -/
theorem putAll_bind_putAll {α : Type} (c : Cursor) (xs ys : List UInt8) (f : Cursor → Checked α) :
    (c.putAll xs >>= fun c => c.putAll ys >>= f) = c.putAll (xs ++ ys) >>= f := by
  rw [putAll_append]
  cases c.putAll xs <;> rfl

/-- The cursor after writing `w` over the front of `orig`. -/
def after (orig w : List UInt8) : Cursor := ⟨w ++ orig.drop w.length, w.length⟩

variable {orig w : List UInt8}

theorem start_eq (out : List UInt8) : start out = after out [] := rfl

theorem after_put (b : UInt8) (h : w.length < orig.length) (hint : w.length < INT_MAX) :
    (after orig w).put b = .ok (after orig (w ++ [b])) := by
  obtain ⟨x, hx⟩ : ∃ x, orig.drop w.length = x :: orig.drop (w.length + 1) :=
    ⟨orig[w.length], by rw [List.drop_eq_getElem_cons h]⟩
  simp [put, after, hx, hint]

theorem after_putAll (bs : List UInt8) (h : w.length + bs.length ≤ orig.length)
    (hint : w.length + bs.length ≤ INT_MAX) :
    (after orig w).putAll bs = .ok (after orig (w ++ bs)) := by
  induction bs generalizing w with
  | nil => simp [putAll]
  | cons b bs ih =>
      simp only [List.length_cons] at h hint
      rw [putAll, after_put b (by omega) (by omega), ok_bind,
        ih (by simp; omega) (by simp; omega)]
      simp

theorem after_put_overflow (b : UInt8) (h : INT_MAX ≤ w.length) :
    (after orig w).put b = .error .overflow := by
  have hindex : ¬(after orig w).head < INT_MAX := Nat.not_lt.mpr h
  rw [put, if_neg hindex]

/-- Stores inside the span that an `int` does not count. -/
theorem after_putAll_overflow (bs : List UInt8) (h : w.length + bs.length ≤ orig.length)
    (hw : w.length ≤ INT_MAX) (hint : INT_MAX < w.length + bs.length) :
    (after orig w).putAll bs = .error .overflow := by
  induction bs generalizing w with
  | nil =>
      rw [List.length_nil, Nat.add_zero] at hint
      omega
  | cons b bs ih =>
      simp only [List.length_cons] at h hint
      rw [putAll]
      by_cases hlast : w.length = INT_MAX
      · rw [after_put_overflow b (Nat.le_of_eq hlast.symm), error_bind]
      · rw [after_put b (by omega) (by omega), ok_bind]
        exact ih (by simp; omega) (by simp; omega) (by simp; omega)

/-- Stores in two stages, with a computation between them that looks at the first. -/
theorem putAll_stages_overflow {α : Type} {out xs ys : List UInt8} {f g : Cursor → Checked α}
    (hroom : xs.length + ys.length ≤ out.length) (hint : INT_MAX < xs.length + ys.length)
    (hf : f (after out xs) = (after out xs).putAll ys >>= g) :
    (start out).putAll xs >>= f = .error .overflow := by
  rw [start_eq]
  by_cases hxs : xs.length ≤ INT_MAX
  · rw [after_putAll xs (by simp; omega) (by simpa using hxs), ok_bind, List.nil_append, hf,
      after_putAll_overflow ys hroom hxs hint, error_bind]
  · rw [after_putAll_overflow xs (by simp; omega) (Nat.zero_le _) (by simp; omega), error_bind]

/-- Reading back from the cursor sees the written bytes. -/
theorem after_subspan (a : Nat) (h : a ≤ w.length) :
    subspan (after orig w).out a ((after orig w).head - a) = .ok (w.drop a) := by
  have hlen : a + (w.length - a) ≤ (after orig w).out.length := by
    simp only [after, List.length_append]
    omega
  rw [subspan_eq (by simpa [after] using hlen)]
  simp [after, List.drop_append_of_le_length h]

end Cursor

end Span
