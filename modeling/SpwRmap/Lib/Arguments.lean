import Mathlib.Data.List.Forall2
import Mathlib.Data.List.Basic
import SpwRmap.Lib.Outcome

/-!
# Command lines of long options

A command line of options, each of which takes some of the arguments behind it. Options begin
with two dashes. `parse` walks the arguments once and leaves to `read` what an option does with
those that follow; `Line` says which command lines there are, given the groups that single
options make. `parse` accepts exactly these lines if `read` is exact for the groups.
-/

namespace Arguments

abbrev Text : Type := List Char

variable {σ α ε : Type}

def isOption : Text → Bool
  | '-' :: '-' :: _ => true
  | _ => false

@[simp] theorem isOption_cons (name : Text) : isOption ('-' :: '-' :: name) = true := rfl

/-- All arguments, from the first that no option has used. `read` answers how many arguments
behind an option it has used. -/
def parse (unknownArgument : Text → ε) (read : Text → List Text → σ → Except ε (σ × Nat)) :
    Nat → List Text → σ → Except ε σ
  | _, [], s => .ok s
  | used + 1, _ :: rest, s => parse unknownArgument read used rest s
  | 0, argument :: rest, s =>
      if isOption argument then
        match read (argument.drop 2) rest s with
        | .error e => .error e
        | .ok (s, used) => parse unknownArgument read used rest s
      else
        .error (unknownArgument argument)

/-- Values until the next option, behind those of `destination`. -/
def collect (value : Text → Option α) (invalid : Text → ε) :
    List Text → List α → Nat → Except ε (List α × Nat)
  | [], destination, used => .ok (destination, used)
  | next :: rest, destination, used =>
      if isOption next then .ok (destination, used)
      else
        match value next with
        | none => .error (invalid next)
        | some a => collect value invalid rest (destination ++ [a]) (used + 1)

/-- A command line made of groups: an option and the arguments it takes. -/
inductive Line (Group : Text → List Text → α → Prop) : List Text → List α → Prop
  | nil : Line Group [] []
  | cons {name : Text} {values rest : List Text} {a : α} {as : List α}
      (group : Group name values a) (line : Line Group rest as) :
      Line Group (('-' :: '-' :: name) :: (values ++ rest)) (a :: as)

/-- Nothing is left, or an option. -/
def Boundary (rest : List Text) : Prop := ∀ argument ∈ rest.head?, isOption argument = true

theorem Line.boundary {Group : Text → List Text → α → Prop} {arguments : List Text} {as : List α}
    (h : Line Group arguments as) : Boundary arguments := by
  cases h with
  | nil => simp [Boundary]
  | cons => simp [Boundary]

/-- What `read` accepts are the groups, with their effects on the state. It may look at what
follows a group, but only to find its end. -/
structure Exact (read : Text → List Text → σ → Except ε (σ × Nat))
    (Group : Text → List Text → α → Prop) (apply : α → σ → σ) : Prop where
  sound : ∀ {name rest s s' used}, read name rest s = .ok (s', used) →
    ∃ values tail a, rest = values ++ tail ∧ used = values.length ∧ Group name values a ∧
      s' = apply a s
  complete : ∀ {name values a}, Group name values a → ∀ {tail}, Boundary tail → ∀ s,
    read name (values ++ tail) s = .ok (apply a s, values.length)

theorem eq_cons_of_isOption {argument : Text} (h : isOption argument = true) :
    argument = '-' :: '-' :: argument.drop 2 := by
  unfold isOption at h
  split at h
  · rfl
  · cases h

section Parse

variable {unknownArgument : Text → ε} {read : Text → List Text → σ → Except ε (σ × Nat)}
  {Group : Text → List Text → α → Prop} {apply : α → σ → σ}

theorem parse_eq_drop (used : Nat) (rest : List Text) (s : σ) :
    parse unknownArgument read used rest s =
      parse unknownArgument read 0 (rest.drop used) s := by
  induction rest generalizing used with
  | nil => cases used <;> rfl
  | cons argument rest ih =>
      cases used with
      | zero => rfl
      | succ used => exact ih used

/-- The arguments are accepted if and only if they are groups. -/
theorem parse_eq_ok_iff (h : Exact read Group apply) {arguments : List Text} {s s' : σ} :
    parse unknownArgument read 0 arguments s = .ok s' ↔
      ∃ as, Line Group arguments as ∧ s' = as.foldl (fun s a => apply a s) s := by
  constructor
  · -- The groups behind the first are those of a shorter command line.
    intro hparse
    induction hlength : arguments.length using Nat.strongRecOn generalizing arguments s with
    | _ n ih =>
        cases arguments with
        | nil =>
            cases hparse
            exact ⟨[], .nil, rfl⟩
        | cons argument rest =>
            unfold parse at hparse
            split at hparse
            · rename_i hoption
              split at hparse
              · cases hparse
              · rename_i s₁ used hread
                obtain ⟨values, tail, a, rfl, rfl, hgroup, rfl⟩ := h.sound hread
                rw [parse_eq_drop, List.drop_left] at hparse
                have hshorter : tail.length < n := by
                  simp only [List.length_cons, List.length_append] at hlength
                  omega
                obtain ⟨as, hline, rfl⟩ := ih _ hshorter hparse rfl
                refine ⟨a :: as, ?_, rfl⟩
                rw [eq_cons_of_isOption hoption]
                exact .cons hgroup hline
            · cases hparse
  · rintro ⟨as, hline, rfl⟩
    induction hline generalizing s with
    | nil => rfl
    | cons hgroup hline ih =>
        have hread := h.complete hgroup hline.boundary s
        rw [parse]
        simp only [isOption_cons, if_true, List.drop_succ_cons, List.drop_zero, hread]
        rw [parse_eq_drop, List.drop_left]
        exact ih

/-- The errors are those of the options and of what is no option. -/
theorem parse_yields {E : ε → Prop} (hunknown : ∀ argument, E (unknownArgument argument))
    (hread : ∀ name rest s, Outcome.Yields E (fun _ => True) (read name rest s)) (used : Nat)
    (rest : List Text) (s : σ) :
    Outcome.Yields E (fun _ => True) (parse unknownArgument read used rest s) := by
  induction rest generalizing used s with
  | nil => cases used <;> trivial
  | cons argument rest ih =>
      cases used with
      | succ used => exact ih used s
      | zero =>
          rw [parse]
          split
          · have hfirst := hread (argument.drop 2) rest s
            split
            · rename_i hresult
              rwa [hresult] at hfirst
            · exact ih _ _
          · exact hunknown argument

end Parse

/-- A collection ends at an option, and everything before it is a value. -/
theorem collect_eq_ok_iff {value : Text → Option α} {invalid : Text → ε} {rest : List Text}
    {destination destination' : List α} {used used' : Nat}
    (hvalue : ∀ text a, value text = some a → isOption text = false) :
    collect value invalid rest destination used = .ok (destination', used') ↔
      ∃ values tail as, rest = values ++ tail ∧ Boundary tail ∧
        List.Forall₂ (fun text a => value text = some a) values as ∧
        destination' = destination ++ as ∧ used' = used + values.length := by
  induction rest generalizing destination used with
  | nil =>
      rw [collect]
      constructor
      · rintro ⟨⟩
        exact ⟨[], [], [], rfl, by simp [Boundary], .nil, by simp, rfl⟩
      · rintro ⟨values, tail, as, happend, -, hforall, rfl, rfl⟩
        obtain ⟨rfl, rfl⟩ := List.append_eq_nil_iff.mp happend.symm
        cases hforall
        simp
  | cons next rest ih =>
      rw [collect]
      constructor
      · intro h
        split at h
        · rename_i hoption
          cases h
          exact ⟨[], next :: rest, [], rfl, by simpa [Boundary] using hoption, .nil, by simp, rfl⟩
        · split at h
          · cases h
          · rename_i a ha
            obtain ⟨values, tail, as, rfl, hboundary, hforall, rfl, rfl⟩ := ih.mp h
            refine ⟨next :: values, tail, a :: as, rfl, hboundary, .cons ha hforall, by simp, ?_⟩
            rw [List.length_cons]
            omega
      · rintro ⟨values, tail, as, happend, hboundary, hforall, rfl, rfl⟩
        cases hforall with
        | nil =>
            rw [List.nil_append] at happend
            subst happend
            have hoption : isOption next = true := hboundary next rfl
            rw [if_pos hoption]
            simp
        | cons ha hforall =>
            obtain ⟨rfl, rfl⟩ := List.cons.inj happend
            rw [if_neg (by rw [hvalue _ _ ha]; decide), ha]
            refine ih.mpr ⟨_, tail, _, rfl, hboundary, hforall, by simp, ?_⟩
            rw [List.length_cons]
            omega

end Arguments
