import SpwRmap.Lib.Descriptors
import SpwRmap.Lib.Transition
import SpwRmap.Packet.Basic

/-!
# The listening socket of `tcp_server.cc`

`accept_once` tries the addresses one by one. What the system calls answer for an address
is given with it, as a `Candidate`. The two descriptors of a server are members, and the
loop goes on to the next address also after a connection was accepted, so that what they
held is overwritten while it is open.
-/

namespace SpwRmap

open Transition

/-- What the system calls answer for one address. -/
structure Candidate where
  socket : Except ErrorCode Unit := .ok ()
  /-- The two calls of `fcntl` for the listening socket. -/
  listenGetFlags : Except ErrorCode Unit := .ok ()
  listenSetFlags : Except ErrorCode Unit := .ok ()
  bind : Except ErrorCode Unit := .ok ()
  listen : Except ErrorCode Unit := .ok ()
  /-- How often `accept` is interrupted before it answers. -/
  interruptions : Nat := 0
  accept : Except ErrorCode Unit := .ok ()
  /-- `setsockopt` and the two calls of `fcntl` for the accepted socket. -/
  setsockopt : Except ErrorCode Unit := .ok ()
  clientGetFlags : Except ErrorCode Unit := .ok ()
  clientSetFlags : Except ErrorCode Unit := .ok ()
  deriving Repr

/-- The members, the open descriptors that the object has opened, and what `accept` has
returned so far. -/
structure TCPServer where
  listen_fd_ : Option Nat := none
  client_fd_ : Option Nat := none
  descriptors : Descriptors := .empty
  accepted : List Nat := []

namespace Candidate

/-- `set_listening_sockopt`. The results of `setsockopt` are ignored. -/
def set_listening_sockopt (ai : Candidate) : Except ErrorCode Unit := do
  ai.listenGetFlags
  ai.listenSetFlags

def server_set_sockopts (ai : Candidate) : Except ErrorCode Unit := do
  ai.setsockopt
  ai.clientGetFlags
  ai.clientSetFlags

/-- The three steps between `socket` and `accept`. Each failure is handled alike. -/
def prepare (ai : Candidate) : Except ErrorCode Unit := do
  ai.set_listening_sockopt
  ai.bind
  ai.listen

end Candidate

namespace TCPServer

/-- `socket`, with its result in `listen_fd_`. -/
def openListening (self : TCPServer) : TCPServer :=
  { self with
    listen_fd_ := some self.descriptors.next
    descriptors := self.descriptors.opening }

def closeListening (self : TCPServer) : TCPServer :=
  { self with
    listen_fd_ := none
    descriptors := self.descriptors.closingIn self.listen_fd_ }

def closeClient (self : TCPServer) : TCPServer :=
  { self with
    client_fd_ := none
    descriptors := self.descriptors.closingIn self.client_fd_ }

/-- The loop over `accept`. Every round assigns `client_fd_`. -/
def accept (self : TCPServer) (res : Except ErrorCode Unit) :
    Nat → Except ErrorCode Unit × TCPServer
  | interruptions + 1 => accept { self with client_fd_ := none } res interruptions
  | 0 =>
      match res with
      | .error e => (.error e, { self with client_fd_ := none })
      | .ok _ => (.ok (), { self with
          client_fd_ := some self.descriptors.next
          descriptors := self.descriptors.opening
          accepted := self.accepted ++ [self.descriptors.next] })

/-- One round of the loop over the addresses: `last`, and the server. -/
def tryAddress (self : TCPServer) (ai : Candidate) : Except ErrorCode Unit × TCPServer :=
  match ai.socket with
  | .error e => (.error e, { self with listen_fd_ := none })
  | .ok _ =>
      let self := self.openListening
      match ai.prepare with
      | .error e => (.error e, self.closeListening)
      | .ok _ =>
          match self.accept ai.accept ai.interruptions with
          | (.error e, self) => (.error e, self.closeListening)
          | (.ok _, self) =>
              match ai.server_set_sockopts with
              | .error e => (.error e, self.closeListening.closeClient)
              | .ok _ => (.ok (), self)

def acceptLoop : List Candidate → Except ErrorCode Unit → TCPServer →
    Except ErrorCode Unit × TCPServer
  | [], last, self => (last, self)
  | ai :: rest, _, self =>
      let (last, self) := self.tryAddress ai
      acceptLoop rest last self

/-- `addresses` is the answer of `getaddrinfo`. The test for success is on the member. -/
def accept_once (self : TCPServer) (addresses : Except ErrorCode (List Candidate)) :
    Except ErrorCode Unit × TCPServer :=
  match addresses with
  | .error e => (.error e, self)
  | .ok addresses =>
      let (last, self) := acceptLoop addresses (.error (.errc .invalid_argument)) self
      match self.client_fd_ with
      | none => (last, self)
      | some _ => (.ok (), self.closeListening)

end TCPServer

namespace Candidate

/-- The address gets as far as `accept`. -/
def reaches (ai : Candidate) : Bool := ai.socket.isOk && ai.prepare.isOk

def accepts (ai : Candidate) : Bool := ai.reaches && ai.accept.isOk

/-- The connection is accepted and gets its options. -/
def completes (ai : Candidate) : Bool := ai.accepts && ai.server_set_sockopts.isOk

end Candidate

namespace TCPServer

open Descriptors

/-- What a round can leave. -/
inductive Tried (self : TCPServer) (ai : Candidate) : Except ErrorCode Unit × TCPServer → Prop
  | failed (e : ErrorCode) (d : Descriptors) :
      ai.reaches = false → Restored self.descriptors d →
      Tried self ai (.error e, { self with listen_fd_ := none, descriptors := d })
  | refused (e : ErrorCode) (d : Descriptors) :
      ai.reaches = true → ai.accepts = false → Restored self.descriptors d →
      Tried self ai (.error e,
        { self with listen_fd_ := none, client_fd_ := none, descriptors := d })
  | undone (e : ErrorCode) (d : Descriptors) :
      ai.reaches = true → ai.accepts = true → ai.completes = false →
      Restored self.descriptors d →
      Tried self ai (.error e,
        { listen_fd_ := none
          client_fd_ := none
          descriptors := d
          accepted := self.accepted ++ [self.descriptors.next + 1] })
  | completed :
      ai.reaches = true → ai.accepts = true → ai.completes = true →
      Tried self ai (.ok (),
        { listen_fd_ := some self.descriptors.next
          client_fd_ := some (self.descriptors.next + 1)
          descriptors := self.descriptors.opening.opening
          accepted := self.accepted ++ [self.descriptors.next + 1] })

/-- Interruptions leave no trace: the last answer decides. -/
theorem accept_eq (self : TCPServer) (res : Except ErrorCode Unit) (interruptions : Nat) :
    self.accept res interruptions = self.accept res 0 := by
  induction interruptions generalizing self with
  | zero => rfl
  | succ n ih =>
      rw [accept, ih]
      cases res with
      | error e => rfl
      | ok _ => rfl

theorem tryAddress_tried (self : TCPServer) (ai : Candidate) :
    Tried self ai (self.tryAddress ai) := by
  rw [tryAddress]
  cases hsocket : ai.socket with
  | error e =>
      apply Tried.failed e self.descriptors _ (.refl _)
      rw [Candidate.reaches, hsocket]
      rfl
  | ok _ =>
  dsimp only
  cases hprepare : ai.prepare with
  | error e =>
      apply Tried.failed e _ _ (.opening_closing _)
      rw [Candidate.reaches, hsocket, hprepare]
      rfl
  | ok _ =>
  have hreaches : ai.reaches = true := by
    rw [Candidate.reaches, hsocket, hprepare]
    rfl
  dsimp only
  rw [accept_eq]
  cases haccept : ai.accept with
  | error e =>
      apply Tried.refused e _ hreaches _ (.opening_closing _)
      rw [Candidate.accepts, haccept, hreaches]
      rfl
  | ok _ =>
  have haccepts : ai.accepts = true := by
    rw [Candidate.accepts, haccept, hreaches]
    rfl
  dsimp only [accept]
  cases hoptions : ai.server_set_sockopts with
  | error e =>
      apply Tried.undone e _ hreaches haccepts _ (.opening_closing_twice _)
      rw [Candidate.completes, haccepts, hoptions]
      rfl
  | ok _ =>
      apply Tried.completed hreaches haccepts
      rw [Candidate.completes, haccepts, hoptions]
      rfl

theorem acceptLoop_cons (ai : Candidate) (rest : List Candidate) (last : Except ErrorCode Unit)
    (self : TCPServer) :
    acceptLoop (ai :: rest) last self =
      acceptLoop rest (self.tryAddress ai).1 (self.tryAddress ai).2 := rfl

theorem acceptLoop_append (front rest : List Candidate) (last : Except ErrorCode Unit)
    (self : TCPServer) :
    acceptLoop (front ++ rest) last self =
      acceptLoop rest (acceptLoop front last self).1 (acceptLoop front last self).2 := by
  induction front generalizing last self with
  | nil => rfl
  | cons ai front ih =>
      rw [List.cons_append, acceptLoop_cons, acceptLoop_cons]
      exact ih _ _

/-- `accept` has returned one descriptor for each address that accepts. -/
theorem acceptLoop_accepted (addresses : List Candidate) (last : Except ErrorCode Unit)
    (self : TCPServer) :
    ∃ new, (acceptLoop addresses last self).2.accepted = self.accepted ++ new ∧
      new.length = addresses.countP Candidate.accepts := by
  induction addresses generalizing last self with
  | nil => exact ⟨[], (List.append_nil _).symm, rfl⟩
  | cons ai rest ih =>
      rw [acceptLoop_cons, List.countP_cons]
      have htried := self.tryAddress_tried ai
      generalize self.tryAddress ai = r at htried
      obtain ⟨new, hnew, hlen⟩ := ih r.1 r.2
      rw [hnew]
      cases htried with
      | failed e d hreaches _ =>
          have haccepts : ai.accepts = false := by rw [Candidate.accepts, hreaches]; rfl
          exact ⟨new, rfl, by simp [hlen, haccepts]⟩
      | refused e d _ haccepts _ => exact ⟨new, rfl, by simp [hlen, haccepts]⟩
      | undone e d _ haccepts _ _ =>
          exact ⟨_, List.append_assoc .., by simp [hlen, haccepts]⟩
      | completed _ haccepts _ =>
          exact ⟨_, List.append_assoc .., by simp [hlen, haccepts]⟩

/-- Nothing that was open before is closed. -/
theorem acceptLoop_extended (addresses : List Candidate) (last : Except ErrorCode Unit)
    (self : TCPServer) :
    Extended self.descriptors (acceptLoop addresses last self).2.descriptors := by
  induction addresses generalizing last self with
  | nil => exact (Restored.refl _).extended
  | cons ai rest ih =>
      rw [acceptLoop_cons]
      have htried := self.tryAddress_tried ai
      generalize self.tryAddress ai = r at htried
      refine Extended.trans ?_ (ih r.1 r.2)
      cases htried with
      | failed e d _ h => exact h.extended
      | refused e d _ _ h => exact h.extended
      | undone e d _ _ _ h => exact h.extended
      | completed _ _ _ => exact (Extended.opening _).trans (Extended.opening _)

/-- An address that completes leaves both sockets open. -/
theorem tryAddress_completes (self : TCPServer) {ai : Candidate} (h : ai.completes = true) :
    self.tryAddress ai = (.ok (),
      { listen_fd_ := some self.descriptors.next
        client_fd_ := some (self.descriptors.next + 1)
        descriptors := self.descriptors.opening.opening
        accepted := self.accepted ++ [self.descriptors.next + 1] }) := by
  have htried := self.tryAddress_tried ai
  generalize self.tryAddress ai = r at htried
  cases htried with
  | failed e d hreaches _ => simp [Candidate.completes, Candidate.accepts, hreaches] at h
  | refused e d _ haccepts _ => simp [Candidate.completes, haccepts] at h
  | undone e d _ _ hcompletes _ => simp [hcompletes] at h
  | completed _ _ _ => rfl

/-- Addresses that do not complete leave nothing open. The connection in `client_fd_` is
forgotten as soon as one of them reaches `accept`. -/
structure Failed (addresses : List Candidate) (before after : TCPServer) : Prop where
  restored : Restored before.descriptors after.descriptors
  listening : addresses ≠ [] → after.listen_fd_ = none
  client : after.client_fd_ =
    if ∃ ai ∈ addresses, ai.reaches = true then none else before.client_fd_

theorem acceptLoop_failed {addresses : List Candidate}
    (hnone : ∀ ai ∈ addresses, ai.completes = false) (last : Except ErrorCode Unit)
    (self : TCPServer) : Failed addresses self (acceptLoop addresses last self).2 := by
  induction addresses generalizing last self with
  | nil => exact ⟨.refl _, fun h => absurd rfl h, by simp [acceptLoop]⟩
  | cons ai rest ih =>
      rw [acceptLoop_cons]
      have hrest : ∀ ai ∈ rest, ai.completes = false := by
        intro other hother
        exact hnone other (List.mem_cons_of_mem _ hother)
      have hlisten : ∀ next : TCPServer, next.listen_fd_ = none → ∀ last,
          (acceptLoop rest last next).2.listen_fd_ = none := by
        intro next hnext last
        cases rest with
        | nil => exact hnext
        | cons other rest => exact (ih hrest last next).listening (List.cons_ne_nil _ _)
      have htried := self.tryAddress_tried ai
      generalize self.tryAddress ai = r at htried
      have hfailed := ih hrest r.1 r.2
      cases htried with
      | failed e d hreaches h =>
          exact ⟨h.trans hfailed.restored, fun _ => hlisten _ rfl _,
            by simp [hfailed.client, hreaches]⟩
      | refused e d hreaches _ h =>
          exact ⟨h.trans hfailed.restored, fun _ => hlisten _ rfl _,
            by simp [hfailed.client, hreaches]⟩
      | undone e d hreaches _ _ h =>
          exact ⟨h.trans hfailed.restored, fun _ => hlisten _ rfl _,
            by simp [hfailed.client, hreaches]⟩
      | completed _ _ hcompletes =>
          rw [hnone ai List.mem_cons_self] at hcompletes
          contradiction

theorem acceptLoop_error {addresses : List Candidate}
    (hnone : ∀ ai ∈ addresses, ai.completes = false) (e : ErrorCode) (self : TCPServer) :
    ∃ e', (acceptLoop addresses (.error e) self).1 = .error e' := by
  induction addresses generalizing e self with
  | nil => exact ⟨e, rfl⟩
  | cons ai rest ih =>
      rw [acceptLoop_cons]
      have hrest : ∀ ai ∈ rest, ai.completes = false := by
        intro other hother
        exact hnone other (List.mem_cons_of_mem _ hother)
      have htried := self.tryAddress_tried ai
      generalize self.tryAddress ai = r at htried
      cases htried with
      | failed e d _ _ => exact ih hrest e _
      | refused e d _ _ _ => exact ih hrest e _
      | undone e d _ _ _ _ => exact ih hrest e _
      | completed _ _ hcompletes =>
          rw [hnone ai List.mem_cons_self] at hcompletes
          contradiction

/-- The last address that completes, if there is one. -/
theorem exists_last_completing {addresses : List Candidate}
    (h : ¬∀ ai ∈ addresses, ai.completes = false) :
    ∃ front ai rest, addresses = front ++ ai :: rest ∧ ai.completes = true ∧
      ∀ other ∈ rest, other.completes = false := by
  induction addresses with
  | nil => exact absurd (by simp) h
  | cons ai rest ih =>
      by_cases hrest : ∀ other ∈ rest, other.completes = false
      · refine ⟨[], ai, rest, rfl, ?_, hrest⟩
        apply eq_true_of_ne_false
        intro hai
        exact h (by simpa [hai] using hrest)
      · obtain ⟨front, last, after, rfl, hlast, hafter⟩ := ih hrest
        exact ⟨ai :: front, last, after, rfl, hlast, hafter⟩

/-- A successful call has accepted one connection and has it, and nothing else is open. A
call that fails leaves nothing open that it has opened. -/
def AccountsFor (before : TCPServer) (r : Except ErrorCode Unit × TCPServer) : Prop :=
  match r.1 with
  | .ok _ => ∃ fd, r.2.accepted = before.accepted ++ [fd] ∧ r.2.client_fd_ = some fd ∧
      r.2.descriptors.live = {fd}
  | .error _ => ∀ d ∈ r.2.descriptors.live, d < before.descriptors.next

/-- No address completes, and an earlier connection is not taken for a new one; or nothing
was open and only the last address accepts a connection. -/
def Orderly (self : TCPServer) (addresses : List Candidate) : Prop :=
  (∀ ai ∈ addresses, ai.completes = false) ∧
      (self.client_fd_ = none ∨ ∃ ai ∈ addresses, ai.reaches = true) ∨
    self.descriptors.live = ∅ ∧ ∃ front ai, addresses = front ++ [ai] ∧
      ai.completes = true ∧ ∀ other ∈ front, other.accepts = false

variable {self : TCPServer} {addresses : List Candidate}

/-- Nothing completes: the call fails, unless it takes the earlier connection for its own. -/
theorem accept_once_failed (hnone : ∀ ai ∈ addresses, ai.completes = false) :
    AccountsFor self (self.accept_once (.ok addresses)) ↔
      self.client_fd_ = none ∨ ∃ ai ∈ addresses, ai.reaches = true := by
  have hfailed := acceptLoop_failed hnone (.error (.errc .invalid_argument)) self
  obtain ⟨e, herror⟩ := acceptLoop_error hnone (.errc .invalid_argument) self
  obtain ⟨new, hnew, hlen⟩ :=
    acceptLoop_accepted addresses (.error (.errc .invalid_argument)) self
  rw [accept_once]
  generalize acceptLoop addresses (.error (.errc .invalid_argument)) self = r at *
  obtain ⟨last, next⟩ := r
  dsimp only at hfailed herror hnew ⊢
  subst herror
  cases hclient : next.client_fd_ with
  | none =>
      have hleft : self.client_fd_ = none ∨ ∃ ai ∈ addresses, ai.reaches = true := by
        rw [hfailed.client] at hclient
        split at hclient
        · rename_i hreaches
          exact .inr hreaches
        · exact .inl hclient
      refine ⟨fun _ => hleft, fun _ d hd => ?_⟩
      rw [hfailed.restored.live_eq] at hd
      exact self.descriptors.fresh d hd
  | some fd =>
      have hkept := hfailed.client
      rw [hclient] at hkept
      split at hkept
      · contradiction
      rename_i hreaches
      constructor
      · rintro ⟨fd', haccepted, -, -⟩
        exfalso
        -- Nothing was accepted, since no address got as far as that.
        have hcount : addresses.countP Candidate.accepts = 0 := by
          apply List.countP_eq_zero.mpr
          intro ai hai haccepts
          rw [Candidate.accepts, Bool.and_eq_true] at haccepts
          exact hreaches ⟨ai, hai, haccepts.1⟩
        have hone : new = [fd'] := List.append_cancel_left (hnew.symm.trans haccepted)
        rw [hone, hcount] at hlen
        contradiction
      · rintro (hnoclient | hreached)
        · rw [hnoclient] at hkept
          contradiction
        · exact absurd hreached hreaches

/-- An address completes and others follow: its listening socket stays open for good. -/
theorem accept_once_overwritten {front rest : List Candidate} {ai : Candidate}
    (hcompletes : ai.completes = true) (hrest : ∀ other ∈ rest, other.completes = false)
    (hne : rest ≠ []) : ¬AccountsFor self (self.accept_once (.ok (front ++ ai :: rest))) := by
  have hextended := acceptLoop_extended front (.error (.errc .invalid_argument)) self
  rw [accept_once]
  dsimp only
  rw [acceptLoop_append, acceptLoop_cons]
  generalize (acceptLoop front (.error (.errc .invalid_argument)) self).2 = mid at *
  rw [tryAddress_completes mid hcompletes]
  dsimp only
  have hfailed := acceptLoop_failed hrest (.ok ())
    { listen_fd_ := some mid.descriptors.next
      client_fd_ := some (mid.descriptors.next + 1)
      descriptors := mid.descriptors.opening.opening
      accepted := mid.accepted ++ [mid.descriptors.next + 1] }
  generalize acceptLoop rest (.ok ()) _ = r at *
  obtain ⟨last, next⟩ := r
  dsimp only at hfailed ⊢
  have hlistening : mid.descriptors.next ∈ next.descriptors.live := by
    rw [hfailed.restored.live_eq]
    simp
  have hconnection : mid.descriptors.next + 1 ∈ next.descriptors.live := by
    rw [hfailed.restored.live_eq]
    simp
  cases hmember : next.client_fd_ with
  | none =>
      intro haccounts
      cases last with
      | error e => exact absurd (haccounts _ hlistening) (Nat.not_lt.mpr hextended.next_le)
      | ok _ =>
          obtain ⟨fd, -, hclient, -⟩ := haccounts
          rw [hmember] at hclient
          contradiction
  | some fd =>
      rintro ⟨fd', -, -, hlive⟩
      have hclosing : next.closeListening.descriptors = next.descriptors := by
        rw [closeListening, hfailed.listening hne]
        rfl
      dsimp only at hlive
      rw [hclosing] at hlive
      rw [hlive, Finset.mem_singleton] at hlistening hconnection
      omega

/-- The last address completes: then it has to be the only one that accepts, on a server
that has nothing open. -/
theorem accept_once_last {front : List Candidate} {ai : Candidate}
    (hcompletes : ai.completes = true) :
    AccountsFor self (self.accept_once (.ok (front ++ [ai]))) ↔
      self.descriptors.live = ∅ ∧ ∀ other ∈ front, other.accepts = false := by
  have hextended := acceptLoop_extended front (.error (.errc .invalid_argument)) self
  obtain ⟨new, hnew, hlen⟩ := acceptLoop_accepted front (.error (.errc .invalid_argument)) self
  have hfailed : (∀ other ∈ front, other.completes = false) →
      Failed front self (acceptLoop front (.error (.errc .invalid_argument)) self).2 :=
    fun h => acceptLoop_failed h _ self
  rw [accept_once]
  dsimp only
  rw [acceptLoop_append, acceptLoop_cons]
  generalize (acceptLoop front (.error (.errc .invalid_argument)) self).2 = mid at *
  rw [tryAddress_completes mid hcompletes]
  have hlive := mid.descriptors.closing_opening_opening_live
  constructor
  · rintro ⟨fd, haccepted, hclient, hopen⟩
    cases hclient
    change (mid.descriptors.opening.opening.closing mid.descriptors.next).live = _ at hopen
    rw [hlive] at hopen
    have hnil : new = [] := by
      change mid.accepted ++ [_] = _ at haccepted
      rw [hnew, List.append_assoc] at haccepted
      have hone := List.append_cancel_left haccepted
      simpa using hone
    constructor
    · apply Finset.eq_empty_of_forall_notMem
      intro d hd
      have hmember : d ∈ ({mid.descriptors.next + 1} : Finset Nat) := by
        rw [← hopen]
        exact Finset.mem_insert_of_mem (hextended.subset hd)
      rw [Finset.mem_singleton] at hmember
      have hlt := mid.descriptors.fresh d (hextended.subset hd)
      omega
    · rw [hnil, List.length_nil, eq_comm, List.countP_eq_zero] at hlen
      intro other hother
      exact eq_false_of_ne_true (hlen other hother)
  · rintro ⟨hempty, hrefused⟩
    have hnone : ∀ other ∈ front, other.completes = false := by
      intro other hother
      rw [Candidate.completes, hrefused other hother]
      rfl
    have hnil : new = [] := by
      apply List.eq_nil_of_length_eq_zero
      rw [hlen, List.countP_eq_zero]
      intro other hother
      exact ne_true_of_eq_false (hrefused other hother)
    refine ⟨mid.descriptors.next + 1, ?_, rfl, ?_⟩
    · change mid.accepted ++ [_] = _
      rw [hnew, hnil, List.append_nil]
    · change (mid.descriptors.opening.opening.closing mid.descriptors.next).live = _
      rw [hlive, (hfailed hnone).restored.live_eq, hempty]
      rfl

/-- A call accounts for its descriptors, exactly if no address completes where an earlier
connection could be taken for a new one, or the last address alone accepts a connection on
a server that has nothing open. -/
theorem accept_once_accounts_iff (self : TCPServer)
    (answer : Except ErrorCode (List Candidate)) :
    AccountsFor self (self.accept_once answer) ↔
      ∀ addresses, answer = .ok addresses → Orderly self addresses := by
  cases answer with
  | error e =>
      constructor
      · intro _ addresses h
        cases h
      · intro _
        exact self.descriptors.fresh
  | ok addresses =>
  have hiff : (∀ given, (.ok addresses : Except ErrorCode (List Candidate)) = .ok given →
      Orderly self given) ↔ Orderly self addresses :=
    ⟨fun h => h addresses rfl, fun h given hgiven => Except.ok.inj hgiven ▸ h⟩
  rw [hiff]
  by_cases hnone : ∀ ai ∈ addresses, ai.completes = false
  · rw [accept_once_failed hnone]
    constructor
    · intro h
      exact .inl ⟨hnone, h⟩
    · rintro (⟨-, h⟩ | ⟨-, front, ai, rfl, hcompletes, -⟩)
      · exact h
      · rw [hnone ai (by simp)] at hcompletes
        contradiction
  obtain ⟨front, ai, rest, rfl, hcompletes, hrest⟩ := exists_last_completing hnone
  by_cases hne : rest = []
  · subst hne
    rw [accept_once_last hcompletes]
    constructor
    · rintro ⟨hempty, hrefused⟩
      exact .inr ⟨hempty, front, ai, rfl, hcompletes, hrefused⟩
    · rintro (⟨hall, -⟩ | ⟨hempty, front', ai', happend, -, hrefused⟩)
      · exact absurd hall hnone
      · obtain ⟨rfl, -⟩ := List.append_inj' happend rfl
        exact ⟨hempty, hrefused⟩
  · constructor
    · intro h
      exact absurd h (accept_once_overwritten hcompletes hrest hne)
    · rintro (⟨hall, -⟩ | ⟨-, front', ai', happend, hlast, -⟩)
      · exact absurd hall hnone
      · -- The last address is one of those that do not complete.
        exfalso
        obtain ⟨init, other, rfl⟩ := (List.eq_nil_or_concat rest).resolve_left hne
        rw [List.concat_eq_append, ← List.cons_append, ← List.append_assoc] at happend
        obtain ⟨-, hother⟩ := List.append_inj' happend rfl
        cases hother
        rw [hrest ai' (by simp)] at hlast
        contradiction

/-- The second address cannot be bound: the call succeeds, and the listening socket of the
first stays open. With the connection of an earlier call, no address is needed at all. -/
theorem accept_once_leaks :
    ∃ second : TCPServer,
      accept_once {} (.ok [{}, { bind := .error (.system 98) }]) = (.ok (), second) ∧
      second.client_fd_ = some 1 ∧ second.descriptors.live = {0, 1} ∧
      ¬AccountsFor {} (.ok (), second) ∧
      second.accept_once (.ok [{ socket := .error (.system 24) }]) = (.ok (), second) ∧
      ¬AccountsFor second (.ok (), second) := by
  refine ⟨⟨none, some 1, Descriptors.empty.opening.opening.opening.closing 2, [1]⟩, rfl, rfl,
    by decide, ?_, rfl, ?_⟩
  · rintro ⟨fd, -, -, hlive⟩
    have hzero : 0 ∈ ({fd} : Finset Nat) := by
      rw [← hlive]
      decide
    have hone : 1 ∈ ({fd} : Finset Nat) := by
      rw [← hlive]
      decide
    rw [Finset.mem_singleton] at hzero hone
    omega
  · rintro ⟨fd, haccepted, -, -⟩
    have hlen : 1 = 2 := congrArg List.length haccepted
    contradiction

end TCPServer

end SpwRmap
