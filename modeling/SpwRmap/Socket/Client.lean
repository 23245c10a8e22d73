import Mathlib.Data.Finset.Option
import SpwRmap.Lib.Descriptors
import SpwRmap.Node.Client

/-!
# The connecting socket of `tcp_client.cc`

`connect` tries the addresses one by one until one of them is connected. What the system
calls answer for an address is given with it, as an `Address`. A socket that fails is
closed at once, and the flag for non-blocking mode, which `connect_with_timeout_` sets for
as long as it waits, is taken back by the destructor of `Restore` on every way out.

The descriptor and the flags are those of the kernel, in `Files`. Calls of `close`, and the
call of `fcntl` in the destructor, have their effect.
-/

namespace SpwRmap.Socket

open Outcome Transition

def EINTR : Int := 4

def EAGAIN : Int := 11

def ETIMEDOUT : Int := 110

def EINPROGRESS : Int := 115

def O_NONBLOCK : Nat := 0x800

def FD_CLOEXEC : Nat := 1

inductive ConnectReturn where
  | connected
  | failed (errno : Int)
  deriving DecidableEq, Repr

/-- The result of `poll`, with `revents` if it is positive. -/
inductive PollReturn where
  | timeout
  | failed (errno : Int)
  | ready (revents : Nat)
  deriving DecidableEq, Repr

/-- What the system calls answer for one address. -/
structure Address where
  /-- The file-status flags of the new socket. -/
  socket : Except ErrorCode Nat := .ok 0x2
  nodelay : Except ErrorCode Unit := .ok ()
  /-- The calls of `fcntl` for the descriptor flags. -/
  getFlags : Except ErrorCode Unit := .ok ()
  setFlags : Except ErrorCode Unit := .ok ()
  /-- The calls of `fcntl` for the file-status flags. -/
  getStatus : Except ErrorCode Unit := .ok ()
  setStatus : Except ErrorCode Unit := .ok ()
  /-- How often `connect` is interrupted before it answers. -/
  connectInterruptions : Nat := 0
  connect : ConnectReturn := .connected
  pollInterruptions : Nat := 0
  /-- By the time to wait, in milliseconds. -/
  poll : Int → PollReturn := fun _ => .ready 0x4
  /-- `getsockopt`, with the pending error of the socket. -/
  getsockopt : Except ErrorCode Int := .ok 0
  /-- The two loops do not end with an interruption. -/
  connect_settled : connect ≠ .failed EINTR := by decide
  poll_settled : ∀ ms, poll ms ≠ .failed EINTR := by
    intro ms
    decide

/-- The open descriptors and their two kinds of flags. -/
structure Files where
  descriptors : Descriptors := .empty
  status : Nat → Nat := fun _ => 0
  flags : Nat → Nat := fun _ => 0

structure TCPClient where
  fd_ : Option Nat := none
  files : Files := {}

namespace Files

/-- `socket` returns `descriptors.next`. -/
def opening (files : Files) (status : Nat) : Files where
  descriptors := files.descriptors.opening
  status := Function.update files.status files.descriptors.next status
  flags := Function.update files.flags files.descriptors.next 0

def close_retry_ (files : Files) (fd : Option Nat) : Files :=
  { files with descriptors := files.descriptors.closingIn fd }

def setStatus (files : Files) (fd value : Nat) : Files :=
  { files with status := Function.update files.status fd value }

def setFlags (files : Files) (fd value : Nat) : Files :=
  { files with flags := Function.update files.flags fd value }

end Files

namespace Address

/-- A call that is repeated as long as a signal interrupts it. -/
def retry {α : Type} (answer : α) : Nat → α
  | 0 => answer
  | interruptions + 1 => retry answer interruptions

/-- `ms`, the time that `poll` waits. -/
def milliseconds (timeout : Int) : Int :=
  if timeout / 1000 > 2147483647 then 2147483647 else timeout / 1000

/-- The part of `connect_with_timeout_` in the scope of `restore`. -/
def establish (ai : Address) (ms : Int) : Except ErrorCode Unit :=
  match retry ai.connect ai.connectInterruptions with
  | .connected => .ok ()
  | .failed errno =>
      if errno ≠ EINPROGRESS then
        .error (.system errno)
      else
        match retry (ai.poll ms) ai.pollInterruptions with
        | .timeout => .error (.system ETIMEDOUT)
        | .failed errno => .error (.system errno)
        | .ready _ =>
            match ai.getsockopt with
            | .error e => .error e
            | .ok soerr => if soerr ≠ 0 then .error (.system soerr) else .ok ()

end Address

namespace Files

def set_sockopts (files : Files) (fd : Nat) (ai : Address) : Except ErrorCode Unit × Files :=
  match ai.nodelay with
  | .error e => (.error e, files)
  | .ok _ =>
      match ai.getFlags with
      | .error e => (.error e, files)
      | .ok _ =>
          let fdflags := files.flags fd
          match ai.setFlags with
          | .error e => (.error e, files)
          | .ok _ => (.ok (), files.setFlags fd (fdflags ||| FD_CLOEXEC))

def connect_with_timeout_ (files : Files) (fd : Nat) (ai : Address) (timeout : Int) :
    Except ErrorCode Unit × Files :=
  if timeout < 0 then
    (.error (.errc .invalid_argument), files)
  else
    let ms := Address.milliseconds timeout
    match ai.getStatus with
    | .error e => (.error e, files)
    | .ok _ =>
        let oldfl := files.status fd
        if oldfl &&& O_NONBLOCK = 0 then
          match ai.setStatus with
          | .error e => (.error e, files)
          | .ok _ =>
              let files := files.setStatus fd (oldfl ||| O_NONBLOCK)
              -- The destructor runs after the result is there.
              (ai.establish ms, files.setStatus fd oldfl)
        else
          (ai.establish ms, files)

/-- `set_sockopts(fd_).and_then(...)`. -/
def prepare (files : Files) (fd : Nat) (ai : Address) (timeout : Int) :
    Except ErrorCode Unit × Files :=
  match files.set_sockopts fd ai with
  | (.error e, files) => (.error e, files)
  | (.ok _, files) => files.connect_with_timeout_ fd ai timeout

end Files

namespace TCPClient

/-- One round of the loop over the addresses: `last`, and the client. -/
def tryAddress (self : TCPClient) (timeout : Int) (ai : Address) :
    Except ErrorCode Unit × TCPClient :=
  match ai.socket with
  | .error e => (.error e, { fd_ := none, files := self.files.close_retry_ none })
  | .ok status =>
      let fd := self.files.descriptors.next
      match (self.files.opening status).prepare fd ai timeout with
      | (.error e, files) => (.error e, { fd_ := none, files := files.close_retry_ (some fd) })
      | (.ok _, files) => (.ok (), { fd_ := some fd, files })

def connectLoop (timeout : Int) : List Address → Except ErrorCode Unit → TCPClient →
    Except ErrorCode Unit × TCPClient
  | [], last, self => (last, self)
  | ai :: rest, _, self =>
      match self.tryAddress timeout ai with
      | (.error e, self) => connectLoop timeout rest (.error e) self
      | (.ok _, self) => (.ok (), self)

/-- `addresses` is the answer of `getaddrinfo`. -/
def connect (self : TCPClient) (timeout : Int) (addresses : Except ErrorCode (List Address)) :
    Except ErrorCode Unit × TCPClient :=
  match self.fd_ with
  | some _ => (.error (.errc .already_connected), self)
  | none =>
      match addresses with
      | .error e => (.error e, self)
      | .ok addresses => connectLoop timeout addresses (.error (.errc .invalid_argument)) self

def disconnect (self : TCPClient) : TCPClient where
  fd_ := none
  files := self.files.close_retry_ self.fd_

end TCPClient

namespace Address

/-- `socket` has returned a descriptor. -/
def opens (ai : Address) : Bool := ai.socket.isOk

/-- The socket is connected at once, or in time and without an error. -/
def Established (ai : Address) (ms : Int) : Prop :=
  ai.connect = .connected ∨ ai.connect = .failed EINPROGRESS ∧
    (∃ revents, ai.poll ms = .ready revents) ∧ ai.getsockopt = .ok 0

/-- Every step between `socket` and the connection succeeds, for a socket with these
file-status flags. A socket that does not block keeps its flags. -/
structure Prepared (ai : Address) (timeout : Int) (status : Nat) : Prop where
  nodelay : ai.nodelay = .ok ()
  getFlags : ai.getFlags = .ok ()
  setFlags : ai.setFlags = .ok ()
  nonneg : 0 ≤ timeout
  getStatus : ai.getStatus = .ok ()
  setStatus : status &&& O_NONBLOCK = 0 → ai.setStatus = .ok ()
  established : ai.Established (milliseconds timeout)

/-- Every step succeeds. -/
def Completes (ai : Address) (timeout : Int) : Prop :=
  ∃ status, ai.socket = .ok status ∧ ai.Prepared timeout status

/-- The result of `connect_with_timeout_` for a socket with these file-status flags. -/
def connectWithin (ai : Address) (timeout : Int) (status : Nat) : Except ErrorCode Unit := do
  if timeout < 0 then throw (.errc .invalid_argument)
  ai.getStatus
  if status &&& O_NONBLOCK = 0 then ai.setStatus
  ai.establish (milliseconds timeout)

def prepare (ai : Address) (timeout : Int) (status : Nat) : Except ErrorCode Unit := do
  ai.nodelay
  ai.getFlags
  ai.setFlags
  ai.connectWithin timeout status

/-- The result for the address. -/
def outcome (ai : Address) (timeout : Int) : Except ErrorCode Unit := do
  let status ← ai.socket
  ai.prepare timeout status

@[simp] theorem retry_eq {α : Type} (answer : α) (interruptions : Nat) :
    retry answer interruptions = answer := by
  induction interruptions with
  | zero => rfl
  | succ n ih => exact ih

theorem establish_eq_ok_iff (ai : Address) (ms : Int) :
    ai.establish ms = .ok () ↔ ai.Established ms := by
  rw [establish, Established, retry_eq, retry_eq]
  cases hconnect : ai.connect with
  | connected => simp
  | failed errno =>
      by_cases hprogress : errno = EINPROGRESS
      · subst hprogress
        cases hpoll : ai.poll ms with
        | timeout => simp
        | failed errno => simp
        | ready revents =>
            cases hsockopt : ai.getsockopt with
            | error e => simp
            | ok soerr => by_cases hzero : soerr = 0 <;> simp [hzero]
      · simp [hprogress]

theorem connectWithin_eq_ok_iff (ai : Address) (timeout : Int) (status : Nat) :
    ai.connectWithin timeout status = .ok () ↔ 0 ≤ timeout ∧ ai.getStatus = .ok () ∧
      (status &&& O_NONBLOCK = 0 → ai.setStatus = .ok ()) ∧
      ai.Established (milliseconds timeout) := by
  rw [connectWithin, ← establish_eq_ok_iff]
  by_cases hnegative : timeout < 0
  · have hthrow : ¬0 ≤ timeout := Int.not_le.mpr hnegative
    simp [hnegative, hthrow, bind_unit_eq_ok_iff, throw, throwThe, MonadExceptOf.throw]
  · have hnonneg : 0 ≤ timeout := Int.not_lt.mp hnegative
    by_cases hblocking : status &&& O_NONBLOCK = 0
    · simp [hnegative, hnonneg, hblocking, bind_unit_eq_ok_iff]
    · simp [hnegative, hnonneg, hblocking, bind_unit_eq_ok_iff]

theorem prepare_eq_ok_iff (ai : Address) (timeout : Int) (status : Nat) :
    ai.prepare timeout status = .ok () ↔ ai.Prepared timeout status := by
  simp only [prepare, bind_unit_eq_ok_iff, connectWithin_eq_ok_iff]
  constructor
  · rintro ⟨hnodelay, hgetFlags, hsetFlags, hnonneg, hgetStatus, hsetStatus, hestablished⟩
    exact ⟨hnodelay, hgetFlags, hsetFlags, hnonneg, hgetStatus, hsetStatus, hestablished⟩
  · rintro ⟨hnodelay, hgetFlags, hsetFlags, hnonneg, hgetStatus, hsetStatus, hestablished⟩
    exact ⟨hnodelay, hgetFlags, hsetFlags, hnonneg, hgetStatus, hsetStatus, hestablished⟩

theorem outcome_eq_ok_iff (ai : Address) (timeout : Int) :
    ai.outcome timeout = .ok () ↔ ai.Completes timeout := by
  simp only [outcome, Completes, bind_eq_ok_iff, prepare_eq_ok_iff]

end Address

namespace Files

/-- The socket `fd` has been configured: its descriptor flags may have changed. -/
structure Configured (fd : Nat) (before after : Files) : Prop where
  descriptors_eq : after.descriptors = before.descriptors
  status_eq : after.status = before.status
  flags_eq : ∀ d, d ≠ fd → after.flags d = before.flags d

theorem Configured.refl (fd : Nat) (files : Files) : Configured fd files files :=
  ⟨rfl, rfl, fun _ _ => rfl⟩

variable (files : Files) (fd : Nat) (ai : Address) (timeout : Int)

theorem configured_setFlags (value : Nat) : Configured fd files (files.setFlags fd value) :=
  ⟨rfl, rfl, fun _ hd => Function.update_of_ne hd _ _⟩

/-- What the destructor leaves. -/
theorem setStatus_restored (value : Nat) :
    (files.setStatus fd value).setStatus fd (files.status fd) = files := by
  simp [setStatus]

theorem set_sockopts_configured : Configured fd files (files.set_sockopts fd ai).2 := by
  rw [set_sockopts]
  split
  · exact .refl fd files
  split
  · exact .refl fd files
  split
  · exact .refl fd files
  · exact files.configured_setFlags fd _

/-- Whatever happens, the file-status flags are those from before. -/
theorem connect_with_timeout_snd : (files.connect_with_timeout_ fd ai timeout).2 = files := by
  rw [connect_with_timeout_]
  split
  · rfl
  dsimp only
  split
  · rfl
  split
  · split
    · rfl
    · exact files.setStatus_restored fd _
  · rfl

theorem prepare_configured : Configured fd files (files.prepare fd ai timeout).2 := by
  have hoptions := files.set_sockopts_configured fd ai
  rw [prepare]
  split
  · rename_i e next heq
    rw [heq] at hoptions
    exact hoptions
  · rename_i next heq
    rw [heq] at hoptions
    rw [connect_with_timeout_snd]
    exact hoptions

/-- The result depends on the flags of this socket only. -/
theorem connect_with_timeout_fst : (files.connect_with_timeout_ fd ai timeout).1 =
    ai.connectWithin timeout (files.status fd) := by
  rw [connect_with_timeout_, Address.connectWithin]
  by_cases hnegative : timeout < 0
  · rw [if_pos hnegative, if_pos hnegative]
    rfl
  rw [if_neg hnegative, if_neg hnegative]
  cases ai.getStatus with
  | error e => rfl
  | ok _ =>
  by_cases hblocking : files.status fd &&& O_NONBLOCK = 0
  · simp only [hblocking, if_true]
    cases ai.setStatus with
    | error e => rfl
    | ok _ => rfl
  · simp only [hblocking, if_false]
    rfl

theorem prepare_fst : (files.prepare fd ai timeout).1 = ai.prepare timeout (files.status fd) := by
  have hconnect := (files.setFlags fd (files.flags fd ||| FD_CLOEXEC)).connect_with_timeout_fst
    fd ai timeout
  rw [prepare, set_sockopts, Address.prepare]
  cases ai.nodelay with
  | error e => rfl
  | ok _ =>
  cases ai.getFlags with
  | error e => rfl
  | ok _ =>
  cases ai.setFlags with
  | error e => rfl
  | ok _ => exact hconnect

theorem prepare_flags (h : (files.prepare fd ai timeout).1 = .ok ()) :
    (files.prepare fd ai timeout).2.flags fd = files.flags fd ||| FD_CLOEXEC := by
  rw [prepare_fst] at h
  have hprepared := (ai.prepare_eq_ok_iff timeout _).mp h
  rw [prepare, set_sockopts, hprepared.nodelay, hprepared.getFlags, hprepared.setFlags]
  dsimp only
  rw [connect_with_timeout_snd]
  exact Function.update_self _ _ _

end Files

namespace TCPClient

open Descriptors

/-- The flags of what was open before are as they were. -/
structure Kept (before after : Files) : Prop where
  status_eq : ∀ d < before.descriptors.next, after.status d = before.status d
  flags_eq : ∀ d < before.descriptors.next, after.flags d = before.flags d

/-- What a round can leave. -/
inductive Tried (self : TCPClient) (timeout : Int) (ai : Address) :
    Except ErrorCode Unit × TCPClient → Prop
  | failed (e : ErrorCode) (files : Files) :
      ai.outcome timeout = .error e → Restored self.files.descriptors files.descriptors →
      files.descriptors.next = self.files.descriptors.next + (if ai.opens then 1 else 0) →
      Kept self.files files → Tried self timeout ai (.error e, { fd_ := none, files })
  | connected (files : Files) :
      ai.outcome timeout = .ok () → files.descriptors = self.files.descriptors.opening →
      ai.socket = .ok (files.status self.files.descriptors.next) →
      files.flags self.files.descriptors.next = FD_CLOEXEC → Kept self.files files →
      Tried self timeout ai (.ok (), { fd_ := some self.files.descriptors.next, files })

theorem Kept.refl (files : Files) : Kept files files := ⟨fun _ _ => rfl, fun _ _ => rfl⟩

theorem Kept.trans {a b c : Files} (hnext : a.descriptors.next ≤ b.descriptors.next)
    (h : Kept a b) (h' : Kept b c) : Kept a c :=
  ⟨fun d hd => (h'.status_eq d (hd.trans_le hnext)).trans (h.status_eq d hd),
    fun d hd => (h'.flags_eq d (hd.trans_le hnext)).trans (h.flags_eq d hd)⟩

/-- The new socket has the next number, so that no older one is touched. -/
theorem kept_of_configured {before files : Files} {status : Nat}
    (h : Files.Configured before.descriptors.next (before.opening status) files) :
    Kept before files := by
  constructor
  · intro d hd
    rw [h.status_eq]
    exact Function.update_of_ne hd.ne _ _
  · intro d hd
    rw [h.flags_eq d hd.ne]
    exact Function.update_of_ne hd.ne _ _

theorem tryAddress_tried (self : TCPClient) (timeout : Int) (ai : Address) :
    Tried self timeout ai (self.tryAddress timeout ai) := by
  rw [tryAddress]
  cases hsocket : ai.socket with
  | error e =>
      have houtcome : ai.outcome timeout = .error e := by rw [Address.outcome, hsocket]; rfl
      have hopens : ai.opens = false := by rw [Address.opens, hsocket]; rfl
      exact .failed e _ houtcome (.refl _) (by simp [hopens, Files.close_retry_, closingIn])
        (.refl _)
  | ok status =>
  have hopens : ai.opens = true := by rw [Address.opens, hsocket]; rfl
  have houtcome : ai.outcome timeout = ai.prepare timeout status := by
    rw [Address.outcome, hsocket]
    rfl
  have hconfigured := (self.files.opening status).prepare_configured
    self.files.descriptors.next ai timeout
  have hresult := (self.files.opening status).prepare_fst self.files.descriptors.next ai timeout
  have hflags := (self.files.opening status).prepare_flags self.files.descriptors.next ai timeout
  have hnew : (self.files.opening status).status self.files.descriptors.next = status :=
    Function.update_self _ _ _
  have hzero : (self.files.opening status).flags self.files.descriptors.next = 0 :=
    Function.update_self _ _ _
  rw [hnew, ← houtcome] at hresult
  dsimp only
  generalize (self.files.opening status).prepare self.files.descriptors.next ai timeout = r at *
  obtain ⟨res, files⟩ := r
  dsimp only at hresult hconfigured hflags ⊢
  have hkept := kept_of_configured hconfigured
  cases res with
  | error e =>
      apply Tried.failed e _ hresult.symm
      · change Restored _ (files.descriptors.closing _)
        rw [hconfigured.descriptors_eq]
        exact .opening_closing _
      · change files.descriptors.next = _
        rw [hconfigured.descriptors_eq, hopens]
        rfl
      · exact ⟨hkept.status_eq, hkept.flags_eq⟩
  | ok _ =>
      refine Tried.connected files hresult.symm hconfigured.descriptors_eq ?_ ?_ hkept
      · rw [hconfigured.status_eq, hnew, hsocket]
      · rw [hflags rfl, hzero, Nat.zero_or]

/-- Addresses that do not complete leave nothing open. -/
structure Failed (addresses : List Address) (before after : TCPClient) : Prop where
  restored : Restored before.files.descriptors after.files.descriptors
  next_eq : after.files.descriptors.next =
    before.files.descriptors.next + addresses.countP Address.opens
  fd_eq : after.fd_ = none
  kept : Kept before.files after.files

variable {self : TCPClient} {timeout : Int}

/-- A round that fails goes on with the next address. -/
theorem connectLoop_cons_error {ai : Address} {rest : List Address} {last : Except ErrorCode Unit}
    {e : ErrorCode} {next : TCPClient} (h : self.tryAddress timeout ai = (.error e, next)) :
    connectLoop timeout (ai :: rest) last self = connectLoop timeout rest (.error e) next := by
  rw [connectLoop, h]

theorem connectLoop_cons_ok {ai : Address} {rest : List Address} {last : Except ErrorCode Unit}
    {next : TCPClient} (h : self.tryAddress timeout ai = (.ok (), next)) :
    connectLoop timeout (ai :: rest) last self = (.ok (), next) := by
  rw [connectLoop, h]

/-- By induction on the addresses in front: each of them gives back its socket. -/
theorem connectLoop_failed {front : List Address}
    (hnone : ∀ ai ∈ front, ¬ai.Completes timeout) (rest : List Address) (e : ErrorCode)
    (self : TCPClient) (h : self.fd_ = none) :
    ∃ e' next, Failed front self next ∧
      connectLoop timeout (front ++ rest) (.error e) self =
        connectLoop timeout rest (.error e') next := by
  induction front generalizing self e with
  | nil => exact ⟨e, self, ⟨.refl _, rfl, h, .refl _⟩, rfl⟩
  | cons ai front ih =>
      obtain ⟨hai, hfront⟩ := List.forall_mem_cons.mp hnone
      have htried := self.tryAddress_tried timeout ai
      generalize htry : self.tryAddress timeout ai = r at htried
      cases htried with
      | connected files houtcome _ _ _ _ =>
          exact absurd ((ai.outcome_eq_ok_iff timeout).mp houtcome) hai
      | failed e₁ files _ hrestored hnext hkept =>
          obtain ⟨e', next, hfailed, hloop⟩ := ih hfront e₁ { fd_ := none, files } rfl
          refine ⟨e', next, ⟨hrestored.trans hfailed.restored, ?_, hfailed.fd_eq,
            hkept.trans hrestored.next_le hfailed.kept⟩, ?_⟩
          · rw [hfailed.next_eq, hnext, List.countP_cons, Nat.add_assoc, Nat.add_comm (ite _ _ _)]
          · rw [List.cons_append, connectLoop_cons_error htry]
            exact hloop

/-- The call has left one socket open, that of `ai`, with the file-status flags it came
with. The sockets of the addresses in front have the numbers before it. -/
structure Connected (front : List Address) (ai : Address) (before after : TCPClient) (fd : Nat) :
    Prop where
  fd_eq : after.fd_ = some fd
  number : fd = before.files.descriptors.next + front.countP Address.opens
  live_eq : after.files.descriptors.live = insert fd before.files.descriptors.live
  status_eq : ai.socket = .ok (after.files.status fd)
  flags_eq : after.files.flags fd = FD_CLOEXEC
  kept : Kept before.files after.files

theorem connectLoop_connected {front : List Address} {ai : Address}
    (hfront : ∀ other ∈ front, ¬other.Completes timeout) (hai : ai.Completes timeout)
    (rest : List Address) (e : ErrorCode) (self : TCPClient) (h : self.fd_ = none) :
    ∃ next fd, Connected front ai self next fd ∧
      connectLoop timeout (front ++ ai :: rest) (.error e) self = (.ok (), next) := by
  obtain ⟨e', mid, hfailed, hloop⟩ := connectLoop_failed hfront (ai :: rest) e self h
  have htried := mid.tryAddress_tried timeout ai
  generalize htry : mid.tryAddress timeout ai = r at htried
  cases htried with
  | failed e files houtcome _ _ _ =>
      rw [(ai.outcome_eq_ok_iff timeout).mpr hai] at houtcome
      contradiction
  | connected files _ hdescriptors hstatus hflags hkept =>
      refine ⟨{ fd_ := some mid.files.descriptors.next, files }, mid.files.descriptors.next,
        ⟨rfl, hfailed.next_eq, ?_, hstatus, hflags,
          hfailed.kept.trans hfailed.restored.next_le hkept⟩, ?_⟩
      · rw [hdescriptors, opening_live, hfailed.restored.live_eq]
      · rw [hloop, connectLoop_cons_ok htry]

/-- The first address that completes, if there is one. -/
theorem exists_first_completing {addresses : List Address}
    (h : ∃ ai ∈ addresses, ai.Completes timeout) :
    ∃ front ai rest, addresses = front ++ ai :: rest ∧ ai.Completes timeout ∧
      ∀ other ∈ front, ¬other.Completes timeout := by
  induction addresses with
  | nil => simp at h
  | cons ai rest ih =>
      by_cases hai : ai.Completes timeout
      · exact ⟨[], ai, rest, rfl, hai, by simp⟩
      · obtain ⟨front, first, after, rfl, hfirst, hfront⟩ := ih (by simpa [hai] using h)
        exact ⟨ai :: front, first, after, rfl, hfirst, by simpa [hai] using hfront⟩

/-- No address completes: the result is an error, and nothing is left open. -/
theorem connect_failed {answer : Except ErrorCode (List Address)} (h : self.fd_ = none)
    (hnone : ¬∃ addresses, answer = .ok addresses ∧ ∃ ai ∈ addresses, ai.Completes timeout) :
    ∃ e next, self.connect timeout answer = (.error e, next) ∧ next.fd_ = none ∧
      Restored self.files.descriptors next.files.descriptors ∧ Kept self.files next.files := by
  simp only [connect, h]
  cases answer with
  | error e => exact ⟨e, self, rfl, h, .refl _, .refl _⟩
  | ok addresses =>
      have hall : ∀ ai ∈ addresses, ¬ai.Completes timeout := by
        intro ai hai hcompletes
        exact hnone ⟨addresses, rfl, ai, hai, hcompletes⟩
      obtain ⟨e, next, hfailed, hloop⟩ :=
        connectLoop_failed hall [] (.errc .invalid_argument) self h
      rw [List.append_nil] at hloop
      exact ⟨e, next, hloop, hfailed.fd_eq, hfailed.restored, hfailed.kept⟩

/-- A client without a descriptor is connected exactly if some address completes. Then it
has the socket of the first such address, with its flags, and the ones in front are closed;
otherwise it has none and everything is closed. -/
theorem connect_accounts (self : TCPClient) (timeout : Int)
    (answer : Except ErrorCode (List Address)) (h : self.fd_ = none) :
    ((self.connect timeout answer).1 = .ok () ↔
      ∃ addresses, answer = .ok addresses ∧ ∃ ai ∈ addresses, ai.Completes timeout) ∧
    (∀ front ai rest, answer = .ok (front ++ ai :: rest) → ai.Completes timeout →
      (∀ other ∈ front, ¬other.Completes timeout) →
      ∃ fd, Connected front ai self (self.connect timeout answer).2 fd) ∧
    ((self.connect timeout answer).1 ≠ .ok () →
      (self.connect timeout answer).2.fd_ = none ∧
      (self.connect timeout answer).2.files.descriptors.live = self.files.descriptors.live) := by
  have hfirst : ∀ front ai rest, answer = .ok (front ++ ai :: rest) → ai.Completes timeout →
      (∀ other ∈ front, ¬other.Completes timeout) →
      ∃ next fd, Connected front ai self next fd ∧
        self.connect timeout answer = (.ok (), next) := by
    rintro front ai rest rfl hai hfront
    rw [connect, h]
    exact connectLoop_connected hfront hai rest _ self h
  by_cases hsome : ∃ addresses, answer = .ok addresses ∧ ∃ ai ∈ addresses, ai.Completes timeout
  · have hok : (self.connect timeout answer).1 = .ok () := by
      obtain ⟨addresses, hanswer, hcompletes⟩ := hsome
      obtain ⟨front, ai, rest, rfl, hai, hfront⟩ := exists_first_completing hcompletes
      obtain ⟨next, fd, -, hconnect⟩ := hfirst front ai rest hanswer hai hfront
      rw [hconnect]
    refine ⟨iff_of_true hok hsome, ?_, fun hne => absurd hok hne⟩
    intro front ai rest hanswer hai hfront
    obtain ⟨next, fd, hconnected, hconnect⟩ := hfirst front ai rest hanswer hai hfront
    rw [hconnect]
    exact ⟨fd, hconnected⟩
  · obtain ⟨e, next, hconnect, hfd, hrestored, -⟩ := connect_failed h hsome
    rw [hconnect]
    refine ⟨iff_of_false (by simp) hsome, ?_, fun _ => ⟨hfd, hrestored.live_eq⟩⟩
    intro front ai rest hanswer hai hfront
    exact absurd ⟨_, hanswer, ai, by simp, hai⟩ hsome

/-- No descriptor is left for the first address, the second refuses the connection, and the
third takes its time. Without the third, nothing is left open. -/
theorem connect_accounts_three :
    (∃ fd, Connected [{ socket := .error (.system 24) }, { connect := .failed 111 }]
      { connect := .failed EINPROGRESS } {} (connect {} 500000
        (.ok [{ socket := .error (.system 24) }, { connect := .failed 111 },
          { connect := .failed EINPROGRESS }])).2 fd) ∧
    (connect {} 500000 (.ok [{ connect := .failed 111 }])).2.fd_ = none := by
  have hnodescriptor : ¬Address.Completes { socket := .error (.system 24) } 500000 := by
    rintro ⟨status, hsocket, -⟩
    cases hsocket
  have hrefused : ¬Address.Completes { connect := .failed 111 } 500000 := by
    rintro ⟨status, -, hprepared⟩
    obtain hconnect | ⟨hconnect, -⟩ := hprepared.established
    · cases hconnect
    · cases hconnect
  have hslow : Address.Completes { connect := .failed EINPROGRESS } 500000 :=
    ⟨2, rfl, rfl, rfl, rfl, by decide, rfl, fun _ => rfl, .inr ⟨rfl, ⟨4, rfl⟩, rfl⟩⟩
  refine ⟨?_, ?_⟩
  · refine (connect_accounts {} 500000 _ rfl).2.1 _ _ [] rfl hslow ?_
    intro other hother
    rw [List.mem_cons, List.mem_singleton] at hother
    obtain rfl | rfl := hother
    · exact hnodescriptor
    · exact hrefused
  · apply ((connect_accounts {} 500000 _ rfl).2.2 _).1
    rw [ne_eq, (connect_accounts {} 500000 _ rfl).1]
    rintro ⟨addresses, ⟨⟩, ai, hai, hcompletes⟩
    rw [List.mem_singleton] at hai
    subst hai
    exact hrefused hcompletes

/-- The client of `Node` knows of an address only whether it gets connected. -/
theorem connectLoop_refines (timeout : Int) (addresses : List Address)
    (last : Except ErrorCode Unit) (self : TCPClient) (h : self.fd_ = none) :
    SpwRmap.TCPClient.connectLoop (addresses.map (·.outcome timeout)) last =
      ((connectLoop timeout addresses last self).1,
        (connectLoop timeout addresses last self).2.fd_.isSome) := by
  induction addresses generalizing last self with
  | nil =>
      rw [connectLoop, h]
      rfl
  | cons ai rest ih =>
      have htried := self.tryAddress_tried timeout ai
      generalize htry : self.tryAddress timeout ai = r at htried
      rw [List.map_cons]
      cases htried with
      | failed e files houtcome _ _ _ =>
          rw [houtcome, connectLoop_cons_error htry]
          exact ih _ _ rfl
      | connected files houtcome _ _ _ _ =>
          rw [houtcome, connectLoop_cons_ok htry]
          rfl

theorem connect_refines (self : TCPClient) (timeout : Int)
    (answer : Except ErrorCode (List Address)) (sockets : Sockets) :
    SpwRmap.TCPClient.connect self.fd_.isSome
        { sockets with addresses := answer.map (·.map (·.outcome timeout)) } =
      ((self.connect timeout answer).1, (self.connect timeout answer).2.fd_.isSome) := by
  rw [SpwRmap.TCPClient.connect]
  cases hfd : self.fd_ with
  | some fd => simp [connect, hfd]
  | none =>
      cases answer with
      | error e => simp [connect, hfd, Except.map]
      | ok addresses =>
          simp only [connect, hfd]
          exact connectLoop_refines timeout addresses _ self hfd

inductive Call where
  | connect (timeout : Int) (answer : Except ErrorCode (List Address))
  | disconnect

def call (self : TCPClient) : Call → Option TCPClient
  | .connect timeout answer => some (self.connect timeout answer).2
  | .disconnect => some self.disconnect

/-- What is open is what `fd_` holds. -/
def Owned (self : TCPClient) : Prop := self.files.descriptors.live = self.fd_.toFinset

theorem connect_owned (h : self.Owned) (timeout : Int) (answer : Except ErrorCode (List Address)) :
    (self.connect timeout answer).2.Owned := by
  cases hfd : self.fd_ with
  | some fd =>
      simp only [connect, hfd]
      exact h
  | none =>
  rw [Owned, hfd, Option.toFinset_none] at h
  by_cases hsome : ∃ addresses, answer = .ok addresses ∧ ∃ ai ∈ addresses, ai.Completes timeout
  · obtain ⟨addresses, rfl, hcompletes⟩ := hsome
    obtain ⟨front, ai, rest, rfl, hai, hfront⟩ := exists_first_completing hcompletes
    obtain ⟨next, fd, hconnected, hloop⟩ :=
      connectLoop_connected hfront hai rest (.errc .invalid_argument) self hfd
    simp only [connect, hfd]
    rw [hloop, Owned, hconnected.live_eq, hconnected.fd_eq, h]
    rfl
  · obtain ⟨e, next, hconnect, hnext, hrestored, -⟩ := connect_failed hfd hsome
    rw [hconnect, Owned, hrestored.live_eq, hnext, h]
    rfl

theorem disconnect_owned (h : self.Owned) : self.disconnect.Owned := by
  rw [Owned] at h ⊢
  cases hfd : self.fd_ with
  | none =>
      rw [hfd] at h
      simpa [disconnect, hfd, Files.close_retry_, closingIn] using h
  | some fd =>
      rw [hfd] at h
      simp [disconnect, hfd, Files.close_retry_, closingIn, h]

/-- In every life of a client the one descriptor that is open is the one it holds. -/
theorem owned_of_reaches (h : Reaches call always {} self) : self.Owned := by
  refine h.invariant rfl ?_
  intro before after label _ _ hcall howned
  cases label with
  | connect timeout answer =>
      cases hcall
      exact connect_owned howned timeout answer
  | disconnect =>
      cases hcall
      exact disconnect_owned howned

end TCPClient

end SpwRmap.Socket
