import SpwRmap.Socket.Client
import SpwRmap.Socket.Server

/-!
# `sendAll` on a socket

The client and the server have each a loop around `send`. They treat interruptions alike,
but the client gives up at the second call that takes nothing and polls the socket after
the first, while the server tries for ever.

What `send` and `poll` answer is given as two lists. A loop that has used up its answers
has not returned yet. The system calls are recorded on the way, each with its answer, and
from this record it is read off which bytes the socket has taken and in which error a
sequence of calls ends.
-/

namespace SpwRmap.Socket

def EBADF : Int := 9

def EWOULDBLOCK : Int := 11

def POLLOUT : Nat := 0x4

def POLLERR : Nat := 0x8

def POLLHUP : Nat := 0x10

def POLLNVAL : Nat := 0x20

inductive SendReturn where
  | count (n : Nat)
  | failed (errno : Int)
  deriving DecidableEq, Repr

/-- The call takes at most what it is given, and there has to be a descriptor. -/
def send (fd : Option Nat) (data : List UInt8) (answer : SendReturn) : SendReturn :=
  match fd with
  | none => .failed EBADF
  | some _ =>
      match answer with
      | .count n => .count (min n data.length)
      | .failed errno => .failed errno

/-- A system call and its answer. -/
inductive SystemCall where
  | send (data : List UInt8) (answer : SendReturn)
  | poll (answer : PollReturn)
  deriving DecidableEq, Repr

namespace SystemCall

/-- The bytes that the socket has taken. -/
def accepted : SystemCall → List UInt8
  | .send data (.count n) => data.take n
  | _ => []

def sent : SystemCall → Option (List UInt8 × SendReturn)
  | .send data answer => some (data, answer)
  | .poll _ => none

def polled : SystemCall → Option PollReturn
  | .send _ _ => none
  | .poll answer => some answer

end SystemCall

/-- What a call of `sendAll` has come to: its result, once it has returned, and the system
calls it has made. -/
structure Transmission where
  res : Option (Except ErrorCode Unit)
  calls : List SystemCall
  deriving Repr

namespace Transmission

def accepted (t : Transmission) : List UInt8 := t.calls.flatMap SystemCall.accepted

/-- The calls of `send`. -/
def sent (t : Transmission) : List (List UInt8 × SendReturn) := t.calls.filterMap SystemCall.sent

/-- The answers of `poll`. -/
def polled (t : Transmission) : List PollReturn := t.calls.filterMap SystemCall.polled

def after (calls : List SystemCall) (t : Transmission) : Transmission :=
  { t with calls := calls ++ t.calls }

end Transmission

/-- The error of a failed call of `send`. -/
def sendError (errno : Int) : ErrorCode :=
  if errno = EAGAIN ∨ errno = EWOULDBLOCK then .errc .timed_out else .system errno

/-- The loop around `poll`: its calls, and unless the answers are used up the last of them and
those that are left. -/
def pollRetry : List PollReturn → List SystemCall × Option (PollReturn × List PollReturn)
  | [] => ([], none)
  | answer :: polls =>
      if answer = .failed EINTR then
        let (calls, last) := pollRetry polls
        (.poll answer :: calls, last)
      else
        ([.poll answer], some (answer, polls))

/-- Whether the client may try again after `send` has taken nothing. -/
def writable : PollReturn → Except ErrorCode Unit
  | .timeout => .error (.errc .timed_out)
  | .failed errno => .error (.system errno)
  | .ready revents =>
      if revents &&& (POLLERR ||| POLLHUP ||| POLLNVAL) ≠ 0 then
        .error (.errc .connection_aborted)
      else if revents &&& POLLOUT = 0 then
        .error (.errc .io_error)
      else
        .ok ()

namespace TCPClient

/-- Before a second try after `send` has taken nothing. -/
def awaitWritable (polls : List PollReturn) (retry : List PollReturn → Transmission) :
    Transmission :=
  .after (pollRetry polls).1 <|
    match (pollRetry polls).2 with
    | none => ⟨none, []⟩
    | some (answer, polls) =>
        match writable answer with
        | .error e => ⟨some (.error e), []⟩
        | .ok _ => retry polls

def sendLoop (fd_ : Option Nat) :
    List SendReturn → List PollReturn → Bool → List UInt8 → Transmission
  | _, _, _, [] => ⟨some (.ok ()), []⟩
  | [], _, _, _ :: _ => ⟨none, []⟩
  | answer :: sends, polls, retried_zero, byte :: rest =>
      let data := byte :: rest
      .after [.send data (send fd_ data answer)] <|
        match send fd_ data answer with
        | .failed errno =>
            if errno = EINTR then
              sendLoop fd_ sends polls retried_zero data
            else
              ⟨some (.error (sendError errno)), []⟩
        | .count 0 =>
            if retried_zero then
              ⟨some (.error (.errc .io_error)), []⟩
            else
              awaitWritable polls fun polls => sendLoop fd_ sends polls true data
        | .count (n + 1) => sendLoop fd_ sends polls retried_zero (data.drop (n + 1))

def sendAll (self : TCPClient) (data : List UInt8) (sends : List SendReturn)
    (polls : List PollReturn) : Transmission :=
  match self.fd_ with
  | none => ⟨some (.error (.errc .not_connected)), []⟩
  | some fd => sendLoop (some fd) sends polls false data

/-- The error that the answers of the system ask for: the first answer that is neither an
interruption nor says that the client may go on. -/
def failure : Bool → List SystemCall → Option ErrorCode
  | _, [] => none
  | retried_zero, .send _ (.failed errno) :: calls =>
      if errno = EINTR then failure retried_zero calls else some (sendError errno)
  | retried_zero, .send _ (.count 0) :: calls =>
      if retried_zero then some (.errc .io_error) else failure true calls
  | retried_zero, .send _ (.count (_ + 1)) :: calls => failure retried_zero calls
  | retried_zero, .poll answer :: calls =>
      if answer = .failed EINTR then
        failure retried_zero calls
      else
        match writable answer with
        | .error e => some e
        | .ok _ => failure retried_zero calls

end TCPClient

end SpwRmap.Socket

namespace SpwRmap.TCPServer

open Socket

def sendLoop (client_fd_ : Option Nat) : List SendReturn → List UInt8 → Transmission
  | _, [] => ⟨some (.ok ()), []⟩
  | [], _ :: _ => ⟨none, []⟩
  | answer :: sends, byte :: rest =>
      let data := byte :: rest
      .after [.send data (send client_fd_ data answer)] <|
        match send client_fd_ data answer with
        | .failed errno =>
            if errno = EINTR then
              sendLoop client_fd_ sends data
            else
              ⟨some (.error (sendError errno)), []⟩
        | .count 0 => sendLoop client_fd_ sends data
        | .count (n + 1) => sendLoop client_fd_ sends (data.drop (n + 1))

/-- There is no test for a connection. -/
def sendAll (self : TCPServer) (data : List UInt8) (sends : List SendReturn) : Transmission :=
  sendLoop self.client_fd_ sends data

/-- The error of the first call of `send` that fails and is not interrupted. -/
def failure : List SystemCall → Option ErrorCode
  | [] => none
  | .send _ (.failed errno) :: calls =>
      if errno = EINTR then failure calls else some (sendError errno)
  | _ :: calls => failure calls

end SpwRmap.TCPServer

namespace SpwRmap.Socket

/-- How `sendAll` deals with the system, where `failure` is the error that the answers of the
system ask for. -/
structure Transmission.Conducted (fd : Option Nat) (data : List UInt8) (sends : List SendReturn)
    (polls : List PollReturn) (failure : List SystemCall → Option ErrorCode) (t : Transmission) :
    Prop where
  /-- Every call of `send` is about the bytes that those before it have not taken. -/
  spans : ∀ front span answer back, t.calls = front ++ .send span answer :: back →
    front.flatMap SystemCall.accepted ++ span = data ∧ span ≠ []
  /-- The answers are those of the system, in order. -/
  sent : List.Forall₂ (fun call answer => call.2 = send fd call.1 answer) t.sent
    (sends.take t.sent.length)
  polled : t.polled <+: polls
  prefixed : t.accepted <+: data
  ok_iff : t.res = some (.ok ()) ↔ t.accepted = data
  error_iff : ∀ e, t.res = some (.error e) ↔ failure t.calls = some e
  /-- No call follows one that asks for an error. -/
  last : ∀ front back, t.calls = front ++ back → back ≠ [] → failure front = none
  /-- The loop goes on as long as there are answers. -/
  running : t.res = none → t.sent.length = sends.length ∨ t.polled.length = polls.length

namespace Transmission.Conducted

variable {fd : Option Nat} {data rest : List UInt8} {sends : List SendReturn}
variable {polls : List PollReturn} {failure failure' : List SystemCall → Option ErrorCode}
variable {t : Transmission}

theorem done (hnil : failure [] = none) :
    Conducted fd [] sends polls failure ⟨some (.ok ()), []⟩ where
  spans := by simp
  sent := .nil
  polled := List.nil_prefix
  prefixed := List.nil_prefix
  ok_iff := iff_of_true rfl rfl
  error_iff := by simp [hnil]
  last := by simp
  running := by simp

theorem waiting (hdata : data ≠ []) (hnil : failure [] = none)
    (hused : sends = [] ∨ polls = []) : Conducted fd data sends polls failure ⟨none, []⟩ where
  spans := by simp
  sent := .nil
  polled := List.nil_prefix
  prefixed := List.nil_prefix
  ok_iff := iff_of_false (by simp) hdata.symm
  error_iff := by simp [hnil]
  last := by simp
  running _ := by
    obtain rfl | rfl := hused
    · exact .inl rfl
    · exact .inr rfl

/-- The loop ends with the error that was asked for. -/
theorem stopped (hdata : data ≠ []) (e : ErrorCode) :
    Conducted fd data sends polls (fun _ => some e) ⟨some (.error e), []⟩ where
  spans := by simp
  sent := .nil
  polled := List.nil_prefix
  prefixed := List.nil_prefix
  ok_iff := iff_of_false (by simp) hdata.symm
  error_iff := by simp
  last := by simp
  running := by simp

/-- One call, and what the loop does on the bytes that it has left. -/
theorem after_send {answer taken : SendReturn} (htaken : send fd data answer = taken)
    (hdata : data ≠ []) (hsplit : SystemCall.accepted (.send data taken) ++ rest = data)
    (hnil : failure [] = none)
    (hfailure : ∀ calls, failure (.send data taken :: calls) = failure' calls)
    (h : Conducted fd rest sends polls failure' t) :
    Conducted fd data (answer :: sends) polls failure (.after [.send data taken] t) where
  spans := by
    intro front span answer' back hcalls
    obtain ⟨rfl, hhead⟩ | ⟨front, rfl, htail⟩ := List.cons_eq_append_iff.mp hcalls
    · cases hhead
      exact ⟨rfl, hdata⟩
    · obtain ⟨hspan, hne⟩ := h.spans front span answer' back htail
      refine ⟨?_, hne⟩
      rw [List.flatMap_cons, List.append_assoc, hspan, hsplit]
  sent := .cons htaken.symm h.sent
  polled := h.polled
  prefixed := by
    have haccepted := (List.prefix_append_right_inj
      (SystemCall.accepted (.send data taken))).mpr h.prefixed
    rw [hsplit] at haccepted
    exact haccepted
  ok_iff := by
    refine h.ok_iff.trans ?_
    rw [← List.append_right_inj (SystemCall.accepted (.send data taken)), hsplit]
    rfl
  error_iff := by
    intro e
    refine (h.error_iff e).trans ?_
    rw [← hfailure]
    rfl
  last := by
    intro front back hcalls hback
    obtain ⟨rfl, -⟩ | ⟨front, rfl, htail⟩ := List.cons_eq_append_iff.mp hcalls
    · exact hnil
    · rw [hfailure]
      exact h.last front back htail hback
  running := by
    intro hres
    exact (h.running hres).imp_left (congrArg (· + 1))

/-- A call of `poll` takes nothing. -/
theorem after_poll {answer : PollReturn} (hnil : failure [] = none)
    (hfailure : ∀ calls, failure (.poll answer :: calls) = failure' calls)
    (h : Conducted fd data sends polls failure' t) :
    Conducted fd data sends (answer :: polls) failure (.after [.poll answer] t) where
  spans := by
    intro front span answer' back hcalls
    obtain ⟨rfl, hhead⟩ | ⟨front, rfl, htail⟩ := List.cons_eq_append_iff.mp hcalls
    · cases hhead
    · exact h.spans front span answer' back htail
  sent := h.sent
  polled := (List.prefix_cons_inj answer).mpr h.polled
  prefixed := h.prefixed
  ok_iff := h.ok_iff
  error_iff := by
    intro e
    refine (h.error_iff e).trans ?_
    rw [← hfailure]
    rfl
  last := by
    intro front back hcalls hback
    obtain ⟨rfl, -⟩ | ⟨front, rfl, htail⟩ := List.cons_eq_append_iff.mp hcalls
    · exact hnil
    · rw [hfailure]
      exact h.last front back htail hback
  running := by
    intro hres
    exact (h.running hres).imp_right (congrArg (· + 1))

end Transmission.Conducted

end SpwRmap.Socket

namespace SpwRmap

open Socket Transmission Conducted

namespace Socket.TCPClient

variable {fd_ : Option Nat} {sends : List SendReturn} {data : List UInt8}

/-- By induction on the answers of `poll`: interruptions change nothing. -/
theorem awaitWritable_conducted (hdata : data ≠ []) {retry : List PollReturn → Transmission}
    (hretry : ∀ polls, Conducted fd_ data sends polls (failure true) (retry polls))
    (polls : List PollReturn) :
    Conducted fd_ data sends polls (failure true) (awaitWritable polls retry) := by
  induction polls with
  | nil => exact .waiting hdata rfl (.inr rfl)
  | cons answer polls ih =>
      rw [awaitWritable, pollRetry]
      by_cases hinterrupted : answer = .failed EINTR
      · rw [if_pos hinterrupted]
        refine .after_poll rfl ?_ ih
        intro calls
        rw [failure, if_pos hinterrupted]
      · rw [if_neg hinterrupted]
        dsimp only
        cases hwritable : writable answer with
        | error e =>
            refine .after_poll rfl ?_ (.stopped hdata e)
            intro calls
            rw [failure, if_neg hinterrupted, hwritable]
        | ok _ =>
            refine .after_poll rfl ?_ (hretry polls)
            intro calls
            rw [failure, if_neg hinterrupted, hwritable]

/-- By induction on the answers of `send`. -/
theorem sendLoop_conducted (fd_ : Option Nat) (sends : List SendReturn) (polls : List PollReturn)
    (retried_zero : Bool) (data : List UInt8) :
    Conducted fd_ data sends polls (failure retried_zero)
      (sendLoop fd_ sends polls retried_zero data) := by
  induction sends generalizing polls retried_zero data with
  | nil =>
      cases data with
      | nil => exact .done rfl
      | cons byte rest => exact .waiting (List.cons_ne_nil _ _) rfl (.inl rfl)
  | cons answer sends ih =>
      cases data with
      | nil => exact .done rfl
      | cons byte rest =>
          have hdata : byte :: rest ≠ [] := List.cons_ne_nil _ _
          rw [sendLoop]
          cases hsend : send fd_ (byte :: rest) answer with
          | failed errno =>
              dsimp only
              by_cases hinterrupted : errno = EINTR
              · rw [if_pos hinterrupted]
                refine .after_send hsend hdata rfl rfl ?_ (ih polls retried_zero _)
                intro calls
                rw [failure, if_pos hinterrupted]
              · rw [if_neg hinterrupted]
                refine .after_send hsend hdata rfl rfl ?_ (.stopped hdata (sendError errno))
                intro calls
                rw [failure, if_neg hinterrupted]
          | count n =>
              cases n with
              | zero =>
                  dsimp only
                  cases retried_zero with
                  | true => exact .after_send hsend hdata rfl rfl (fun _ => rfl) (.stopped hdata _)
                  | false =>
                      exact .after_send hsend hdata rfl rfl (fun _ => rfl)
                        (awaitWritable_conducted hdata (fun polls => ih polls true _) polls)
              | succ n =>
                  exact .after_send hsend hdata (List.take_append_drop _ _) rfl (fun _ => rfl)
                    (ih polls retried_zero _)

end Socket.TCPClient

theorem TCPServer.sendLoop_conducted (client_fd_ : Option Nat) (sends : List SendReturn)
    (polls : List PollReturn) (data : List UInt8) :
    Conducted client_fd_ data sends polls failure (sendLoop client_fd_ sends data) := by
  induction sends generalizing data with
  | nil =>
      cases data with
      | nil => exact .done rfl
      | cons byte rest => exact .waiting (List.cons_ne_nil _ _) rfl (.inl rfl)
  | cons answer sends ih =>
      cases data with
      | nil => exact .done rfl
      | cons byte rest =>
          have hdata : byte :: rest ≠ [] := List.cons_ne_nil _ _
          rw [sendLoop]
          cases hsend : send client_fd_ (byte :: rest) answer with
          | failed errno =>
              dsimp only
              by_cases hinterrupted : errno = EINTR
              · rw [if_pos hinterrupted]
                refine .after_send hsend hdata rfl rfl ?_ (ih _)
                intro calls
                rw [failure, if_pos hinterrupted]
              · rw [if_neg hinterrupted]
                refine .after_send hsend hdata rfl rfl ?_ (.stopped hdata (sendError errno))
                intro calls
                rw [failure, if_neg hinterrupted]
          | count n =>
              cases n with
              | zero => exact .after_send hsend hdata rfl rfl (fun _ => rfl) (ih _)
              | succ n =>
                  exact .after_send hsend hdata (List.take_append_drop _ _) rfl (fun _ => rfl)
                    (ih _)

/-- Without a descriptor nothing gets through. -/
theorem TCPServer.sendLoop_unconnected (sends : List SendReturn) (byte : UInt8)
    (rest : List UInt8) : (sendLoop none sends (byte :: rest)).res ≠ some (.ok ()) := by
  cases sends with
  | nil => simp [sendLoop]
  | cons answer sends =>
      have hstopped : sendLoop none (answer :: sends) (byte :: rest) =
          ⟨some (.error (sendError EBADF)), [.send (byte :: rest) (.failed EBADF)]⟩ := rfl
      rw [hstopped]
      simp

theorem Socket.TCPClient.sendAll_conducted {self : Socket.TCPClient} (hfd : self.fd_ ≠ none)
    (data : List UInt8) (sends : List SendReturn) (polls : List PollReturn) :
    Conducted self.fd_ data sends polls (failure false) (self.sendAll data sends polls) := by
  rw [sendAll]
  cases hself : self.fd_ with
  | none => exact absurd hself hfd
  | some fd => exact sendLoop_conducted (some fd) sends polls false data

theorem Socket.TCPClient.sendAll_unconnected {self : Socket.TCPClient} (hfd : self.fd_ = none)
    (data : List UInt8) (sends : List SendReturn) (polls : List PollReturn) :
    self.sendAll data sends polls = ⟨some (.error (.errc .not_connected)), []⟩ := by
  rw [sendAll, hfd]

theorem Socket.TCPClient.sendAll_inOrder (self : Socket.TCPClient) (data : List UInt8)
    (sends : List SendReturn) (polls : List PollReturn) :
    (self.sendAll data sends polls).accepted <+: data ∧
    ((self.sendAll data sends polls).res = some (.ok ()) ↔
      self.fd_ ≠ none ∧ (self.sendAll data sends polls).accepted = data) := by
  by_cases hfd : self.fd_ = none
  · rw [sendAll_unconnected hfd]
    exact ⟨List.nil_prefix, iff_of_false (by simp) fun h => h.1 hfd⟩
  · have h := sendAll_conducted hfd data sends polls
    exact ⟨h.prefixed, h.ok_iff.trans (and_iff_right hfd).symm⟩

theorem TCPServer.sendAll_inOrder (self : TCPServer) (data : List UInt8)
    (sends : List SendReturn) :
    (self.sendAll data sends).accepted <+: data ∧
    ((self.sendAll data sends).res = some (.ok ()) ↔ (self.sendAll data sends).accepted = data) ∧
    ((self.sendAll data sends).res = some (.ok ()) → data ≠ [] → self.client_fd_ ≠ none) := by
  have h := sendLoop_conducted self.client_fd_ sends [] data
  refine ⟨h.prefixed, h.ok_iff, ?_⟩
  intro hres hdata hfd
  obtain ⟨byte, rest, rfl⟩ := List.exists_cons_of_ne_nil hdata
  rw [sendAll, hfd] at hres
  exact sendLoop_unconnected sends byte rest hres

/-- Each byte is sent at most once and in order, and a call has succeeded exactly if all of
them are sent; the client has to be connected for this. The server fails without a connection
as soon as there is something to send. Every call of `send` gets what those before it have
left, a call ends in an error exactly if an answer of the system asks for it, and then no
further system call is made. The server does not care what `poll` would answer. -/
theorem sendAll_sends_in_order :
    (∀ (self : Socket.TCPClient) (data : List UInt8) (sends : List SendReturn)
      (polls : List PollReturn), (self.sendAll data sends polls).accepted <+: data ∧
      ((self.sendAll data sends polls).res = some (.ok ()) ↔
        self.fd_ ≠ none ∧ (self.sendAll data sends polls).accepted = data) ∧
      (self.fd_ ≠ none → Conducted self.fd_ data sends polls (Socket.TCPClient.failure false)
        (self.sendAll data sends polls)) ∧
      (self.fd_ = none →
        self.sendAll data sends polls = ⟨some (.error (.errc .not_connected)), []⟩)) ∧
    ∀ (self : TCPServer) (data : List UInt8) (sends : List SendReturn),
      (self.sendAll data sends).accepted <+: data ∧
      ((self.sendAll data sends).res = some (.ok ()) ↔ (self.sendAll data sends).accepted = data) ∧
      ((self.sendAll data sends).res = some (.ok ()) → data ≠ [] → self.client_fd_ ≠ none) ∧
      ∀ polls, Conducted self.client_fd_ data sends polls TCPServer.failure
        (self.sendAll data sends) := by
  constructor
  · intro self data sends polls
    obtain ⟨hprefixed, hok⟩ := self.sendAll_inOrder data sends polls
    exact ⟨hprefixed, hok, fun hfd => TCPClient.sendAll_conducted hfd data sends polls,
      fun hfd => TCPClient.sendAll_unconnected hfd data sends polls⟩
  · intro self data sends
    obtain ⟨hprefixed, hok, hfd⟩ := self.sendAll_inOrder data sends
    exact ⟨hprefixed, hok, hfd, fun polls => TCPServer.sendLoop_conducted _ sends polls data⟩

/-- The client is interrupted, sends two bytes, is told to wait and sends the last; the
server loses its peer after the first byte. -/
theorem sendAll_sends_in_order_three :
    (Socket.TCPClient.sendAll { fd_ := some 3 } [1, 2, 3]
      [.failed EINTR, .count 2, .count 0, .count 5] [.ready POLLOUT]).accepted = [1, 2, 3] ∧
    (TCPServer.sendAll { client_fd_ := some 4 } [1, 2, 3]
      [.count 1, .count 0, .failed 32]).accepted ≠ [1, 2, 3] := by
  constructor
  · exact ((sendAll_sends_in_order.1 _ _ _ _).2.1.mp rfl).2
  · rw [ne_eq, ← (sendAll_sends_in_order.2 _ _ _).2.1]
    rintro ⟨⟩

theorem send_ne_zero (fd : Option Nat) (byte : UInt8) (rest : List UInt8) {answer : SendReturn}
    (h : ∀ n, answer = .count n → 0 < n) : send fd (byte :: rest) answer ≠ .count 0 := by
  cases fd with
  | none => simp [send]
  | some fd =>
      cases answer with
      | failed errno => simp [send]
      | count n =>
          have hn := h n rfl
          have hlen : 0 < (byte :: rest).length := Nat.succ_pos _
          rw [send, ne_eq, SendReturn.count.injEq]
          omega

/-- As long as `send` takes something whenever it returns, the two loops are one. -/
theorem Socket.TCPClient.sendLoop_eq_server (fd_ : Option Nat) {sends : List SendReturn}
    (hpositive : ∀ n, .count n ∈ sends → 0 < n) (polls : List PollReturn) (retried_zero : Bool)
    (data : List UInt8) :
    sendLoop fd_ sends polls retried_zero data = TCPServer.sendLoop fd_ sends data := by
  induction sends generalizing data with
  | nil => cases data <;> rfl
  | cons answer sends ih =>
      have hsends : ∀ n, .count n ∈ sends → 0 < n := by
        intro n hn
        exact hpositive n (List.mem_cons_of_mem _ hn)
      cases data with
      | nil => rfl
      | cons byte rest =>
          have hanswer : ∀ n, answer = .count n → 0 < n := by
            intro n hn
            exact hpositive n (hn ▸ List.mem_cons_self)
          have htakes := send_ne_zero fd_ byte rest hanswer
          rw [sendLoop, TCPServer.sendLoop]
          cases hsend : send fd_ (byte :: rest) answer with
          | failed errno => rw [ih hsends]
          | count n =>
              cases n with
              | zero => exact absurd hsend htakes
              | succ n => exact congrArg (after _) (ih hsends _)

/-- If it always takes something, then all is sent in the end. -/
theorem TCPServer.sendLoop_completes (fd : Nat) {counts : List Nat}
    (hpositive : ∀ n ∈ counts, 0 < n) {data : List UInt8} (hlen : data.length ≤ counts.length) :
    (sendLoop (some fd) (counts.map .count) data).res = some (.ok ()) := by
  induction counts generalizing data with
  | nil =>
      obtain rfl := List.eq_nil_of_length_eq_zero (Nat.le_zero.mp hlen)
      rfl
  | cons n counts ih =>
      obtain ⟨hn, hcounts⟩ := List.forall_mem_cons.mp hpositive
      cases data with
      | nil => rfl
      | cons byte rest =>
          obtain ⟨m, hm⟩ := Nat.exists_eq_succ_of_ne_zero
            (Nat.ne_of_gt (Nat.lt_min.mpr ⟨hn, Nat.succ_pos rest.length⟩))
          have htaken : send (some fd) (byte :: rest) (.count n) = .count (m + 1) := by
            rw [send, List.length_cons, hm]
          have hrest : ((byte :: rest).drop (m + 1)).length ≤ counts.length := by
            rw [List.length_drop]
            simp only [List.length_cons] at hlen ⊢
            omega
          rw [List.map_cons, sendLoop, htaken]
          exact ih hcounts hrest

/-- How the node sees a call that has returned. -/
def Socket.Transmission.outcome (t : Transmission) : Option SendOutcome :=
  t.res.map fun res =>
    match res with
    | .ok _ => .sent
    | .error e => .failed e t.accepted.length

/-- The node records the call and the bytes that the socket has taken, and has the same
result. -/
theorem Socket.Transmission.node_sendAll {t : Transmission} {data : List UInt8}
    (hprefixed : t.accepted <+: data) (hok : t.res = some (.ok ()) → t.accepted = data)
    {outcome : SendOutcome} (houtcome : t.outcome = some outcome) {node : Node}
    (hbackend : node.receiver.tcp_backend_.isSome) (env : Environment) :
    ∃ res, t.res = some res ∧ node.sendAll { env with sendAll := outcome } data =
      .ok (res, { node with
        handed := node.handed ++ [⟨data, outcome⟩]
        sent := node.sent ++ t.accepted }) := by
  obtain ⟨backend, hbackend⟩ := Option.isSome_iff_exists.mp hbackend
  obtain ⟨res, hres, rfl⟩ := Option.map_eq_some_iff.mp houtcome
  refine ⟨res, hres, ?_⟩
  simp only [Node.sendAll, hbackend]
  cases res with
  | ok _ =>
      rw [hok hres]
  | error e =>
      have htaken := List.prefix_iff_eq_take.mp hprefixed
      dsimp only
      rw [← htaken]

theorem Socket.TCPClient.node_sendAll (self : Socket.TCPClient) (data : List UInt8)
    (sends : List SendReturn) (polls : List PollReturn) {outcome : SendOutcome}
    (houtcome : (self.sendAll data sends polls).outcome = some outcome) {node : Node}
    (hbackend : node.receiver.tcp_backend_.isSome) (env : Environment) :
    ∃ res, (self.sendAll data sends polls).res = some res ∧
      node.sendAll { env with sendAll := outcome } data = .ok (res, { node with
        handed := node.handed ++ [⟨data, outcome⟩]
        sent := node.sent ++ (self.sendAll data sends polls).accepted }) := by
  obtain ⟨hprefixed, hok⟩ := self.sendAll_inOrder data sends polls
  exact Transmission.node_sendAll hprefixed (fun h => (hok.mp h).2) houtcome hbackend env

theorem TCPServer.node_sendAll (self : TCPServer) (data : List UInt8) (sends : List SendReturn)
    {outcome : SendOutcome} (houtcome : (self.sendAll data sends).outcome = some outcome)
    {node : Node} (hbackend : node.receiver.tcp_backend_.isSome) (env : Environment) :
    ∃ res, (self.sendAll data sends).res = some res ∧
      node.sendAll { env with sendAll := outcome } data = .ok (res, { node with
        handed := node.handed ++ [⟨data, outcome⟩]
        sent := node.sent ++ (self.sendAll data sends).accepted }) := by
  obtain ⟨hprefixed, hok, -⟩ := self.sendAll_inOrder data sends
  exact Transmission.node_sendAll hprefixed hok.mp houtcome hbackend env

end SpwRmap
