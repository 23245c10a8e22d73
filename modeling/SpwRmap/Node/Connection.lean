import SpwRmap.Node.Client

/-!
# Connection calls that fail

`connect` and `setSendTimeout` of the client wrap the calls of the backend. When the backend
refuses, the wrapper has work of its own behind it or still to do: `connect` clears the flag
and closes the descriptor whatever the backend found, and `setSendTimeout` has stored the
timeout before it asks. So whether a failed call leaves the client as it was depends on the
client alone, not on what the system calls answered.
-/

namespace SpwRmap

open Span Transition

/-- The two calls that set up a connection. -/
def ClientCall.isConnection : ClientCall → Bool
  | .connect _ => true
  | .setSendTimeout _ _ => true
  | _ => false

namespace Client

/-- An open connection is still open, and flag and timeout are the earlier ones. -/
structure Kept (client next : Client) : Prop where
  connection : client.fd_ = true → next.fd_ = true
  flag : next.shutdowned_ = client.shutdowned_
  timeout : next.send_timeout_ = client.send_timeout_

/-- The call finds nothing that its failure would undo. -/
def Unaffected (client : Client) : ClientCall → Prop
  | .connect _ => client.fd_ = false ∧ client.shutdowned_ = false
  | .setSendTimeout timeout _ => timeout < 0 ∨ timeout = client.send_timeout_
  | _ => True

variable {self next : Client} {e : ErrorCode}

/-- A `connect` that fails has closed the descriptor and cleared the flag. -/
theorem connect_error {sockets : Sockets} (h : self.connect sockets = .ok (.error e, next)) :
    next = { self with fd_ := false, shutdowned_ := false } := by
  rw [connect] at h
  split at h
  · dsimp only at h
    split at h
    · cases h
      rfl
    · split at h
      · cases h
        rfl
      · cases h
  · cases h

/-- A `setSendTimeout` that fails was refused at once or has stored the timeout. -/
theorem setSendTimeout_error {timeout : Int} {sockets : Sockets}
    (h : self.setSendTimeout timeout sockets = (.error e, next)) :
    next = if timeout < 0 then self else { self with send_timeout_ := timeout } := by
  rw [setSendTimeout] at h
  split at h
  · rename_i hnegative
    cases h
    rw [if_pos hnegative]
  · rename_i hnegative
    dsimp only at h
    rw [if_neg hnegative]
    split at h
    · exact (congrArg Prod.snd h).symm
    · cases h

theorem connect_kept_iff {sockets : Sockets}
    (h : self.connect sockets = .ok (.error e, next)) :
    Kept self next ↔ self.fd_ = false ∧ self.shutdowned_ = false := by
  rw [connect_error h]
  constructor
  · intro hkept
    refine ⟨?_, hkept.flag.symm⟩
    apply eq_false_of_ne_true
    intro hopen
    exact Bool.false_ne_true (hkept.connection hopen)
  · rintro ⟨hclosed, hflag⟩
    refine ⟨?_, hflag.symm, rfl⟩
    intro hopen
    rw [hclosed] at hopen
    contradiction

theorem setSendTimeout_kept_iff {timeout : Int} {sockets : Sockets}
    (h : self.setSendTimeout timeout sockets = (.error e, next)) :
    Kept self next ↔ timeout < 0 ∨ timeout = self.send_timeout_ := by
  rw [setSendTimeout_error h]
  by_cases hnegative : timeout < 0
  · rw [if_pos hnegative]
    exact ⟨fun _ => .inl hnegative, fun _ => ⟨id, rfl, rfl⟩⟩
  · rw [if_neg hnegative]
    constructor
    · intro hkept
      exact .inr hkept.timeout
    · intro hor
      exact ⟨id, rfl, hor.resolve_left hnegative⟩

/-- A failed call leaves the client as it was, exactly if it finds nothing to undo. -/
theorem call_kept_iff (ndebug : Bool) {call : ClientCall} (hconnection : call.isConnection = true)
    (hcall : self.call ndebug call = .ok (.status (.error e), next)) :
    Kept self next ↔ Unaffected self call := by
  cases call with
  | connect sockets =>
      cases hconnect : self.connect sockets with
      | error fault =>
          rw [Client.call, hconnect, error_bind] at hcall
          cases hcall
      | ok r =>
          obtain ⟨res, client⟩ := r
          rw [Client.call, hconnect, ok_bind] at hcall
          cases hcall
          exact connect_kept_iff hconnect
  | setSendTimeout timeout sockets =>
      have hset : self.setSendTimeout timeout sockets = (.error e, next) := by
        rw [Client.call] at hcall
        cases hres : self.setSendTimeout timeout sockets with
        | mk res client =>
            rw [hres] at hcall
            cases hcall
            rfl
      exact setSendTimeout_kept_iff hset
  | _ => contradiction

/-- The backend refuses a second connection and leaves the first alone. -/
theorem connect_connected (hbackend : self.hasBackend = true) (hopen : self.fd_ = true)
    (sockets : Sockets) :
    self.connect sockets = .ok (.error (.errc .already_connected),
      { self with fd_ := false, shutdowned_ := false }) := by
  rw [connect, if_pos hbackend, TCPClient.connect, if_pos hopen]

theorem exists_connected : ∃ client : Client,
    Reaches (step true) always (ofConfig {} { incoming := [] }) client ∧
      client.hasBackend = true ∧ client.fd_ = true := by
  apply Reaches.exists_of_run [.connect {}]
  decide +kernel

/-- A failed connection of a client that never had one changes nothing. -/
theorem call_kept_iff_refused : ∃ next : Client,
    (ofConfig {} { incoming := [] }).call true (.connect { addresses := .ok [] }) =
      .ok (.status (.error (.errc .invalid_argument)), next) ∧
    Kept (ofConfig {} { incoming := [] }) next := by
  obtain ⟨next, hcall⟩ : ∃ next,
      (ofConfig {} { incoming := [] }).call true (.connect { addresses := .ok [] }) =
        .ok (.status (.error (.errc .invalid_argument)), next) := ⟨_, rfl⟩
  have hunaffected : Unaffected (ofConfig {} { incoming := [] })
      (.connect { addresses := .ok [] }) := ⟨rfl, rfl⟩
  exact ⟨next, hcall, (call_kept_iff true rfl hcall).mpr hunaffected⟩

/-- Connecting a connected client closes its connection, and a timeout that the system did not
take is stored all the same. -/
theorem failed_call_undoes : ∃ client connected untimed : Client,
    Reaches (step true) always (ofConfig {} { incoming := [] }) client ∧
      client.call true (.connect {}) =
        .ok (.status (.error (.errc .already_connected)), connected) ∧
      client.fd_ = true ∧ connected.fd_ = false ∧ ¬Kept client connected ∧
      (ofConfig {} { incoming := [] }).call true (.setSendTimeout 1000 {}) =
        .ok (.status (.error TCPClient.badDescriptor), untimed) ∧
      untimed.send_timeout_ = 1000 ∧ ¬Kept (ofConfig {} { incoming := [] }) untimed := by
  obtain ⟨client, hreach, hbackend, hopen⟩ := exists_connected
  refine ⟨client, { client with fd_ := false, shutdowned_ := false },
    { ofConfig {} { incoming := [] } with send_timeout_ := 1000 }, hreach, ?_, hopen, rfl, ?_, rfl,
    rfl, ?_⟩
  · rw [call, connect_connected hbackend hopen]
    rfl
  · intro hkept
    exact Bool.false_ne_true (hkept.connection hopen)
  · intro hkept
    exact absurd hkept.timeout (by decide)

end Client

end SpwRmap
