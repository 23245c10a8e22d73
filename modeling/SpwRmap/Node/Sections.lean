import SpwRmap.Node.Concurrent

/-!
# What one step of the concurrent node can do

`Section range s l s'` lists the steps of the concurrent model by the section of the
source they execute, each with its enabling condition and its effect. Every step is
one of them, so properties of runs are proved by cases on `Section` and never by
unfolding the step function.
-/

namespace SpwRmap.Concurrent

variable {range : TransactionRange} {s s' : State} {l : Label}

inductive Section (range : TransactionRange) (s : State) : Label → State → Prop where
  | call {t : ThreadId} {kind : OpKind} {retry_count : Option Nat} (hpc : s.threads t = .idle) :
      Section range s (.call t kind retry_count) (s.start t kind (retry_count.map (· - 1)))
  | found {t : ThreadId} {o : OpId} {i : Nat} (hpc : s.threads t = .allocate o)
      (hscan : s.table.scan range s.now s.transaction_timeout_ = .available i) :
      Section range s (.step t) ((s.acquire o i).goto t (.register o i))
  | expired {t : ThreadId} {o : OpId} {i : Nat} (hpc : s.threads t = .allocate o)
      (hscan : s.table.scan range s.now s.transaction_timeout_ = .expired i) :
      Section range s (.step t) (s.goto t (.evictTake o i))
  | exhausted {t : ThreadId} {o : OpId} (hpc : s.threads t = .allocate o)
      (hscan : s.table.scan range s.now s.transaction_timeout_ = .exhausted) :
      Section range s (.step t)
        ((s.setValue o (.error (.errc .resource_unavailable_try_again))).started t o none)
  | evictTake {t : ThreadId} {o v : OpId} {i : Nat} (hpc : s.threads t = .evictTake o i)
      (hfree : ¬ s.locked i) (herror : s.table.reply_error_callback_ i = some v) :
      Section range s (.step t) ((s.clear i).goto t (.evictSettle o i v))
  | evictNothing {t : ThreadId} {o : OpId} {i : Nat} (hpc : s.threads t = .evictTake o i)
      (hfree : ¬ s.locked i) (herror : s.table.reply_error_callback_ i = none) :
      Section range s (.step t) ((s.clear i).goto t (.evictRelease o i none))
  | evictSettle {t : ThreadId} {o v : OpId} {i : Nat} (hpc : s.threads t = .evictSettle o i v) :
      Section range s (.step t)
        ((s.setValue v (.error (.errc .timed_out))).goto t (.evictRelease o i (some v)))
  | evictRelease {t : ThreadId} {o v : OpId} {i : Nat}
      (hpc : s.threads t = .evictRelease o i (some v)) :
      Section range s (.step t) ((s.release i).goto t (.evictReset o i v))
  | evictReleaseNothing {t : ThreadId} {o : OpId} {i : Nat}
      (hpc : s.threads t = .evictRelease o i none) :
      Section range s (.step t) ((s.release i).goto t (.allocate o))
  | evictReset {t : ThreadId} {o v : OpId} {i : Nat} (hpc : s.threads t = .evictReset o i v) :
      Section range s (.step t) ((s.resetError i).goto t (.allocate o))
  | register {t : ThreadId} {o : OpId} {i : Nat} (hpc : s.threads t = .register o i)
      (hfree : ¬ s.locked i) :
      Section range s (.step t) ((s.register o i).goto t (.sending o i))
  | transmit {t : ThreadId} {o : OpId} {i : Nat} (hpc : s.threads t = .sending o i) :
      Section range s (.step t) ({ s with unanswered := s.unanswered ++ [o] }.goto t (.sent o i))
  | sent {t : ThreadId} {o : OpId} {i : Nat} (hpc : s.threads t = .sent o i) :
      Section range s (.step t) (s.started t o (some i))
  | failClear {t : ThreadId} {o : OpId} {i : Nat} {e : ErrorCode}
      (hpc : s.threads t = .failClear o i e) (hfree : ¬ s.locked i) :
      Section range s (.step t) ((s.clear i).goto t (.failSettle o i e))
  | failSettle {t : ThreadId} {o : OpId} {i : Nat} {e : ErrorCode}
      (hpc : s.threads t = .failSettle o i e) :
      Section range s (.step t) ((s.setValue o (.error e)).goto t (.failRelease o i))
  | failRelease {t : ThreadId} {o : OpId} {i : Nat} (hpc : s.threads t = .failRelease o i) :
      Section range s (.step t) ((s.release i).started t o none)
  | ready {t : ThreadId} {o : OpId} {i : Option Nat} (hpc : s.threads t = .waiting o i)
      (hset : (s.ops o).promise ≠ []) :
      Section range s (.step t) (s.goto t .idle)
  | cancelClear {t : ThreadId} {o : OpId} {i : Nat} (hpc : s.threads t = .cancelClear o i)
      (hfree : ¬ s.locked i) :
      Section range s (.step t) ((s.clear i).goto t (.cancelRelease o i))
  | cancelRelease {t : ThreadId} {o : OpId} {i : Nat} (hpc : s.threads t = .cancelRelease o i) :
      Section range s (.step t)
        (((s.release i).setOp o { s.ops o with cancelled := true }).retry t o)
  | sendFails {t : ThreadId} {o : OpId} {i : Nat} {e : ErrorCode}
      (hpc : s.threads t = .sending o i) :
      Section range s (.sendFails t e) (s.goto t (.failClear o i e))
  | timeout {t : ThreadId} {o : OpId} {i : Nat} (hpc : s.threads t = .waiting o (some i))
      (hunset : (s.ops o).promise = []) :
      Section range s (.timeout t) (s.goto t (.cancelClear o i))
  | ignored {packet : Packet} {cause : Option OpId} (hpoll : s.poll = .idle) :
      Section range s (.receive packet cause)
        { s with unanswered := s.unanswered.filter fun o => some o ≠ cause }
  | dispatched {packet : Packet} {cause : Option OpId} {o : OpId} {i : Nat}
      (hpoll : s.poll = .idle) (htype : packet.type = .ReadReply ∨ packet.type = .WriteReply)
      (hindex : range.index packet.transactionID = some i)
      (hreply : s.table.reply_callback_ i = some o) :
      Section range s (.receive packet cause)
        { s.clear i with
          unanswered := s.unanswered.filter fun o => some o ≠ cause
          poll := .complete o i packet }
  | complete {throws : Bool} {o : OpId} {i : Nat} {packet : Packet}
      (hpoll : s.poll = .complete o i packet)
      (hthrows : throws = true → (s.ops o).retries = none) :
      Section range s (.pollStep throws)
        { s.setOp o { s.ops o with completions := (s.ops o).completions ++ [packet] } with
          poll := .settle o i
            (if throws then .error (.errc .operation_canceled) else .ok ()) }
  | settle {throws : Bool} {o : OpId} {i : Nat} {value : Except ErrorCode Unit}
      (hpoll : s.poll = .settle o i value) :
      Section range s (.pollStep throws) { s.setValue o value with poll := .release o i }
  | pollRelease {throws : Bool} {o : OpId} {i : Nat} (hpoll : s.poll = .release o i) :
      Section range s (.pollStep throws) { s.release i with poll := .reset o i }
  | pollReset {throws : Bool} {o : OpId} {i : Nat} (hpoll : s.poll = .reset o i) :
      Section range s (.pollStep throws) { s.resetError i with poll := .idle }
  | tick {elapsed : Nat} : Section range s (.tick elapsed) { s with now := s.now + elapsed }
  | setTimeout {timeout : Int} :
      Section range s (.setTimeout timeout) { s with transaction_timeout_ := timeout }
  | lose {o : OpId} :
      Section range s (.lose o) { s with unanswered := s.unanswered.filter (· ≠ o) }

theorem Section.of_clientStep {t : ThreadId} (h : clientStep range s t = some s') :
    Section range s (.step t) s' := by
  rw [clientStep] at h
  split at h
  case h_1 => contradiction
  case h_2 o hpc =>
    split at h
    case h_1 i hscan => cases h; exact .found hpc hscan
    case h_2 i hscan => cases h; exact .expired hpc hscan
    case h_3 hscan => cases h; exact .exhausted hpc hscan
  case h_3 o i hpc =>
    split at h
    case isTrue => contradiction
    case isFalse hfree =>
      split at h
      case h_1 v herror => cases h; exact .evictTake hpc hfree herror
      case h_2 herror => cases h; exact .evictNothing hpc hfree herror
  case h_4 o i v hpc => cases h; exact .evictSettle hpc
  case h_5 o i v hpc => cases h; exact .evictRelease hpc
  case h_6 o i hpc => cases h; exact .evictReleaseNothing hpc
  case h_7 o i v hpc => cases h; exact .evictReset hpc
  case h_8 o i hpc =>
    split at h
    case isTrue => contradiction
    case isFalse hfree => cases h; exact .register hpc hfree
  case h_9 o i hpc => cases h; exact .transmit hpc
  case h_10 o i hpc => cases h; exact .sent hpc
  case h_11 o i e hpc =>
    split at h
    case isTrue => contradiction
    case isFalse hfree => cases h; exact .failClear hpc hfree
  case h_12 o i e hpc => cases h; exact .failSettle hpc
  case h_13 o i hpc => cases h; exact .failRelease hpc
  case h_14 o i hpc =>
    split at h
    case isTrue => contradiction
    case isFalse hset => cases h; exact .ready hpc hset
  case h_15 o i hpc =>
    split at h
    case isTrue => contradiction
    case isFalse hfree => cases h; exact .cancelClear hpc hfree
  case h_16 o i hpc => cases h; exact .cancelRelease hpc

theorem Section.of_receive {packet : Packet} {cause : Option OpId} (hpoll : s.poll = .idle) :
    Section range s (.receive packet cause)
      (dispatch range { s with unanswered := s.unanswered.filter fun o => some o ≠ cause }
        packet) := by
  rw [dispatch]
  split
  case h_1 htype =>
    split
    · exact .ignored hpoll
    · rename_i hindex
      split
      · rename_i hreply
        exact .dispatched hpoll (.inl htype) hindex hreply
      · exact .ignored hpoll
  case h_2 htype =>
    split
    · exact .ignored hpoll
    · rename_i hindex
      split
      · rename_i hreply
        exact .dispatched hpoll (.inr htype) hindex hreply
      · exact .ignored hpoll
  case h_3 => exact .ignored hpoll

theorem Section.of_pollStep {throws : Bool} (h : pollStep s throws = some s') :
    Section range s (.pollStep throws) s' := by
  rw [pollStep] at h
  split at h
  case h_1 => contradiction
  case h_2 o i packet hpoll =>
    split at h
    case isTrue => contradiction
    case isFalse hthrows =>
      cases h
      refine .complete hpoll ?_
      intro hthrow
      by_contra hsync
      exact hthrows ⟨hthrow, hsync⟩
  case h_3 o i value hpoll => cases h; exact .settle hpoll
  case h_4 o i hpoll => cases h; exact .pollRelease hpoll
  case h_5 o i hpoll => cases h; exact .pollReset hpoll

/-- Every step executes one of the sections. -/
theorem Section.of_step (h : step range s l = some s') : Section range s l s' := by
  cases l with
  | call t kind retry_count =>
      rw [step] at h
      split at h
      case isTrue hpc => cases h; exact .call hpc
      case isFalse => contradiction
  | step t => exact .of_clientStep h
  | sendFails t e =>
      rw [step] at h
      split at h
      case h_1 o i hpc => cases h; exact .sendFails hpc
      case h_2 => contradiction
  | timeout t =>
      rw [step] at h
      split at h
      case h_1 o i hpc =>
        split at h
        case isTrue hunset => cases h; exact .timeout hpc hunset
        case isFalse => contradiction
      case h_2 => contradiction
  | receive packet cause =>
      rw [step] at h
      split at h
      case h_1 hpoll => cases h; exact .of_receive hpoll
      case h_2 => contradiction
  | pollStep throws => exact .of_pollStep h
  | tick elapsed => cases h; exact .tick
  | setTimeout timeout => cases h; exact .setTimeout
  | lose o => cases h; exact .lose

end SpwRmap.Concurrent
