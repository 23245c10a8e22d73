import SpwRmap.Bindings.Dispatch

/-!
# A stop returns

`stop` waits for its thread without a limit. After a shutdown that succeeded the thread finds no
backend any more and ends after a few steps of its own. Where `stop` does not shut down, because
a flag tells it that there is no connection, the thread has ended before.
-/

namespace SpwRmap.Python

open Span Outcome Transition

namespace UserPc

/-- `stop` has cleared a flag itself. -/
def clears : UserPc → Bool
  | .stop _ (.clearRunning _) => true
  | .stop _ (.join _) => true
  | _ => false

/-- `stop` has found its client shut down. -/
def ends : UserPc → Bool
  | .stop _ (.clearConnected (.ok _)) => true
  | .stop _ (.clearRunning (.ok _)) => true
  | .stop _ (.join (.ok _)) => true
  | _ => false

end UserPc

namespace PySpwRmapTCPNode

variable {self next : PySpwRmapTCPNode} {ndebug : Bool}

/-- What is known of a thread that `stop` waits for. -/
structure Stopping (node : PySpwRmapTCPNode) : Prop where
  served : node.node_.Served
  announced : node.user.place = .announcing → node.connected_ = true
  /-- The thread clears this flag at its end, and no one else but `stop`. -/
  flagged : node.connected_ = false → node.user.clears = false →
    node.loop = .absent ∨ node.loop = .finished
  ending : node.user.ends = true →
    node.node_.hasBackend = false ∨ node.loop = .absent ∨ node.loop = .finished

namespace Stopping

/-- Moving on with a client that may have changed, from where no flag was cleared. -/
theorem move (h : self.Stopping) {node_ : Client} (hserved : node_.Served) {user : UserPc}
    (hclears : self.user.clears = false) (hplace : user.place ≠ .announcing)
    (hends : user.ends = false) : Stopping { self with node_, user } := by
  refine ⟨hserved, fun hannouncing => absurd hannouncing hplace,
    fun hconnected _ => h.flagged hconnected hclears, ?_⟩
  intro hending
  change user.ends = true at hending
  rw [hends] at hending
  contradiction

theorem answer (h : self.Stopping) (hclears : self.user.clears = false) (result : Result) :
    (self.answer result).Stopping := by
  have hmoved : Stopping { self with user := .idle } := h.move h.served hclears (by rintro ⟨⟩) rfl
  exact ⟨hmoved.served, hmoved.announced, hmoved.flagged, hmoved.ending⟩

theorem abort (h : self.Stopping) (crash : Crash) : (self.abort crash).Stopping :=
  ⟨h.served, h.announced, h.flagged, h.ending⟩

/-- After a join there is no thread. -/
theorem joinThread_ (h : self.Stopping) (horderly : self.Orderly) {user : UserPc}
    (hplace : user.place ≠ .announcing) (hjoin : self.joinThread_ user = some next) :
    next.Stopping := by
  obtain ⟨-, rfl⟩ | ⟨hthread, rfl⟩ := joinThread_cases hjoin
  · exact ⟨h.served, fun hannouncing => absurd hannouncing hplace, fun _ _ => .inl rfl,
      fun _ => .inr (.inl rfl)⟩
  · have hloop : self.loop = .absent := by
      by_contra hpresent
      rw [horderly.joinable.mpr hpresent] at hthread
      contradiction
    exact ⟨h.served, fun hannouncing => absurd hannouncing hplace, fun _ _ => .inl hloop,
      fun _ => .inr (.inl hloop)⟩

/-- The error of a thread says nothing about the connection. -/
theorem rethrowThreadError_ (h : self.Stopping) : self.rethrowThreadError_.2.Stopping :=
  ⟨h.served, h.announced, h.flagged, h.ending⟩

end Stopping

theorem startStep_stopping (h : self.Stopping) (horderly : self.Orderly) {sockets : Sockets}
    {pc : StartPc} (hpc : self.user = .start pc) (hstep : self.startStep sockets pc = some next) :
    next.Stopping := by
  have hclears : self.user.clears = false := by rw [hpc]; rfl
  cases pc with
  | join =>
      refine h.joinThread_ horderly ?_ hstep
      rintro ⟨⟩
  | rethrow =>
      have hrethrown := h.rethrowThreadError_
      have hsame : self.rethrowThreadError_.2.user.clears = false := hclears
      rw [startStep] at hstep
      split at hstep
      · rename_i e raised heq
        cases hstep
        rw [heq] at hrethrown hsame
        exact hrethrown.answer hsame _
      · rename_i raised heq
        cases hstep
        rw [heq] at hrethrown hsame
        exact hrethrown.move hrethrown.served hsame (by rintro ⟨⟩) rfl
  | connect =>
      rw [startStep] at hstep
      split at hstep
      · cases hstep
        exact h.abort _
      · rename_i e node_ hconnect
        cases hstep
        have hmoved : Stopping { self with node_ := node_, user := .idle } :=
          h.move (h.served.connect hconnect).1 hclears (by rintro ⟨⟩) rfl
        exact hmoved.answer rfl _
      · rename_i node_ hconnect
        cases hstep
        exact h.move (h.served.connect hconnect).1 hclears (by rintro ⟨⟩) rfl
  | setConnected =>
      cases hstep
      exact ⟨h.served, fun _ => rfl, (by rintro ⟨⟩), (by rintro ⟨⟩)⟩
  | setRunning =>
      cases hstep
      exact ⟨h.served, fun _ => h.announced (by rw [hpc]; rfl),
        fun hconnected _ => h.flagged hconnected hclears, (by rintro ⟨⟩)⟩
  | clearError =>
      cases hstep
      exact ⟨h.served, fun _ => h.announced (by rw [hpc]; rfl),
        fun hconnected _ => h.flagged hconnected hclears, (by rintro ⟨⟩)⟩
  | spawn =>
      have hconnected : self.connected_ = true := h.announced (by rw [hpc]; rfl)
      rw [startStep] at hstep
      split at hstep
      · cases hstep
        exact h.abort _
      · cases hstep
        refine ⟨h.served, (by rintro ⟨⟩), ?_, (by rintro ⟨⟩)⟩
        intro hclear
        cases hconnected.symm.trans hclear

theorem stopStep_stopping (h : self.Stopping) (horderly : self.Orderly) {sockets : Sockets}
    {destroying : Bool} {pc : StopPc} (hpc : self.user = .stop destroying pc)
    (hstep : self.stopStep sockets destroying pc = some next) : next.Stopping := by
  cases pc with
  | either =>
      have hclears : self.user.clears = false := by rw [hpc]; rfl
      rw [stopStep] at hstep
      split at hstep
      · cases hstep
        exact h.move h.served hclears (by rintro ⟨⟩) rfl
      · rename_i hconnected
        cases hstep
        exact ⟨h.served, (by rintro ⟨⟩), (by rintro _ ⟨⟩),
          fun _ => .inr (h.flagged (eq_false_of_ne_true hconnected) hclears)⟩
  | connected =>
      have hclears : self.user.clears = false := by rw [hpc]; rfl
      rw [stopStep] at hstep
      split at hstep
      · cases hstep
        exact h.move h.served hclears (by rintro ⟨⟩) rfl
      · rename_i hconnected
        cases hstep
        exact ⟨h.served, (by rintro ⟨⟩), (by rintro _ ⟨⟩),
          fun _ => .inr (h.flagged (eq_false_of_ne_true hconnected) hclears)⟩
  | shutdown =>
      have hclears : self.user.clears = false := by rw [hpc]; rfl
      have hserved := h.served.shutdown sockets
      have hdropped := @Client.hasBackend_shutdown self.node_ sockets
      rw [stopStep] at hstep
      revert hstep hserved hdropped
      generalize self.node_.shutdown sockets = ended
      obtain ⟨res, node_⟩ := ended
      intro hstep hserved hdropped
      cases hstep
      refine ⟨hserved, (by rintro ⟨⟩), fun hconnected _ => h.flagged hconnected hclears, ?_⟩
      intro hends
      cases res with
      | error e => contradiction
      | ok _ => exact .inl (hdropped rfl)
  | clearConnected res =>
      have hending : (UserPc.stop destroying (.clearConnected res)).ends = true → _ :=
        hpc ▸ h.ending
      cases hstep
      cases res with
      | error e => exact ⟨h.served, (by rintro ⟨⟩), (by rintro _ ⟨⟩), (by rintro ⟨⟩)⟩
      | ok _ => exact ⟨h.served, (by rintro ⟨⟩), (by rintro _ ⟨⟩), fun _ => hending rfl⟩
  | clearRunning res =>
      have hending : (UserPc.stop destroying (.clearRunning res)).ends = true → _ :=
        hpc ▸ h.ending
      cases hstep
      cases res with
      | error e => exact ⟨h.served, (by rintro ⟨⟩), (by rintro _ ⟨⟩), (by rintro ⟨⟩)⟩
      | ok _ => exact ⟨h.served, (by rintro ⟨⟩), (by rintro _ ⟨⟩), fun _ => hending rfl⟩
  | join res =>
      refine h.joinThread_ horderly ?_ hstep
      rintro ⟨⟩
  | rethrow res =>
      have hclears : self.user.clears = false := by rw [hpc]; rfl
      have hrethrown := h.rethrowThreadError_
      cases destroying with
      | true =>
          cases hstep
          exact hrethrown.move hrethrown.served hclears (by rintro ⟨⟩) rfl
      | false =>
          cases hstep
          exact hrethrown.answer hclears _

theorem userStep_stopping (h : self.Stopping) (horderly : self.Orderly) {sockets : Sockets}
    (hstep : self.userStep sockets = some next) : next.Stopping := by
  rw [userStep] at hstep
  split at hstep
  case h_1 => contradiction
  case h_2 pc hpc => exact startStep_stopping h horderly hpc hstep
  case h_3 destroying pc hpc => exact stopStep_stopping h horderly hpc hstep
  case h_4 operation data hpc =>
    have hclears : self.user.clears = false := by rw [hpc]; rfl
    unfold futureStep at hstep
    split at hstep
    · contradiction
    · cases hstep
      exact h.answer hclears _
    · split at hstep
      · cases hstep
        exact h.answer hclears _
      · cases hstep
        exact h.answer hclears _
  case h_5 hpc =>
    split at hstep
    · contradiction
    · rename_i joined hjoin
      have hjoined : joined.Stopping := by
        refine h.joinThread_ horderly ?_ hjoin
        rintro ⟨⟩
      cases hstep
      split
      · exact hjoined.abort _
      · exact hjoined
  case h_6 => contradiction

theorem onComplete_stopping (h : self.Stopping) (beyond : List UInt8) (event : Event) :
    (self.onComplete beyond event).Stopping := by
  cases event with
  | onComplete operation packet =>
      rw [onComplete]
      split
      · rw [copyReply]
        split
        · rename_i hpc
          split
          · split
            · exact h.move h.served (by rw [hpc]; rfl) (by rintro ⟨⟩) rfl
            · exact h.abort _
          · exact h.abort _
        · exact h.abort _
      · exact h
  | _ => exact h

theorem foldl_onComplete_stopping (h : self.Stopping) (beyond : List UInt8)
    (events : List Event) : (events.foldl (onComplete beyond) self).Stopping := by
  induction events generalizing self with
  | nil => exact h
  | cons event events ih => exact ih (onComplete_stopping h beyond event)

/-- A step of a thread that has not ended. The backend does not come back. -/
theorem Stopping.loop (h : self.Stopping)
    (hneither : ¬(self.loop = .absent ∨ self.loop = .finished)) {node_ : Client}
    (hserved : node_.Served)
    (hdropped : self.node_.hasBackend = false → node_.hasBackend = false) (loop : LoopPc) :
    Stopping { self with node_, loop } := by
  refine ⟨hserved, h.announced, ?_, ?_⟩
  · intro hconnected hclears
    exact absurd (h.flagged hconnected hclears) hneither
  · intro hends
    exact .inl (hdropped ((h.ending hends).resolve_right hneither))

theorem loopStep_stopping (h : self.Stopping) (horderly : self.Orderly) {sockets : Sockets}
    {env : Environment} {beyond : List UInt8}
    (hstep : self.loopStep ndebug sockets env beyond = some next) : next.Stopping := by
  rw [loopStep] at hstep
  split at hstep
  case h_1 => contradiction
  case h_2 hpc =>
    split at hstep
    · cases hstep
      exact h.abort _
    · rename_i res node_ hreceive
      cases hstep
      have hbackend := (Client.receive_cases hreceive).2.1
      exact h.loop (by rw [hpc]; simp) (h.served.receive hreceive)
        (fun hnone => hbackend.trans hnone) _
  case h_3 res hpc =>
    split at hstep
    · cases hstep
      exact h.abort _
    · rename_i out node_ hdispatch
      cases hstep
      apply foldl_onComplete_stopping
      have hdispatched := h.served.dispatch hdispatch
      exact h.loop (by rw [hpc]; simp) hdispatched.served hdispatched.dropped _
  case h_4 e hpc =>
    cases hstep
    have hmoved := h.loop (by rw [hpc]; simp) h.served id .clearRunning
    exact ⟨hmoved.served, hmoved.announced, hmoved.flagged, hmoved.ending⟩
  case h_5 hpc =>
    cases hstep
    have hmoved := h.loop (by rw [hpc]; simp) h.served id .clearConnected
    exact ⟨hmoved.served, hmoved.announced, hmoved.flagged, hmoved.ending⟩
  case h_6 hpc =>
    cases hstep
    refine ⟨h.served, ?_, fun _ _ => .inr rfl, fun _ => .inr (.inr rfl)⟩
    intro hannouncing
    have habsent := horderly.absent_of_place (by rw [hannouncing]; rintro ⟨⟩)
    cases hpc.symm.trans habsent
  case h_7 => contradiction

theorem operate_stopping (h : self.Stopping) (hidle : self.user = .idle)
    (target_node : PyTargetNode) (command : Command) (data : Option (List UInt8))
    (env : Environment) : (self.operate ndebug target_node command data env).Stopping := by
  have hclears : self.user.clears = false := by rw [hidle]; rfl
  rw [operate]
  split
  · exact h.answer hclears _
  · dsimp only
    split
    · exact h.abort _
    · rename_i answer node_ hasync
      have hmoved : Stopping
          { self with node_ := node_, user := .waiting self.node_.node.operations data } :=
        h.move (h.served.async hasync).1 hclears (by rintro ⟨⟩) rfl
      exact ⟨hmoved.served, hmoved.announced, hmoved.flagged, hmoved.ending⟩

theorem enter_stopping (h : self.Stopping) (hidle : self.user = .idle) {l : Label}
    (hstep : self.enter ndebug l = some next) : next.Stopping := by
  have hclears : self.user.clears = false := by rw [hidle]; rfl
  have hstop : ∀ destroying, (self.enterStop destroying).Stopping := by
    intro destroying
    rw [enterStop]
    split
    · exact h.move h.served hclears (by rintro ⟨⟩) rfl
    · exact h.move h.served hclears (by rintro ⟨⟩) rfl
  cases l with
  | start =>
      cases hstep
      rw [enterStart]
      split
      · exact h.answer hclears _
      · split
        · exact h.move h.served hclears (by rintro ⟨⟩) rfl
        · exact h.move h.served hclears (by rintro ⟨⟩) rfl
  | stop =>
      cases hstep
      exact hstop false
  | destroy =>
      cases hstep
      exact hstop true
  | read target_node memory_address data_length env =>
      cases hstep
      exact operate_stopping h hidle ..
  | write target_node memory_address data env =>
      cases hstep
      exact operate_stopping h hidle ..
  | user sockets => contradiction
  | expire => contradiction
  | loop sockets env beyond => contradiction

theorem expire_stopping (h : self.Stopping) (hstep : self.expire = some next) :
    next.Stopping := by
  rw [expire] at hstep
  split at hstep
  · rename_i operation data hpc
    split at hstep
    · contradiction
    · cases hstep
      have hanswered := h.answer (by rw [hpc]; rfl) (.raised (.errc .timed_out))
      exact ⟨hanswered.served, hanswered.announced, hanswered.flagged, hanswered.ending⟩
  · contradiction

theorem stopping_of_reaches {source : Backend}
    (h : Reaches (step ndebug) always (new source) self) : self.Stopping := by
  apply h.invariant
  · constructor
    case served => exact ⟨Node.ofConfig_accounted _ source, by rintro ⟨⟩⟩
    case flagged => exact fun _ _ => .inl rfl
    all_goals rintro ⟨⟩
  · intro s t l hreach _ hstep hs
    have horderly := orderly_of_reaches hreach
    obtain ⟨-, ⟨sockets, huser⟩ | hexpire | ⟨sockets, env, beyond, hloop⟩ | ⟨hidle, henter⟩⟩ :=
      step_cases hstep
    · exact userStep_stopping hs horderly huser
    · exact expire_stopping hs hexpire
    · exact loopStep_stopping hs horderly hloop
    · exact enter_stopping hs hidle henter

/-- The callbacks leave the thread alone, and a `stop` as well. -/
structure Beside (before after : PySpwRmapTCPNode) : Prop where
  node_ : after.node_ = before.node_
  thread_ : after.thread_ = before.thread_
  loop : after.loop = before.loop
  user : ∀ destroying pc, before.user = .stop destroying pc → after.user = .stop destroying pc

theorem onComplete_beside (self : PySpwRmapTCPNode) (beyond : List UInt8) (event : Event) :
    Beside self (self.onComplete beyond event) := by
  cases event with
  | onComplete operation packet =>
      have habort : ∀ crash, Beside self (self.abort crash) :=
        fun _ => ⟨rfl, rfl, rfl, fun _ _ h => h⟩
      rw [onComplete]
      split
      · rw [copyReply]
        split
        · rename_i hpc
          split
          · split
            · refine ⟨rfl, rfl, rfl, fun destroying pc hstop => ?_⟩
              cases hpc.symm.trans hstop
            · exact habort _
          · exact habort _
        · exact habort _
      · exact ⟨rfl, rfl, rfl, fun _ _ h => h⟩
  | _ => exact ⟨rfl, rfl, rfl, fun _ _ h => h⟩

theorem foldl_onComplete_beside (self : PySpwRmapTCPNode) (beyond : List UInt8)
    (events : List Event) : Beside self (events.foldl (onComplete beyond) self) := by
  induction events generalizing self with
  | nil => exact ⟨rfl, rfl, rfl, fun _ _ h => h⟩
  | cons event events ih =>
      obtain ⟨hnode, hthread, hloop, huser⟩ := onComplete_beside self beyond event
      obtain ⟨hnode', hthread', hloop', huser'⟩ := ih (self.onComplete beyond event)
      exact ⟨hnode'.trans hnode, hthread'.trans hthread, hloop'.trans hloop,
        fun destroying pc h => huser' _ _ (huser _ _ h)⟩

end PySpwRmapTCPNode

/-- How many steps the thread still takes at most, once there is no backend. -/
def LoopPc.remaining : LoopPc → Nat
  | .absent => 0
  | .finished => 0
  | .clearConnected => 1
  | .clearRunning => 2
  | .failing _ => 3
  | .received (.error _) => 3
  | .received (.ok 0) => 3
  | .receiving => 4
  | .received (.ok (_ + 1)) => 5

theorem LoopPc.remaining_le (pc : LoopPc) : pc.remaining ≤ 5 := by
  cases pc with
  | received res =>
      cases res with
      | error e => exact Nat.le_add_left ..
      | ok size =>
          cases size with
          | zero => exact Nat.le_add_left ..
          | succ size => exact Nat.le_refl _
  | _ => exact Nat.le_add_left ..

theorem LoopPc.remaining_eq_zero_iff {pc : LoopPc} :
    pc.remaining = 0 ↔ pc = .absent ∨ pc = .finished := by
  constructor
  · intro h
    cases pc with
    | absent => exact .inl rfl
    | finished => exact .inr rfl
    | received res =>
        cases res with
        | error e => contradiction
        | ok size =>
            cases size with
            | zero => contradiction
            | succ size => contradiction
    | _ => contradiction
  · rintro (rfl | rfl)
    · rfl
    · rfl

namespace PySpwRmapTCPNode

variable {self next : PySpwRmapTCPNode} {ndebug : Bool}

/-- A dispatch without a backend: nothing but a packet received before keeps the thread in its
loop. -/
theorem dispatch_remaining (hserved : self.node_.Served) (hnone : self.node_.hasBackend = false)
    {sockets : Sockets} {env : Environment} {res : Except ErrorCode Nat}
    {out : Except ErrorCode Bool} {node_ : Client}
    (h : self.node_.dispatch ndebug sockets env res = .ok (out, node_)) :
    (LoopPc.after out).remaining < (LoopPc.received res).remaining := by
  cases res with
  | error e =>
      rw [Client.dispatch, if_pos (hserved.ended hnone)] at h
      cases h
      exact Nat.lt_succ_self 2
  | ok size =>
      cases size with
      | zero =>
          have hnot := ne_of_eq_of_ne hnone Bool.false_ne_true
          rw [Client.dispatch, Client.shutdown, if_neg hnot] at h
          cases h
          exact Nat.lt_succ_self 2
      | succ size =>
          obtain hafter | hafter | ⟨e, hafter⟩ := LoopPc.after_cases out
          · rw [hafter]
            exact Nat.lt_succ_self 4
          · rw [hafter]
            exact Nat.lt_of_sub_eq_succ rfl
          · rw [hafter]
            exact Nat.lt_of_sub_eq_succ rfl

theorem loopStep_remaining (ndebug : Bool) (h : self.Stopping)
    (hnone : self.node_.hasBackend = false) {destroying : Bool} {pc : StopPc}
    (hpc : self.user = .stop destroying pc) (hpositive : 0 < self.loop.remaining)
    (sockets : Sockets) (env : Environment) (beyond : List UInt8) :
    ∃ next, self.loopStep ndebug sockets env beyond = some next ∧
      (next.crash = none → next.loop.remaining < self.loop.remaining ∧
        next.user = .stop destroying pc ∧ next.node_.hasBackend = false) := by
  obtain ⟨hserved, -⟩ := h
  rw [loopStep]
  split
  case h_1 hloop =>
    rw [hloop] at hpositive
    contradiction
  case h_2 hloop =>
    split
    · exact ⟨_, rfl, (by rintro ⟨⟩)⟩
    · rename_i res node_ hreceive
      obtain ⟨-, hbackend, herror⟩ := Client.receive_cases hreceive
      refine ⟨_, rfl, fun _ => ⟨?_, hpc, hbackend.trans hnone⟩⟩
      rw [hloop, herror hnone]
      exact Nat.lt_succ_self 3
  case h_3 res hloop =>
    split
    · exact ⟨_, rfl, (by rintro ⟨⟩)⟩
    · rename_i out node_ hdispatch
      refine ⟨_, rfl, fun _ => ?_⟩
      obtain ⟨hnode, -, hafter, huser⟩ := foldl_onComplete_beside
        { self with node_ := node_, loop := .after out } beyond
        (node_.node.events.drop self.node_.node.events.length)
      rw [hnode, hafter, huser _ _ hpc, hloop]
      exact ⟨dispatch_remaining hserved hnone hdispatch, rfl,
        (hserved.dispatch hdispatch).dropped hnone⟩
  case h_4 e hloop =>
    refine ⟨_, rfl, fun _ => ⟨?_, hpc, hnone⟩⟩
    rw [hloop]
    exact Nat.lt_succ_self 2
  case h_5 hloop =>
    refine ⟨_, rfl, fun _ => ⟨?_, hpc, hnone⟩⟩
    rw [hloop]
    exact Nat.lt_succ_self 1
  case h_6 hloop =>
    refine ⟨_, rfl, fun _ => ⟨?_, hpc, hnone⟩⟩
    rw [hloop]
    exact Nat.lt_succ_self 0
  case h_7 hloop =>
    rw [hloop] at hpositive
    contradiction

/-- The join of a `stop` can return. -/
def Joins (ndebug : Bool) (destroying : Bool) (node : PySpwRmapTCPNode) : Prop :=
  ∀ sockets, ∃ next, node.step ndebug (.user sockets) = some next ∧
    next.user = .stop destroying (.rethrow (.ok ()))

theorem joins_of_remaining {destroying : Bool} (hcrash : self.crash = none)
    (hpc : self.user = .stop destroying (.join (.ok ()))) (horderly : self.Orderly)
    (hzero : self.loop.remaining = 0) : Joins ndebug destroying self := by
  intro sockets
  simp only [step, hcrash, Option.isSome_none, Bool.false_eq_true, if_false, userStep, hpc,
    stopStep, joinThread_]
  split
  · rename_i hthread
    have hloop : self.loop = .finished := by
      have hpresent := horderly.joinable.mp hthread
      exact (LoopPc.remaining_eq_zero_iff.mp hzero).resolve_left hpresent
    rw [hloop]
    exact ⟨_, rfl, rfl⟩
  · exact ⟨_, rfl, rfl⟩

/-- By induction on the steps that the thread may take. -/
theorem joins_of_rounds {source : Backend} {destroying : Bool}
    (hreach : Reaches (step ndebug) always (new source) self) (hcrash : self.crash = none)
    (hpc : self.user = .stop destroying (.join (.ok ())))
    (hended : self.node_.hasBackend = false ∨ self.loop.remaining = 0)
    (rounds : List (Sockets × Environment × List UInt8)) (hrounds : self.loop.remaining ≤ rounds.length) :
    ∃ taken last, taken <+: rounds ∧
      run (step ndebug) always self
        (taken.map fun round => .loop round.1 round.2.1 round.2.2) = some last ∧
      (last.crash ≠ none ∨ Joins ndebug destroying last) := by
  induction rounds generalizing self with
  | nil =>
      have hzero : self.loop.remaining = 0 := Nat.le_zero.mp hrounds
      exact ⟨[], self, List.prefix_rfl, rfl,
        .inr (joins_of_remaining hcrash hpc (orderly_of_reaches hreach) hzero)⟩
  | cons round rounds ih =>
      obtain ⟨sockets, env, beyond⟩ := round
      by_cases hzero : self.loop.remaining = 0
      · exact ⟨[], self, List.nil_prefix, rfl,
          .inr (joins_of_remaining hcrash hpc (orderly_of_reaches hreach) hzero)⟩
      · have hnone := hended.resolve_right hzero
        obtain ⟨next, hloop, hnext⟩ := loopStep_remaining ndebug
          (stopping_of_reaches hreach) hnone hpc (Nat.pos_of_ne_zero hzero) sockets env beyond
        have hstep : self.step ndebug (.loop sockets env beyond) = some next := by
          simp only [step, hcrash, Option.isSome_none, Bool.false_eq_true, if_false]
          exact hloop
        by_cases hcrash' : next.crash = none
        · obtain ⟨hless, hpc', hnone'⟩ := hnext hcrash'
          obtain ⟨taken, last, hprefix, hrun, hlast⟩ := ih (.snoc hreach trivial hstep) hcrash' hpc'
            (.inl hnone') (Nat.le_of_lt_succ (hless.trans_le hrounds))
          refine ⟨(sockets, env, beyond) :: taken, last, List.cons_prefix_cons.mpr ⟨rfl, hprefix⟩, ?_,
            hlast⟩
          rw [List.map_cons, run, if_pos trivial, hstep]
          exact hrun
        · refine ⟨[(sockets, env, beyond)], next, List.cons_prefix_cons.mpr ⟨rfl, List.nil_prefix⟩, ?_,
            .inl hcrash'⟩
          rw [List.map_singleton, run, if_pos trivial, hstep]
          rfl

/-- A `stop` whose shutdown succeeded returns: whatever the sockets and the environment answer,
its thread ends within five steps, and then the join does not wait. -/
theorem stop_returns {source : Backend} {destroying : Bool}
    (hreach : Reaches (step ndebug) always (new source) self) (hcrash : self.crash = none)
    (hpc : self.user = .stop destroying (.join (.ok ())))
    (rounds : List (Sockets × Environment × List UInt8)) (hrounds : 5 ≤ rounds.length) :
    ∃ taken last, taken <+: rounds ∧ taken.length ≤ 5 ∧
      run (step ndebug) always self
        (taken.map fun round => .loop round.1 round.2.1 round.2.2) = some last ∧
      (last.crash ≠ none ∨ Joins ndebug destroying last) := by
  have hended : self.node_.hasBackend = false ∨ self.loop.remaining = 0 := by
    rw [LoopPc.remaining_eq_zero_iff]
    apply (stopping_of_reaches hreach).ending
    rw [hpc]
    rfl
  have hfive : (rounds.take 5).length = 5 := List.length_take_of_le hrounds
  obtain ⟨taken, last, hprefix, hrun, hlast⟩ := joins_of_rounds hreach hcrash hpc hended
    (rounds.take 5) (self.loop.remaining_le.trans_eq hfive.symm)
  exact ⟨taken, last, hprefix.trans (List.take_prefix ..), hprefix.length_le.trans_eq hfive, hrun,
    hlast⟩

/-- A start, and a stop before the thread has received anything. -/
def startThenStop : List Label :=
  [.start, .user {}, .user {}, .user {}, .user {}, .user {}, .stop, .user {}, .user {}, .user {},
    .user {}]

theorem stop_returns_startThenStop : ∃ s : PySpwRmapTCPNode,
    (s.thread_ = true ∧ s.loop.remaining = 4) ∧
    ∃ taken last, taken <+: List.replicate 5 (({}, {}, []) : Sockets × Environment × List UInt8) ∧
      taken.length ≤ 5 ∧
      run (step true) always s
        (taken.map fun round => .loop round.1 round.2.1 round.2.2) = some last ∧
      (last.crash ≠ none ∨ Joins true false last) := by
  obtain ⟨s, hrun⟩ : ∃ s, run (step true) always (new { incoming := [] }) startThenStop = some s :=
    ⟨_, rfl⟩
  have hcrash : s.crash = none := eq_of_map_run hrun _ rfl
  have hpc : s.user = .stop false (.join (.ok ())) := eq_of_map_run hrun _ rfl
  have hthread : s.thread_ = true := eq_of_map_run hrun _ rfl
  have hremaining : s.loop.remaining = 4 := eq_of_map_run hrun (fun s => s.loop.remaining) rfl
  exact ⟨s, ⟨hthread, hremaining⟩, stop_returns (.of_run hrun) hcrash hpc _ (Nat.le_refl _)⟩

end PySpwRmapTCPNode

end SpwRmap.Python
