import SpwRmap.Bindings.Stop

/-!
# The data of a read

The callback of `read` copies the reply into a vector of the call that waits for it. The call
gives up after a second, but its callback stays in the table. So the callback finds the vector
unless its read has timed out. What `read` returns begins with the data of a reply to its own
operation. Nothing compares the length of the reply with the one asked for: behind a shorter one
the copy goes on with what lies in memory, and a write reply completes a read as well.
-/

namespace SpwRmap.Python

open Span Outcome Transition

/-- The operation and the vector of a call of `read`. -/
def UserPc.reading : UserPc → Option (Nat × List UInt8)
  | .waiting operation (some data) => some (operation, data)
  | _ => none

theorem UserPc.reading_eq_some_iff {user : UserPc} {operation : Nat} {data : List UInt8} :
    user.reading = some (operation, data) ↔ user = .waiting operation (some data) := by
  unfold reading
  split
  · simp
  · rename_i hnot
    exact ⟨(by rintro ⟨⟩), fun h => absurd h (hnot operation data)⟩

namespace PySpwRmapTCPNode

variable {self next : PySpwRmapTCPNode} {ndebug : Bool}

/-- The operation was completed by a reply, and if that is a read reply, the bytes are its data
as far as both go. -/
def Replied (node : Node) (operation : Nat) (data : List UInt8) : Prop :=
  ∃ packet, .onComplete operation packet ∈ node.events ∧
    (packet.type = .ReadReply → packet.data.take data.length <+: data)

theorem take_source (packet : Packet) (beyond : List UInt8) (size : Nat)
    (h : packet.type = .ReadReply) :
    packet.data.take size <+: (source packet beyond).take size := by
  rw [source, if_pos h, List.take_append]
  exact List.prefix_append ..

/-- What is known of the operations of `read`. -/
structure Reading (node : PySpwRmapTCPNode) : Prop where
  started : ∀ read ∈ node.reads, read.1 < node.node_.node.operations
  waited : ∀ operation data, node.user = .waiting operation (some data) →
    (operation, data.length) ∈ node.reads
  /-- A callback that is still to be run belongs to the call that waits, or to one that gave
  up. -/
  held : ∀ read ∈ node.reads, node.node_.node.value read.1 = none →
    (∃ data, node.user = .waiting read.1 (some data)) ∨ read.1 ∈ node.abandoned
  filled : ∀ operation data, node.user = .waiting operation (some data) →
    node.node_.node.value operation = some (.ok ()) → node.crash = none →
    Replied node.node_.node operation data
  returned : ∀ operation data, .read operation data ∈ node.results →
    (operation, data.length) ∈ node.reads ∧ Replied node.node_.node operation data
  dangling : ∀ operation, node.crash = some (.dangling operation) → operation ∈ node.abandoned

theorem Replied.mono {node node' : Node} {operation : Nat} {data : List UInt8}
    (h : Replied node operation data) (hevents : node.events <+: node'.events) :
    Replied node' operation data := by
  obtain ⟨packet, hmem, hdata⟩ := h
  exact ⟨packet, hevents.subset hmem, hdata⟩

theorem value_eq_of_kept {node node' : Node} (hevents : node.events <+: node'.events)
    {operation : Nat} {value : Except ErrorCode Unit} (h : node.value operation = some value) :
    node'.value operation = some value := by
  obtain ⟨more, hmore⟩ := hevents
  rw [Node.value, ← hmore, List.findSome?_append]
  rw [Node.value] at h
  rw [h]
  rfl

/-- A step that has nothing to do with a read. -/
structure Unread (before after : PySpwRmapTCPNode) : Prop where
  reads : after.reads = before.reads := by rfl
  abandoned : after.abandoned = before.abandoned := by rfl
  operations : after.node_.node.operations = before.node_.node.operations := by rfl
  events : after.node_.node.events = before.node_.node.events := by rfl
  results : ∀ operation data, .read operation data ∈ after.results →
    .read operation data ∈ before.results := by exact fun _ _ h => h
  user : after.user.reading = before.user.reading
  lives : after.crash = none → before.crash = none := by exact id
  dangling : ∀ operation, after.crash = some (.dangling operation) →
    before.crash = some (.dangling operation) := by exact fun _ h => h

namespace Unread

theorem answer (hidle : self.user.reading = none) {result : Result}
    (hresult : ∀ operation data, result ≠ .read operation data) :
    Unread self (self.answer result) where
  results := by
    intro operation data hmem
    refine (List.mem_append.mp hmem).resolve_right fun hnew => ?_
    exact hresult operation data (List.mem_singleton.mp hnew).symm
  user := hidle.symm

theorem abort {crash : Crash} (hcrash : ∀ operation, crash ≠ .dangling operation) :
    Unread self (self.abort crash) where
  user := rfl
  lives := by rintro ⟨⟩
  dangling := fun operation h => absurd (Option.some.inj h) (hcrash operation)

theorem joinThread_ {user : UserPc} (hjoin : self.joinThread_ user = some next)
    (huser : user.reading = self.user.reading) : Unread self next := by
  obtain ⟨-, rfl⟩ | ⟨-, rfl⟩ := joinThread_cases hjoin
  · exact { user := huser }
  · exact { user := huser }

theorem trans {a b c : PySpwRmapTCPNode} (h : Unread a b) (h' : Unread b c) : Unread a c where
  reads := h'.reads.trans h.reads
  abandoned := h'.abandoned.trans h.abandoned
  operations := h'.operations.trans h.operations
  events := h'.events.trans h.events
  results := fun operation data hmem => h.results operation data (h'.results operation data hmem)
  user := h'.user.trans h.user
  lives := fun hnone => h.lives (h'.lives hnone)
  dangling := fun operation hgone => h.dangling operation (h'.dangling operation hgone)

theorem rethrowThreadError_ : Unread self self.rethrowThreadError_.2 where
  user := rfl

end Unread

theorem Reading.unread (h : self.Reading) (hstep : Unread self next) : next.Reading := by
  have hvalue : ∀ operation, next.node_.node.value operation = self.node_.node.value operation := by
    intro operation
    rw [Node.value, hstep.events, Node.value]
  have hreplied : ∀ {operation data}, Replied self.node_.node operation data →
      Replied next.node_.node operation data := by
    intro operation data hreplied
    exact hreplied.mono (hstep.events ▸ List.prefix_rfl)
  have huser : ∀ operation data, next.user = .waiting operation (some data) ↔
      self.user = .waiting operation (some data) := by
    intro operation data
    rw [← UserPc.reading_eq_some_iff, ← UserPc.reading_eq_some_iff, hstep.user]
  constructor
  case started =>
    rw [hstep.reads, hstep.operations]
    exact h.started
  case waited =>
    intro operation data hwaits
    rw [hstep.reads]
    exact h.waited operation data ((huser _ _).mp hwaits)
  case held =>
    intro read hread hnone
    rw [hstep.reads] at hread
    rw [hvalue] at hnone
    rw [hstep.abandoned]
    obtain ⟨data, hwaits⟩ | hgone := h.held read hread hnone
    · exact .inl ⟨data, (huser _ _).mpr hwaits⟩
    · exact .inr hgone
  case filled =>
    intro operation data hwaits hdone hlives
    rw [hvalue] at hdone
    exact hreplied (h.filled operation data ((huser _ _).mp hwaits) hdone (hstep.lives hlives))
  case returned =>
    intro operation data hmem
    obtain ⟨hread, hdata⟩ := h.returned operation data (hstep.results _ _ hmem)
    exact ⟨hstep.reads ▸ hread, hreplied hdata⟩
  case dangling =>
    intro operation hgone
    rw [hstep.abandoned]
    exact h.dangling operation (hstep.dangling operation hgone)

theorem startStep_unread {sockets : Sockets} {pc : StartPc} (hpc : self.user = .start pc)
    (hserved : self.node_.Served) (hstep : self.startStep sockets pc = some next) :
    Unread self next := by
  have hreading : self.user.reading = none := by rw [hpc]; rfl
  cases pc with
  | join => exact .joinThread_ hstep hreading.symm
  | rethrow =>
      have hrethrown : Unread self self.rethrowThreadError_.2 := .rethrowThreadError_
      rw [startStep] at hstep
      split at hstep
      · rename_i e raised heq
        cases hstep
        rw [heq] at hrethrown
        exact hrethrown.trans (.answer (hrethrown.user.trans hreading) (by rintro _ _ ⟨⟩))
      · rename_i raised heq
        cases hstep
        rw [heq] at hrethrown
        exact hrethrown.trans { user := (hrethrown.user.trans hreading).symm }
  | connect =>
      rw [startStep] at hstep
      split at hstep
      · cases hstep
        exact .abort (by rintro _ ⟨⟩)
      · rename_i e node_ hconnect
        have hnode := (hserved.connect hconnect).2
        have hsame : Unread self { self with node_ := node_ } :=
          { operations := by rw [hnode], events := by rw [hnode], user := rfl }
        cases hstep
        exact hsame.trans (.answer (hsame.user.trans hreading) (by rintro _ _ ⟨⟩))
      · rename_i node_ hconnect
        have hnode := (hserved.connect hconnect).2
        cases hstep
        exact { operations := by rw [goto, hnode], events := by rw [goto, hnode],
                user := hreading.symm }
  | setConnected =>
      cases hstep
      exact { user := hreading.symm }
  | setRunning =>
      cases hstep
      exact { user := hreading.symm }
  | clearError =>
      cases hstep
      exact { user := hreading.symm }
  | spawn =>
      rw [startStep] at hstep
      split at hstep
      · cases hstep
        exact .abort (by rintro _ ⟨⟩)
      · cases hstep
        have hsame : Unread self { self with thread_ := true, loop := .receiving } :=
          { user := rfl }
        exact hsame.trans (.answer (hsame.user.trans hreading) (by rintro _ _ ⟨⟩))

theorem stopResult_ne_read (err : Option ErrorCode) (res : Except ErrorCode Unit) (operation : Nat)
    (data : List UInt8) : stopResult err res ≠ .read operation data := by
  cases err with
  | some e => rintro ⟨⟩
  | none =>
      cases res with
      | error e => rintro ⟨⟩
      | ok _ => rintro ⟨⟩

theorem stopStep_unread {sockets : Sockets} {destroying : Bool} {pc : StopPc}
    (hpc : self.user = .stop destroying pc)
    (hstep : self.stopStep sockets destroying pc = some next) : Unread self next := by
  have hreading : self.user.reading = none := by rw [hpc]; rfl
  cases pc with
  | either =>
      rw [stopStep] at hstep
      split at hstep
      · cases hstep
        exact { user := hreading.symm }
      · cases hstep
        exact { user := hreading.symm }
  | connected =>
      rw [stopStep] at hstep
      split at hstep
      · cases hstep
        exact { user := hreading.symm }
      · cases hstep
        exact { user := hreading.symm }
  | shutdown =>
      obtain ⟨hevents, hoperations⟩ := self.node_.shutdown_events sockets
      cases hstep
      exact { operations := hoperations, events := hevents, user := hreading.symm }
  | clearConnected res =>
      cases hstep
      exact { user := hreading.symm }
  | clearRunning res =>
      cases hstep
      exact { user := hreading.symm }
  | join res => exact .joinThread_ hstep hreading.symm
  | rethrow res =>
      have hrethrown : Unread self self.rethrowThreadError_.2 := .rethrowThreadError_
      cases destroying with
      | true =>
          cases hstep
          exact hrethrown.trans { user := hreading.symm }
      | false =>
          cases hstep
          exact hrethrown.trans
            (.answer (hrethrown.user.trans hreading) (stopResult_ne_read _ res))

/-- The future is ready, so that no callback is left for the call. -/
theorem futureStep_reading (h : self.Reading) (hcrash : self.crash = none) {operation : Nat}
    {data : Option (List UInt8)} (hpc : self.user = .waiting operation data)
    (hstep : self.futureStep operation data = some next) : next.Reading := by
  have hheld : ∀ value, self.node_.node.value operation = some value → ∀ read ∈ self.reads,
      self.node_.node.value read.1 = none → read.1 ∈ self.abandoned := by
    intro value hvalue read hread hnone
    obtain ⟨data', hwaits⟩ | hgone := h.held read hread hnone
    · rw [hpc] at hwaits
      cases hwaits
      rw [hvalue] at hnone
      contradiction
    · exact hgone
  have hanswer : ∀ value result, self.node_.node.value operation = some value →
      (∀ o bytes, result = .read o bytes →
        (o, bytes.length) ∈ self.reads ∧ Replied self.node_.node o bytes) →
      (self.answer result).Reading := by
    intro value result hvalue hresult
    constructor
    case started => exact h.started
    case waited => rintro _ _ ⟨⟩
    case held => exact fun read hread hnone => .inr (hheld value hvalue read hread hnone)
    case filled => rintro _ _ ⟨⟩
    case returned =>
      intro o bytes hmem
      obtain hold | hnew := List.mem_append.mp hmem
      · exact h.returned o bytes hold
      · exact hresult o bytes (List.mem_singleton.mp hnew).symm
    case dangling => exact h.dangling
  unfold futureStep at hstep
  split at hstep
  · contradiction
  · rename_i e hvalue
    cases hstep
    exact hanswer _ _ hvalue (by rintro _ _ ⟨⟩)
  · rename_i hvalue
    split at hstep
    · cases hstep
      exact hanswer _ _ hvalue (by rintro _ _ ⟨⟩)
    · rename_i data
      cases hstep
      apply hanswer _ _ hvalue
      rintro o bytes hread
      cases hread
      exact ⟨h.waited _ _ hpc, h.filled _ _ hpc hvalue hcrash⟩

/-- The call gives up, and its callback stays behind. -/
theorem expire_reading (h : self.Reading) (hstep : self.expire = some next) : next.Reading := by
  rw [expire] at hstep
  split at hstep
  · rename_i operation data hpc
    split at hstep
    · contradiction
    · cases hstep
      constructor
      case started => exact h.started
      case waited => rintro _ _ ⟨⟩
      case held =>
        intro read hread hnone
        refine .inr (List.mem_append.mpr ?_)
        obtain ⟨data', hwaits⟩ | hgone := h.held read hread hnone
        · rw [hpc] at hwaits
          cases hwaits
          exact .inr List.mem_cons_self
        · exact .inl hgone
      case filled => rintro _ _ ⟨⟩
      case returned =>
        intro o bytes hmem
        obtain hold | hnew := List.mem_append.mp hmem
        · exact h.returned o bytes hold
        · cases List.mem_singleton.mp hnew
      case dangling =>
        intro o hgone
        exact List.mem_append_left _ (h.dangling o hgone)
  · contradiction

/-- A new operation waits for its own reply. -/
theorem operate_reading (h : self.Reading) (hserved : self.node_.Served) (hidle : self.user = .idle)
    (target_node : PyTargetNode) (command : Command) (data : Option (List UInt8))
    (env : Environment) : (self.operate ndebug target_node command data env).Reading := by
  rw [operate]
  split
  · exact h.unread (.answer (by rw [hidle]; rfl) (by rintro _ _ ⟨⟩))
  · dsimp only
    split
    · exact h.unread (.abort (by rintro _ ⟨⟩))
    · rename_i answer node_ hasync
      obtain ⟨-, -, hfailures, hoperations⟩ := hserved.async hasync
      have hfresh : self.node_.node.value self.node_.node.operations = none :=
        (Node.value_eq_none_iff _).mpr (hserved.accounted.fresh _ (Nat.le_refl _)).1
      constructor
      case started =>
        intro read hread
        rw [hoperations]
        obtain hold | hnew := List.mem_append.mp hread
        · exact (h.started read hold).trans (Nat.lt_succ_self _)
        · obtain ⟨bytes, -, rfl⟩ := Option.map_eq_some_iff.mp (Option.mem_toList.mp hnew)
          exact Nat.lt_succ_self _
      case waited =>
        intro operation bytes hwaits
        cases hwaits
        exact List.mem_append_right _ List.mem_cons_self
      case held =>
        intro read hread hnone
        obtain hold | hnew := List.mem_append.mp hread
        · have hnone' : self.node_.node.value read.1 = none := by
            cases hvalue : self.node_.node.value read.1 with
            | none => rfl
            | some value =>
                rw [value_eq_of_kept hfailures.kept hvalue] at hnone
                contradiction
          obtain ⟨data', hwaits⟩ | hgone := h.held read hold hnone'
          · rw [hidle] at hwaits
            contradiction
          · exact .inr hgone
        · obtain ⟨bytes, hdata, rfl⟩ := Option.map_eq_some_iff.mp (Option.mem_toList.mp hnew)
          exact .inl ⟨bytes, congrArg (UserPc.waiting _) hdata⟩
      case filled =>
        intro operation bytes hwaits hdone _
        cases hwaits
        exact absurd hdone (Node.value_of_failures hfailures hfresh)
      case returned =>
        intro operation bytes hmem
        obtain ⟨hread, hdata⟩ := h.returned operation bytes hmem
        exact ⟨List.mem_append_left _ hread, hdata.mono hfailures.kept⟩
      case dangling => exact h.dangling

theorem value_completed {node node' : Node} {operation : Nat} {packet : Packet}
    (hevents : node'.events =
      node.events ++ [.onComplete operation packet, .setValue operation (.ok ())]) (o : Nat) :
    node'.value o = (node.value o).or (if operation = o then some (.ok ()) else none) := by
  rw [Node.value, hevents, List.findSome?_append]
  congr 1
  by_cases h : operation = o
  · simp [List.findSome?, Event.valueOf, h]
  · simp [List.findSome?, Event.valueOf, h]

/-- The callback of an operation is run. If it is one of `read`, the call waits for it or has
given up. -/
theorem completed_reading (h : self.Reading) {node_ : Client} {loop : LoopPc} {operation : Nat}
    {packet : Packet} (beyond : List UInt8) (hcrash : self.crash = none)
    (hnone : self.node_.node.value operation = none)
    (hoperations : node_.node.operations = self.node_.node.operations)
    (hevents : node_.node.events =
      self.node_.node.events ++ [.onComplete operation packet, .setValue operation (.ok ())]) :
    Reading (onComplete beyond { self with node_, loop } (.onComplete operation packet)) := by
  have hkept : self.node_.node.events <+: node_.node.events := hevents ▸ List.prefix_append ..
  have hbefore : ∀ o, node_.node.value o = none → self.node_.node.value o = none := by
    intro o hvalue
    rw [value_completed hevents, Option.or_eq_none_iff] at hvalue
    exact hvalue.1
  have hother : ∀ o, o ≠ operation → node_.node.value o = self.node_.node.value o := by
    intro o hne
    rw [value_completed hevents, if_neg hne.symm, Option.or_none]
  have hdone : node_.node.value operation = some (.ok ()) := by
    rw [value_completed hevents, hnone, if_pos rfl]
    rfl
  have hstarted : ∀ read ∈ self.reads, read.1 < node_.node.operations := by
    rw [hoperations]
    exact h.started
  have hreturned : ∀ o data, .read o data ∈ self.results →
      (o, data.length) ∈ self.reads ∧ Replied node_.node o data :=
    fun o data hmem => ⟨(h.returned o data hmem).1, (h.returned o data hmem).2.mono hkept⟩
  have hheld : ∀ read ∈ self.reads, node_.node.value read.1 = none →
      (∃ data, self.user = .waiting read.1 (some data)) ∨ read.1 ∈ self.abandoned :=
    fun read hread hvalue => h.held read hread (hbefore _ hvalue)
  -- The process dies in the callback.
  have hdead : ∀ crash : Crash, (∀ o, crash = .dangling o → o ∈ self.abandoned) →
      Reading { self with node_, loop, crash := some crash } := by
    intro crash hdangling
    refine ⟨hstarted, h.waited, hheld, (by rintro _ _ _ _ ⟨⟩), hreturned, ?_⟩
    intro o ho
    exact hdangling o (Option.some.inj ho)
  rw [onComplete]
  split
  · rename_i hread
    obtain ⟨⟨o, size⟩, hmem, rfl⟩ := List.mem_map.mp hread
    have hgone := h.held _ hmem hnone
    rw [copyReply]
    dsimp only at hgone hnone hdone hother hevents ⊢
    split
    · rename_i current data hpc
      split
      · rename_i hcurrent
        subst hcurrent
        split
        · rename_i hlength
          have hsame : ((source packet beyond).take data.length).length = data.length :=
            List.length_take_of_le hlength
          refine ⟨hstarted, ?_, ?_, ?_, hreturned, ?_⟩
          · intro o bytes hwaits
            cases hwaits
            rw [hsame]
            exact h.waited _ _ hpc
          · intro read hread hvalue
            obtain ⟨data', hwaits⟩ | hgone := hheld read hread hvalue
            · rw [hpc] at hwaits
              cases hwaits
              cases hdone.symm.trans hvalue
            · exact .inr hgone
          · intro o bytes hwaits _ _
            cases hwaits
            refine ⟨packet, ?_, fun htype => ?_⟩
            · rw [goto, hevents]
              exact List.mem_append_right _ List.mem_cons_self
            · rw [hsame]
              exact take_source packet beyond data.length htype
          · intro o ho
            rw [goto, hcrash] at ho
            contradiction
        · exact hdead _ (by rintro _ ⟨⟩)
      · rename_i hcurrent
        refine hdead _ ?_
        intro o ho
        cases ho
        refine hgone.resolve_left ?_
        rintro ⟨data', hwaits⟩
        rw [hpc] at hwaits
        cases hwaits
        exact hcurrent rfl
    · rename_i hpc
      refine hdead _ ?_
      intro o ho
      cases ho
      refine hgone.resolve_left ?_
      rintro ⟨data', hwaits⟩
      exact hpc _ _ hwaits
  · rename_i hread
    refine ⟨hstarted, h.waited, hheld, ?_, hreturned, ?_⟩
    · intro o data hwaits hvalue _
      have hne : o ≠ operation := by
        rintro rfl
        exact hread (List.mem_map.mpr ⟨_, h.waited o data hwaits, rfl⟩)
      rw [hother o hne] at hvalue
      exact (h.filled o data hwaits hvalue hcrash).mono hkept
    · exact h.dangling

theorem loopStep_reading (h : self.Reading) (hserved : self.node_.Served)
    (hcrash : self.crash = none) {sockets : Sockets} {env : Environment} {beyond : List UInt8}
    (hstep : self.loopStep ndebug sockets env beyond = some next) : next.Reading := by
  rw [loopStep] at hstep
  split at hstep
  case h_1 => contradiction
  case h_2 =>
    split at hstep
    · cases hstep
      exact h.unread (.abort (by rintro _ ⟨⟩))
    · rename_i res node_ hreceive
      cases hstep
      obtain ⟨⟨receiver, rfl⟩, -⟩ := Client.receive_cases hreceive
      exact h.unread { user := rfl }
  case h_3 =>
    split at hstep
    · cases hstep
      exact h.unread (.abort (by rintro _ ⟨⟩))
    · rename_i out node_ hdispatch
      cases hstep
      obtain ⟨-, hoperations, -, hsame | ⟨operation, packet, hnone, -, hevents⟩⟩ :=
        hserved.dispatch hdispatch
      · rw [hsame, List.drop_length]
        exact h.unread { operations := hoperations, events := hsame, user := rfl }
      · rw [hevents, List.drop_left]
        exact completed_reading h beyond hcrash hnone hoperations hevents
  case h_4 e hpc =>
    cases hstep
    exact h.unread { user := rfl }
  case h_5 =>
    cases hstep
    exact h.unread { user := rfl }
  case h_6 =>
    cases hstep
    exact h.unread { user := rfl }
  case h_7 => contradiction

theorem userStep_reading (h : self.Reading) (hserved : self.node_.Served)
    (hcrash : self.crash = none) {sockets : Sockets}
    (hstep : self.userStep sockets = some next) : next.Reading := by
  rw [userStep] at hstep
  split at hstep
  case h_1 => contradiction
  case h_2 pc hpc => exact h.unread (startStep_unread hpc hserved hstep)
  case h_3 destroying pc hpc => exact h.unread (stopStep_unread hpc hstep)
  case h_4 operation data hpc => exact futureStep_reading h hcrash hpc hstep
  case h_5 hpc =>
    split at hstep
    · contradiction
    · rename_i joined hjoin
      have hjoined : Unread self joined := .joinThread_ hjoin (by rw [hpc]; rfl)
      cases hstep
      split
      · exact h.unread (hjoined.trans (.abort (by rintro _ ⟨⟩)))
      · exact h.unread hjoined
  case h_6 => contradiction

theorem enter_reading (h : self.Reading) (hserved : self.node_.Served) (hidle : self.user = .idle)
    {l : Label} (hstep : self.enter ndebug l = some next) : next.Reading := by
  have hreading : self.user.reading = none := by rw [hidle]; rfl
  have hstop : ∀ destroying, (self.enterStop destroying).Reading := by
    intro destroying
    rw [enterStop]
    split
    · exact h.unread { user := hreading.symm }
    · exact h.unread { user := hreading.symm }
  cases l with
  | start =>
      cases hstep
      rw [enterStart]
      split
      · exact h.unread (.answer hreading (by rintro _ _ ⟨⟩))
      · split
        · exact h.unread { user := hreading.symm }
        · exact h.unread { user := hreading.symm }
  | stop =>
      cases hstep
      exact hstop false
  | destroy =>
      cases hstep
      exact hstop true
  | read target_node memory_address data_length env =>
      cases hstep
      exact operate_reading h hserved hidle ..
  | write target_node memory_address data env =>
      cases hstep
      exact operate_reading h hserved hidle ..
  | user sockets => contradiction
  | expire => contradiction
  | loop sockets env beyond => contradiction

theorem reading_of_reaches {source : Backend}
    (h : Reaches (step ndebug) always (new source) self) : self.Reading := by
  apply h.invariant
  · constructor
    case started => rintro _ ⟨⟩
    case waited => rintro _ _ ⟨⟩
    case held => rintro _ ⟨⟩
    case filled => rintro _ _ ⟨⟩
    case returned => rintro _ _ ⟨⟩
    case dangling => rintro _ ⟨⟩
  · intro s t l hreach _ hstep hs
    have hserved := (stopping_of_reaches hreach).served
    obtain ⟨hcrash, ⟨sockets, huser⟩ | hexpire | ⟨sockets, env, beyond, hloop⟩ | ⟨hidle, henter⟩⟩ :=
      step_cases hstep
    · exact userStep_reading hs hserved hcrash huser
    · exact expire_reading hs hexpire
    · exact loopStep_reading hs hserved hcrash hloop
    · exact enter_reading hs hserved hidle henter

/-- What a run says of its reads. -/
structure ReadsHold (node : PySpwRmapTCPNode) : Prop where
  returned : ∀ operation data, .read operation data ∈ node.results →
    (operation, data.length) ∈ node.reads ∧ Replied node.node_.node operation data
  dangling : ∀ operation, node.crash = some (.dangling operation) → operation ∈ node.abandoned

/-- However the calls and the thread interleave, what a `read` returns has the length that was
asked for and begins with the data of the reply that completed its own operation, if that is a
read reply; and a callback that writes to the vector of a call that is over belongs to a read
that has timed out. -/
theorem readsHold_of_reaches {source : Backend}
    (h : Reaches (step ndebug) always (new source) self) : ReadsHold self :=
  ⟨(reading_of_reaches h).returned, (reading_of_reaches h).dangling⟩

/-- The reply to the first read. -/
def firstReply (data : List UInt8) : Sockets where
  incoming := (Frame.single (ReadReplyPacketBuilder.wire
    { replyAddress := []
      initiatorLogicalAddress := 0xFE
      status := PacketStatusCode.CommandExecutedSuccessfully
      targetLogicalAddress := 0x34
      transactionID := 0x20
      data
      incrementMode := true })).encode

/-- A start and a read of four bytes. -/
def startThenRead : List Label :=
  [.start, .user {}, .user {}, .user {}, .user {}, .user {},
    .read { logical_address := 0x34 } 0x1000 4 {}]

/-- A read that is answered, one that is answered with too few bytes, and one that is answered
after it has timed out. -/
theorem readsHold_of_reaches_startThenRead :
    (∃ s, .read 0 [1, 2, 3, 4] ∈ s.results ∧ ReadsHold s) ∧
      (∃ s, .read 0 [1, 2, 9, 8] ∈ s.results ∧ ReadsHold s) ∧
      ∃ s, s.crash = some (.dangling 0) ∧ ReadsHold s := by
  refine ⟨?_, ?_, ?_⟩
  · obtain ⟨s, hreach, hread⟩ : ∃ s, Reaches (step true) always (new { incoming := [] }) s ∧
        .read 0 [1, 2, 3, 4] ∈ s.results := by
      apply Reaches.exists_of_run
        (startThenRead ++ [.loop (firstReply [1, 2, 3, 4]) {} [], .loop {} {} [], .user {}])
      decide +kernel
    exact ⟨s, hread, readsHold_of_reaches hreach⟩
  · obtain ⟨s, hreach, hread⟩ : ∃ s, Reaches (step true) always (new { incoming := [] }) s ∧
        .read 0 [1, 2, 9, 8] ∈ s.results := by
      apply Reaches.exists_of_run
        (startThenRead ++ [.loop (firstReply [1, 2]) {} [], .loop {} {} [9, 8, 7], .user {}])
      decide +kernel
    exact ⟨s, hread, readsHold_of_reaches hreach⟩
  · obtain ⟨s, hreach, hcrash⟩ : ∃ s, Reaches (step true) always (new { incoming := [] }) s ∧
        s.crash = some (.dangling 0) := by
      apply Reaches.exists_of_run
        (startThenRead ++
          [.expire, .loop (firstReply [1, 2, 3, 4]) {} [], .loop {} {} []])
      decide +kernel
    exact ⟨s, hcrash, readsHold_of_reaches hreach⟩

end PySpwRmapTCPNode

end SpwRmap.Python
