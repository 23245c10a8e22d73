import SpwRmap.Node.Accounts
import SpwRmap.Node.Link

/-!
# An exchange comes to an end

While a command of the initiator is under way, one of the two nodes has something to receive,
and its `poll` takes this command a step further: from the stream to the target into the stream
to the initiator, or out of it. So the nodes cannot get stuck, and after a number of polls that
is known beforehand everything is done: all promises have their values and all transaction
identifiers are available again. The commands are those that the headers can hold, and their
sends have succeeded.
-/

namespace SpwRmap

open Outcome Transition

/-- Called by the receiving thread of one side. -/
def Link.Label.IsPoll : Link.Label → Prop
  | .start _ _ _ => False
  | _ => True

namespace Link

/-- How many polls the commands under way still need: two as long as the command is in its
stream, one for a reply. -/
def undone (s : Link) : Nat :=
  2 * (s.issued.length - s.executions.length) + (s.executions.length - s.completions.length)

/-- The operations under way are those without a value, and the slots are accounted for. -/
structure Tracked (s : Link) (completed answered : List (Issue × Event)) (pending : List Issue) :
    Prop where
  linked : Linked s completed answered pending
  accounted : s.initiator.Accounted []
  waiting : ∀ operation < s.initiator.operations, s.initiator.settled operation = 0 →
    ∃ issue ∈ answered.map Prod.fst ++ pending, issue.operation = operation

/-- What an exchange has come to when nothing is under way. -/
structure Finished (s : Link) : Prop where
  executed : s.executions.length = s.issued.length
  completed : s.completions.length = s.issued.length
  settled : ∀ operation < s.initiator.operations, s.initiator.settled operation = 1
  available : ∀ i < s.initiator.range.total,
    s.initiator.table.available_transaction_ids_ i = true

/-- An exchange can always go on to its end, and has to. -/
structure Drains (setting : Setting) (s : Link) : Prop where
  /-- While something is under way, one side can poll. -/
  progress : s.undone ≠ 0 → ∀ env, (∃ s', step setting s (.pollTarget env) = some s') ∨
    ∃ s', step setting s (.pollInitiator env) = some s'
  /-- Every poll is one of those that are needed, and after the last of them all is done. -/
  polls : ∀ ls s', (∀ l ∈ ls, l.IsPoll ∧ l.Admissible) →
    run (step setting) always s ls = some s' →
      ls.length + s'.undone = s.undone ∧ s'.issued = s.issued ∧ (s'.undone = 0 → s'.Finished)

section Steps

variable {setting : Setting} {s s' : Link} {completed answered : List (Issue × Event)}
  {pending : List Issue}

theorem Linked.undone_eq (h : Linked s completed answered pending) :
    s.undone = 2 * pending.length + answered.length := by
  have hexecutions : s.executions.length = completed.length + answered.length := by
    rw [Link.executions, h.executions, List.length_map, List.length_append]
  have hcompletions : s.completions.length = completed.length := h.answers.length_eq.symm
  have hissued : s.issued.length = completed.length + answered.length + pending.length := by
    rw [h.issued, List.length_append, List.length_map, List.length_append]
  rw [undone, hexecutions, hcompletions, hissued]
  omega

theorem settled_append_eq_zero {events : List Event} {operation o : Nat}
    {value : Except ErrorCode Unit}
    (h : (events ++ [Event.setValue o value]).countP (Event.settles operation) = 0) :
    o ≠ operation ∧ events.countP (Event.settles operation) = 0 := by
  rw [Node.settled_append, Nat.add_eq_zero_iff] at h
  refine ⟨?_, h.1⟩
  rintro rfl
  simp at h

theorem Accounted.carry (h : s.initiator.Accounted []) : s.carry.initiator.Accounted [] :=
  h.congr rfl rfl rfl fun _ => rfl

/-- A command that is issued waits for its reply, one that is refused has its error. -/
theorem Tracked.start (h : Tracked s completed answered pending) {env : Environment}
    {target_node : TargetNode} {command : Command}
    (hadmissible : admissible s (.start env target_node command))
    (hstep : step setting s (.start env target_node command) = some s') :
    ∃ pending', Tracked s' completed answered pending' := by
  obtain ⟨hunexpired, hsend, htarget, hlength⟩ := hadmissible
  have hscan : s.initiator.Unexpired env := by
    intro i hexpired
    rw [unexpired, hexpired] at hunexpired
    contradiction
  obtain ⟨operation, node, hstart, hstarted⟩ := Node.start_started setting.ndebug
    h.linked.initiator hsend htarget hscan hlength
  have haccounted := Node.start_accounted h.accounted setting.ndebug env target_node command
  rw [hstart] at haccounted
  rw [step.eq_def, if_neg (by simp [h.linked.faultless])] at hstep
  simp only [hstart] at hstep
  cases hstep
  cases hstarted with
  | refused table buf e hkeeps =>
      refine ⟨pending, h.linked.refuse hkeeps, Accounted.carry haccounted.1, ?_⟩
      intro o ho hunset
      obtain ⟨hne, hbefore⟩ := settled_append_eq_zero hunset
      exact h.waiting o (Nat.lt_of_le_of_ne (Nat.le_of_lt_succ ho) hne.symm) hbefore
  | issued i now buf hi havailable =>
      refine ⟨_, h.linked.issue hi havailable htarget hlength, Accounted.carry haccounted.1, ?_⟩
      intro o ho hunset
      rw [← List.append_assoc]
      obtain hlt | rfl := Nat.lt_succ_iff_lt_or_eq.mp ho
      · obtain ⟨issue, hissue, heq⟩ := h.waiting o hlt hunset
        exact ⟨issue, List.mem_append_left _ hissue, heq⟩
      · exact ⟨_, List.mem_append_right _ List.mem_cons_self, rfl⟩

/-- The target turns a command of its stream into a reply of the other. -/
theorem Tracked.pollTarget (h : Tracked s completed answered pending) {env : Environment}
    (hadmissible : (Label.pollTarget env).Admissible)
    (hstep : step setting s (.pollTarget env) = some s') :
    ∃ answered' pending', Tracked s' completed answered' pending' ∧
      s'.issued = s.issued ∧ s'.undone + 1 = s.undone := by
  obtain ⟨hsend, hserves⟩ := hadmissible
  rw [step.eq_def, if_neg (by simp [h.linked.faultless])] at hstep
  dsimp only at hstep
  split at hstep
  · contradiction
  · rename_i hstream
    cases pending with
    | nil => exact absurd h.linked.requests hstream
    | cons issue pending =>
        obtain ⟨htarget, hlength⟩ := h.linked.addressable issue List.mem_cons_self
        obtain ⟨node, event, hpoll, hserved, hexecutes, hanswerable⟩ :=
          Node.poll_command setting.ndebug setting.target h.linked.target hsend hserves
            s.initiator htarget issue.transaction_id hlength h.linked.requests
        simp only [hpoll] at hstep
        cases hstep
        have hlinked := h.linked.execute hserved hexecutes hanswerable
        refine ⟨_, _, ⟨hlinked, Accounted.carry h.accounted, ?_⟩, rfl, ?_⟩
        · intro o ho hunset
          rw [List.map_append, List.append_assoc]
          exact h.waiting o ho hunset
        · rw [hlinked.undone_eq, h.linked.undone_eq]
          simp only [List.length_append, List.length_cons, List.length_nil]
          omega

/-- The initiator takes a reply out of its stream, and the operation gets its value. -/
theorem Tracked.pollInitiator (h : Tracked s completed answered pending) {env : Environment}
    (hstep : step setting s (.pollInitiator env) = some s') :
    ∃ completed' answered', Tracked s' completed' answered' pending ∧
      s'.issued = s.issued ∧ s'.undone + 1 = s.undone := by
  rw [step.eq_def, if_neg (by simp [h.linked.faultless])] at hstep
  dsimp only at hstep
  split at hstep
  · contradiction
  · rename_i hstream
    cases answered with
    | nil => exact absurd h.linked.replies hstream
    | cons exchange answered =>
        obtain ⟨issue, event⟩ := exchange
        obtain ⟨i, hi, hid, -, hcallback⟩ := h.linked.outstanding.waiting issue (by simp)
        have hindex : s.initiator.range.index issue.transaction_id = some i := by
          rw [hid]
          exact s.initiator.range.index_identifier hi
        obtain ⟨node, packet, hpoll, hcompleted, htransaction, hreports⟩ :=
          Node.poll_answer setting.ndebug setting.initiator env h.linked.initiator
            (h.linked.answerable _ List.mem_cons_self) hindex hcallback h.linked.replies
        simp only [hpoll] at hstep
        cases hstep
        have hlinked := h.linked.complete hcompleted hindex htransaction hreports
        obtain ⟨value, hnode⟩ := hcompleted.others
        have hevents : ∀ o, (s.initiator.events ++ [Event.onComplete issue.operation packet]).countP
            (Event.settles o) = s.initiator.settled o := by
          intro o
          rw [List.countP_append]
          rfl
        have haccounted := h.accounted.settle hi (hid ▸ hcallback) hevents value
        refine ⟨_, _, ⟨hlinked, Accounted.carry (haccounted.congr ?_ ?_ ?_ ?_), ?_⟩, rfl, ?_⟩
        · rw [hnode]
        · rw [hnode]
          exact Table.resetError_release_clear _ _
        · rw [hnode]
        · intro o
          rw [hnode]
          rfl
        · intro o ho hunset
          change o < node.operations at ho
          change node.settled o = 0 at hunset
          rw [hnode] at ho hunset
          obtain ⟨hne, hbefore⟩ := settled_append_eq_zero hunset
          rw [hevents] at hbefore
          obtain ⟨other, hother, rfl⟩ := h.waiting o ho hbefore
          obtain rfl | hother := List.mem_cons.mp hother
          · exact absurd rfl hne
          · exact ⟨other, hother, rfl⟩
        · rw [hlinked.undone_eq, h.linked.undone_eq, List.length_cons]
          omega

/-- With nothing under way there is nothing left in the table either. -/
theorem Tracked.finished (h : Tracked s completed answered pending) (hundone : s.undone = 0) :
    s.Finished := by
  rw [h.linked.undone_eq] at hundone
  obtain rfl : pending = [] := List.eq_nil_of_length_eq_zero (by omega)
  obtain rfl : answered = [] := List.eq_nil_of_length_eq_zero (by omega)
  have hset : ∀ o < s.initiator.operations, s.initiator.settled o ≠ 0 := by
    intro o ho hunset
    obtain ⟨issue, hissue, -⟩ := h.waiting o ho hunset
    cases hissue
  have hempty : ∀ i < s.initiator.range.total, s.initiator.table.reply_callback_ i = none := by
    intro i hi
    cases hslot : s.initiator.table.reply_callback_ i with
    | none => rfl
    | some callback =>
        obtain ⟨-, hlt, hunset, -⟩ := h.accounted.occupied i hi callback hslot
        exact absurd hunset (hset _ hlt)
  have hissued : s.issued.length = completed.length := by
    rw [h.linked.issued]
    simp
  constructor
  case executed =>
    rw [Link.executions, h.linked.executions, hissued]
    simp
  case completed => exact h.linked.answers.length_eq.symm.trans hissued.symm
  case settled =>
    intro o ho
    obtain ⟨hsettled, -⟩ | ⟨-, hcancelled⟩ := h.accounted.concluded o ho (by
      intro i hi callback hslot
      rw [hempty i hi] at hslot
      contradiction)
    · exact hsettled
    · cases hcancelled
  case available => exact fun i hi => (h.accounted.available_iff i hi).mpr (hempty i hi)

/-- A command under way is in one of the streams. -/
theorem Tracked.progress (h : Tracked s completed answered pending) (hundone : s.undone ≠ 0)
    (env : Environment) : (∃ s', step setting s (.pollTarget env) = some s') ∨
      ∃ s', step setting s (.pollInitiator env) = some s' := by
  have hstream : s.target.incoming ≠ [] ∨ s.initiator.incoming ≠ [] := by
    by_contra hnone
    rw [not_or, not_not, not_not, h.linked.requests, h.linked.replies] at hnone
    obtain ⟨hrequests, hreplies⟩ := hnone
    obtain rfl := (flatMap_encode_eq_nil _).mp hrequests
    obtain rfl := (flatMap_encode_eq_nil _).mp hreplies
    rw [h.linked.undone_eq] at hundone
    exact hundone rfl
  rw [step.eq_def, step.eq_def, if_neg (by simp [h.linked.faultless])]
  dsimp only
  obtain htarget | hinitiator := hstream
  · left
    rw [if_neg htarget]
    split
    · exact ⟨_, rfl⟩
    · exact ⟨_, rfl⟩
  · right
    rw [if_neg (by simp [h.linked.faultless]), if_neg hinitiator]
    split
    · exact ⟨_, rfl⟩
    · exact ⟨_, rfl⟩

/-- By induction on the polls: each of them takes one command one step further. -/
theorem Tracked.of_polls (h : Tracked s completed answered pending) {ls : List Label}
    (hls : ∀ l ∈ ls, l.IsPoll ∧ l.Admissible)
    (hrun : run (step setting) always s ls = some s') :
    (∃ completed' answered' pending', Tracked s' completed' answered' pending') ∧
      ls.length + s'.undone = s.undone ∧ s'.issued = s.issued := by
  induction ls generalizing s completed answered pending with
  | nil =>
      cases hrun
      exact ⟨⟨_, _, _, h⟩, Nat.zero_add _, rfl⟩
  | cons l ls ih =>
      obtain ⟨⟨hpoll, hadmissible⟩, hls⟩ := List.forall_mem_cons.mp hls
      rw [run, if_pos trivial] at hrun
      obtain ⟨t, hstep, hrun⟩ := Option.bind_eq_some_iff.mp hrun
      obtain ⟨⟨completed', answered', pending', htracked⟩, hissued, hundone⟩ :
          (∃ completed' answered' pending', Tracked t completed' answered' pending') ∧
            t.issued = s.issued ∧ t.undone + 1 = s.undone := by
        cases l with
        | start env target_node command => exact hpoll.elim
        | pollInitiator env =>
            obtain ⟨_, _, ht, hrest⟩ := h.pollInitiator hstep
            exact ⟨⟨_, _, _, ht⟩, hrest⟩
        | pollTarget env =>
            obtain ⟨_, _, ht, hrest⟩ := h.pollTarget hadmissible hstep
            exact ⟨⟨_, _, _, ht⟩, hrest⟩
      obtain ⟨hlast, hlength, hissued'⟩ := ih htracked hls hrun
      refine ⟨hlast, ?_, hissued'.trans hissued⟩
      rw [List.length_cons, ← hundone, ← hlength]
      omega

end Steps

theorem tracked_of_reaches (setting : Setting) {first s : Link} (hidle : first.Idle)
    (haccounted : first.initiator.Accounted []) (hunused : first.initiator.operations = 0)
    (h : Reaches (step setting) admissible first s) :
    ∃ completed answered pending, Tracked s completed answered pending := by
  apply h.invariant
  · refine ⟨[], [], [], Linked.of_idle hidle, haccounted, ?_⟩
    intro o ho
    rw [hunused] at ho
    cases ho
  · rintro t u l - hadmissible hstep ⟨completed, answered, pending, htracked⟩
    cases l with
    | start env target_node command =>
        obtain ⟨pending', hu⟩ := htracked.start hadmissible hstep
        exact ⟨_, _, _, hu⟩
    | pollInitiator env =>
        obtain ⟨_, _, hu, -⟩ := htracked.pollInitiator hstep
        exact ⟨_, _, _, hu⟩
    | pollTarget env =>
        obtain ⟨_, _, hu, -⟩ := htracked.pollTarget hadmissible.2 hstep
        exact ⟨_, _, _, hu⟩

/-- Two connected nodes never get stuck, whatever the initiator has issued and however the
calls were interleaved so far: polls of the two sides, in any order, take every command to its
completion in a number of steps that is known beforehand, and leave a table without any
operation. -/
theorem drains_of_reaches (setting : Setting) {first s : Link} (hidle : first.Idle)
    (haccounted : first.initiator.Accounted []) (hunused : first.initiator.operations = 0)
    (h : Reaches (step setting) admissible first s) : s.Drains setting := by
  obtain ⟨completed, answered, pending, htracked⟩ :=
    tracked_of_reaches setting hidle haccounted hunused h
  constructor
  case progress => exact htracked.progress
  case polls =>
    intro ls s' hls hrun
    obtain ⟨⟨_, _, _, hlast⟩, hlength, hissued⟩ := htracked.of_polls hls hrun
    exact ⟨hlength, hissued, hlast.finished⟩

theorem pair_accounted : pair.initiator.Accounted [] :=
  (Node.ofConfig_accounted {} { incoming := [] }).congr rfl rfl rfl fun _ => rfl

theorem drains_of_reaches_issued :
    ∃ s : Link, s.undone = 3 ∧ s.Drains ⟨true, neverShutdown, neverShutdown⟩ := by
  obtain ⟨s, hrun⟩ : ∃ s, run (step ⟨true, neverShutdown, neverShutdown⟩)
      (fun s l => s.unexpired l = true) pair (writeAndRead.take 3) = some s :=
    Option.isSome_iff_exists.mp (by decide +kernel)
  have hreaches : Reaches (step ⟨true, neverShutdown, neverShutdown⟩) admissible pair s :=
    .of_run_forall hrun fun l hl => admissible_writeAndRead l (List.mem_of_mem_take hl)
  have hidle : pair.Idle :=
    ⟨⟨rfl, rfl⟩, ⟨rfl, rfl⟩, ⟨rfl, rfl⟩, ⟨rfl, rfl⟩, ⟨rfl, rfl⟩, rfl, ⟨rfl, rfl⟩, rfl⟩
  refine ⟨s, eq_of_map_run hrun undone (by decide +kernel), ?_⟩
  exact drains_of_reaches _ hidle pair_accounted rfl hreaches

end Link

end SpwRmap
