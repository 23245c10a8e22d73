import SpwRmap.Lib.Memory
import SpwRmap.Node.Accounts
import SpwRmap.Node.Link

/-!
# A target that is a memory

The callbacks of a target keep a memory: `on_write` stores the data of a command and
`on_read` returns what is there. The commands travel in one stream and are executed one by
one, so the memory that the initiator sees is that of a single program. A read is answered
with what the commands issued before it have left, whatever else is under way by then. All
of it is about runs in which the sends succeed, nothing expires, and the headers hold the
addresses and the lengths.

What the target has stored is read off the history of its callbacks.
-/

namespace SpwRmap

open Span Outcome Transition

/-- The address of the next byte, modulo `2 ^ 32`. -/
def nextAddress (address : UInt32) : UInt32 := address + 1

/-- What a call of a callback does to the memory. -/
def Event.perform (memory : UInt32 → UInt8) : Event → UInt32 → UInt8
  | .onWrite packet => Memory.write nextAddress memory packet.address packet.data
  | _ => memory

/-- What a command means for a memory, apart from how it gets there. -/
def Command.perform (memory : UInt32 → UInt8) : Command → UInt32 → UInt8
  | .write memory_address data => Memory.write nextAddress memory memory_address data
  | .read _ _ => memory

/-- The memory after some commands. -/
def Command.performAll (initial : UInt32 → UInt8) (commands : List Command) : UInt32 → UInt8 :=
  commands.foldl Command.perform initial

/-- The callbacks serve this memory. -/
structure Environment.Keeps (env : Environment) (memory : UInt32 → UInt8) : Prop where
  on_write : ∃ on_write, env.on_write = some on_write ∧ ∀ packet, on_write packet = true
  on_read : env.on_read = some fun packet =>
    some (Memory.read nextAddress memory packet.address packet.dataLength.toNat)

theorem Environment.Keeps.serves {env : Environment} {memory : UInt32 → UInt8}
    (h : env.Keeps memory) : env.Serves :=
  ⟨h.on_write, _, h.on_read, fun _ => ⟨_, rfl, Memory.read_length⟩⟩

theorem Executes.perform_eq {command : Command} {event : Event} (h : Executes command event)
    (memory : UInt32 → UInt8) : event.perform memory = command.perform memory := by
  cases command with
  | read memory_address data_length =>
      cases event with
      | onRead packet data => rfl
      | onWrite packet => exact h.elim
      | onComplete operation packet => exact h.elim
      | setValue operation value => exact h.elim
  | write memory_address data =>
      cases event with
      | onWrite packet =>
          obtain ⟨-, -, haddress, -, hdata⟩ := h
          rw [Event.perform, Command.perform, haddress, hdata]
      | onRead packet data => exact h.elim
      | onComplete operation packet => exact h.elim
      | setValue operation value => exact h.elim

/-- Commands and what was done for them leave the same memory. -/
theorem Executes.foldl_eq {commands : List Command} {events : List Event}
    (h : List.Forall₂ Executes commands events) (memory : UInt32 → UInt8) :
    events.foldl Event.perform memory = Command.performAll memory commands := by
  induction h generalizing memory with
  | nil => rfl
  | cons hexecutes _ ih =>
      rw [List.foldl_cons, ih, hexecutes.perform_eq]
      rfl

namespace Node

/-- A read command is answered with what `on_read` returns for it. -/
theorem poll_read_supplied (ndebug : Bool) (derived : Derived) {self : Node} {env : Environment}
    (hready : Ready self) {on_read : Packet → Option (List UInt8)}
    (hon_read : env.on_read = some on_read) (initiator : Node) {target_node : TargetNode}
    (htarget : target_node.Addressable) (transaction_id : UInt16)
    {memory_address data_length : UInt32} (hlength : data_length.toNat < 2 ^ 24)
    {rest : List UInt8}
    (hin : self.incoming = (Frame.single (initiator.commandPacket target_node transaction_id
      (.read memory_address data_length))).encode ++ rest) {node : Node} {packet : Packet}
    {data : List UInt8} (hpoll : self.poll ndebug derived env = .ok (.ok true, node))
    (hevents : node.events = self.events ++ [.onRead packet data]) :
    on_read packet = some data := by
  have hpath := htarget.path_length
  have hreply := htarget.reply_length
  let config := initiator.readConfig target_node transaction_id memory_address data_length
  obtain ⟨next, hparse, hcommand⟩ := ReadPacketBuilder.parse_wire config
    self.receiver.packet_parser_ htarget.path htarget.logical hreply hlength
  have hsize : (ReadPacketBuilder.wire config).length =
      target_node.targetSpaceWireAddress.length + 4 +
        (target_node.replyAddress.length + 3) / 4 * 4 + 12 :=
    ReadPacketBuilder.wire_length config hreply
  have hne : ReadPacketBuilder.wire config ≠ [] := List.ne_nil_of_length_pos (by omega)
  obtain ⟨received, hreceived, hswitch⟩ :=
    poll_eq ndebug derived env hready hne (by omega) hin hparse
  have hkept : received.events = self.events := by rw [hreceived.others]
  simp only [hswitch, pollPacket, hcommand.type, pollRead, hon_read] at hpoll
  cases hdata : on_read next.packet_ with
  | none =>
      rw [hdata] at hpoll
      cases hpoll
  | some supplied =>
      simp only [hdata] at hpoll
      have hsends := (received.record (.onRead next.packet_ supplied)).sendReply_yields env
        hreceived.ready.connected
        (ReadReplyPacketBuilder.getTotalSize (readReplyConfig next.packet_ supplied))
        (ReadReplyPacketBuilder.build_contained (readReplyConfig next.packet_ supplied))
      rw [hpoll] at hsends
      obtain ⟨buf, calls, bytes, hnode⟩ := hsends.transmits
      have hshown : node.events = self.events ++ [.onRead next.packet_ supplied] := by
        rw [← hkept]
        exact congrArg Node.events hnode
      rw [hshown] at hevents
      cases List.append_cancel_left hevents
      exact hdata

end Node

namespace Link

/-- What the target has stored so far. -/
def stored (s : Link) (initial : UInt32 → UInt8) : UInt32 → UInt8 :=
  s.target.events.foldl Event.perform initial

/-- Whenever the target polls, its callbacks serve what it has stored so far. -/
def remembering (initial : UInt32 → UInt8) (s : Link) (l : Label) : Prop :=
  admissible s l ∧ ∀ env, l = .pollTarget env → env.Keeps (s.stored initial)

/-- The commands issued so far, in order. -/
def commands (s : Link) : List Command := s.issued.map Issue.command

/-- The target is one memory that the initiator's commands are applied to in the order in
which they were issued. -/
structure Coherent (s : Link) (initial : UInt32 → UInt8) : Prop where
  stored : s.stored initial =
    Command.performAll initial (s.commands.take s.executions.length)
  /-- A completed read has what the commands issued before it leave. -/
  reads : ∀ k operation packet, s.completions[k]? = some (operation, packet) →
    ∃ issue, s.issued[k]? = some issue ∧ issue.operation = operation ∧
      ∀ memory_address data_length, issue.command = .read memory_address data_length →
        packet.data = Memory.read nextAddress (Command.performAll initial (s.commands.take k))
          memory_address data_length.toNat

/-- Every read was shown what the calls of `on_write` before it had stored. -/
def Shown (initial : UInt32 → UInt8) (events : List Event) : Prop :=
  ∀ k packet data, events[k]? = some (.onRead packet data) →
    data = Memory.read nextAddress ((events.take k).foldl Event.perform initial) packet.address
      packet.dataLength.toNat

theorem Shown.snoc {initial : UInt32 → UInt8} {events : List Event} {event : Event}
    (h : Shown initial events)
    (hevent : ∀ packet data, event = .onRead packet data →
      data = Memory.read nextAddress (events.foldl Event.perform initial) packet.address
        packet.dataLength.toNat) : Shown initial (events ++ [event]) := by
  intro k packet data hk
  obtain hlt | heq | hgt := lt_trichotomy k events.length
  · rw [List.getElem?_append_left hlt] at hk
    rw [List.take_append_of_le_length hlt.le]
    exact h k packet data hk
  · subst heq
    rw [List.getElem?_concat_length] at hk
    rw [List.take_left]
    exact hevent packet data (Option.some.inj hk)
  · rw [List.getElem?_eq_none (by rw [List.length_append, List.length_singleton]; omega)] at hk
    cases hk

section Steps

variable {s s' : Link} {initial : UInt32 → UInt8} {completed answered : List (Issue × Event)}
  {pending : List Issue}

theorem carry_events (s : Link) : s.carry.target.events = s.target.events := rfl

/-- Only the target's own calls make it do something. -/
theorem Shown.of_step (setting : Setting) (h : Linked s completed answered pending)
    (hshown : Shown initial s.target.events) {l : Label} (hguard : remembering initial s l)
    (hstep : step setting s l = some s') : Shown initial s'.target.events := by
  obtain ⟨⟨-, hlabel⟩, hkeeps⟩ := hguard
  rw [step.eq_def, if_neg (by simp [h.faultless])] at hstep
  cases l with
  | start env target_node command =>
      simp only at hstep
      split at hstep
      · cases hstep
        exact hshown
      · cases hstep
        exact hshown
  | pollInitiator env =>
      simp only at hstep
      split at hstep
      · contradiction
      · split at hstep
        · cases hstep
          exact hshown
        · cases hstep
          exact hshown
  | pollTarget env =>
      have hkeeps := hkeeps env rfl
      simp only at hstep
      split at hstep
      · contradiction
      · rename_i hstream
        cases pending with
        | nil => exact absurd h.requests hstream
        | cons issue pending =>
            obtain ⟨htarget, hlength⟩ := h.addressable issue List.mem_cons_self
            obtain ⟨node, event, hpoll, hserved, hexecutes, -⟩ :=
              Node.poll_command setting.ndebug setting.target h.target hlabel.1 hkeeps.serves
                s.initiator htarget issue.transaction_id hlength h.requests
            simp only [hpoll] at hstep
            cases hstep
            rw [carry_events, hserved.events]
            apply hshown.snoc
            rintro packet data rfl
            obtain ⟨operation, transaction_id, target_node, command⟩ := issue
            cases command with
            | write memory_address data => exact hexecutes.elim
            | read memory_address data_length =>
                have hsupplied := Node.poll_read_supplied setting.ndebug setting.target h.target
                  hkeeps.on_read s.initiator htarget transaction_id hlength h.requests hpoll
                  hserved.events
                exact (Option.some.inj hsupplied).symm

end Steps

/-- The partner of an element has its index. -/
theorem exists_getElem?_of_forall₂ {α β : Type} {R : α → β → Prop} {xs : List α} {ys : List β}
    (h : List.Forall₂ R xs ys) {k : Nat} {y : β} (hy : ys[k]? = some y) :
    ∃ x, xs[k]? = some x ∧ R x y := by
  obtain ⟨hk, rfl⟩ := List.getElem?_eq_some_iff.mp hy
  obtain ⟨hlen, hget⟩ := List.forall₂_iff_get.mp h
  exact ⟨_, List.getElem?_eq_getElem (hlen.symm ▸ hk), hget k (hlen.symm ▸ hk) hk⟩

theorem getElem?_of_take {α : Type} {xs : List α} {n k : Nat} {x : α}
    (h : (xs.take n)[k]? = some x) : xs[k]? = some x := by
  rw [List.getElem?_take] at h
  split at h
  · exact h
  · contradiction

/-- What was done and what was reported, seen as commands of one program. -/
theorem Exchanged.coherent {s : Link} (h : s.Exchanged) {initial : UInt32 → UInt8}
    (hshown : Shown initial s.target.events) : s.Coherent initial := by
  have hexecuted : List.Forall₂ Executes (s.commands.take s.executions.length) s.executions := by
    rw [commands, ← List.map_take, List.forall₂_map_left_iff]
    exact h.executed
  have hprefix : ∀ k ≤ s.executions.length,
      (s.executions.take k).foldl Event.perform initial =
        Command.performAll initial (s.commands.take k) := by
    intro k hk
    have htake := List.forall₂_take k hexecuted
    rw [List.take_take, Nat.min_eq_left hk] at htake
    exact Executes.foldl_eq htake initial
  refine ⟨Executes.foldl_eq hexecuted initial, ?_⟩
  intro k operation packet hk
  obtain ⟨⟨issue, event⟩, hexchange, hoperation, -, hreports⟩ :=
    exists_getElem?_of_forall₂ h.completed hk
  obtain ⟨hissue, hevent⟩ := List.getElem?_zip_eq_some.mp (getElem?_of_take hexchange)
  refine ⟨issue, hissue, hoperation.symm, ?_⟩
  intro memory_address data_length hcommand
  have hread : Executes issue.command event := by
    obtain ⟨other, hother, hexecutes⟩ := exists_getElem?_of_forall₂ h.executed hevent
    cases hissue.symm.trans (getElem?_of_take hother)
    exact hexecutes
  rw [hcommand] at hread
  cases event with
  | onRead command data =>
      obtain ⟨-, -, haddress, hlength⟩ := hread
      obtain ⟨-, -, hdata⟩ := hreports
      have hle : k ≤ s.executions.length :=
        (List.getElem?_eq_some_iff.mp hevent).1.le
      rw [hdata, hshown k command data hevent, haddress, hlength, ← hprefix k hle]
      rfl
  | onWrite command => exact hread.elim
  | onComplete operation packet => exact hread.elim
  | setValue operation value => exact hread.elim

/-- The two halves of the invariant together. -/
theorem exchanged_and_shown (setting : Setting) {initial : UInt32 → UInt8} {start s : Link}
    (hidle : start.Idle) (h : Reaches (step setting) (remembering initial) start s) :
    s.Exchanged ∧ Shown initial s.target.events := by
  obtain ⟨⟨completed, answered, pending, hlinked⟩, hshown⟩ :
      (∃ completed answered pending, Linked s completed answered pending) ∧
        Shown initial s.target.events := by
    apply h.invariant
    · refine ⟨⟨[], [], [], Linked.of_idle hidle⟩, ?_⟩
      intro k packet data hk
      rw [hidle.events.2] at hk
      cases hk
    · rintro t u l - hguard hstep ⟨⟨completed, answered, pending, hlinked⟩, hshown⟩
      exact ⟨hlinked.of_step setting hguard.1 hstep,
        hshown.of_step setting hlinked hguard hstep⟩
  exact ⟨hlinked.exchanged, hshown⟩

/-- The initiator's view of a target that is a memory: in every run, whatever is under way,
the target has executed the first commands issued, in order, and a completed read returns
what all the commands issued before it leave, and nothing that was issued after it. -/
theorem coherent_of_reaches (setting : Setting) (initial : UInt32 → UInt8) {start s : Link}
    (hidle : start.Idle) (h : Reaches (step setting) (remembering initial) start s) :
    s.Coherent initial := by
  obtain ⟨hexchanged, hshown⟩ := exchanged_and_shown setting hidle h
  exact hexchanged.coherent hshown

/-- Callbacks that serve a memory. -/
def keeping (memory : UInt32 → UInt8) : Environment where
  on_write := some fun _ => true
  on_read := some fun packet =>
    some (Memory.read nextAddress memory packet.address packet.dataLength.toNat)

theorem keeping_keeps (memory : UInt32 → UInt8) : (keeping memory).Keeps memory :=
  ⟨⟨_, rfl, fun _ => rfl⟩, rfl⟩

theorem keeping_admissible (memory : UInt32 → UInt8) :
    (Label.pollTarget (keeping memory)).Admissible :=
  ⟨rfl, (keeping_keeps memory).serves⟩

theorem pollInitiator_admissible (env : Environment) : (Label.pollInitiator env).Admissible :=
  trivial

def blank : UInt32 → UInt8 := fun _ => 0

def issueBoth : List Label :=
  [.start {} peer (.write 0x20000000 [1, 2, 3]), .start {} peer (.read 0x20000000 3)]

def executeWrite : List Label := [.pollTarget (keeping blank)]

def executeRead : List Label :=
  [.pollTarget (keeping (Memory.write nextAddress blank 0x20000000 [1, 2, 3])),
    .pollInitiator {}, .pollInitiator {}]

theorem pair_idle : pair.Idle :=
  ⟨⟨rfl, rfl⟩, ⟨rfl, rfl⟩, ⟨rfl, rfl⟩, ⟨rfl, rfl⟩, ⟨rfl, rfl⟩, rfl, ⟨rfl, rfl⟩, rfl⟩

/-- Only the first of these calls is one of the target. -/
theorem reaches_of_run {setting : Setting} {initial : UInt32 → UInt8} {s t : Link} {l : Label}
    {ls : List Label}
    (hrun : run (step setting) (fun s l => s.unexpired l = true) s (l :: ls) = some t)
    (hadmissible : ∀ l' ∈ l :: ls, l'.Admissible)
    (hkeeps : ∀ env, l = .pollTarget env → env.Keeps (s.stored initial))
    (hrest : ∀ l' ∈ ls, ∀ env, l' ≠ .pollTarget env) :
    Reaches (step setting) (remembering initial) s t := by
  obtain ⟨hfirst, hothers⟩ := List.forall_mem_cons.mp hadmissible
  rw [run] at hrun
  split at hrun
  · rename_i hunexpired
    obtain ⟨u, hstep, hrun⟩ := Option.bind_eq_some_iff.mp hrun
    have hreaches := Reaches.of_run_forall (P := fun l => l.Admissible ∧
      ∀ env, l ≠ .pollTarget env) hrun fun l' hl' => ⟨hothers l' hl', hrest l' hl'⟩
    refine .trans (.snoc .refl ⟨⟨hunexpired, hfirst⟩, hkeeps⟩ hstep) (hreaches.mono ?_)
    rintro u l' ⟨hunexpired, hadmissible, hne⟩
    exact ⟨⟨hunexpired, hadmissible⟩, fun env henv => absurd henv (hne env)⟩
  · contradiction

/-- The memory before each call of the target is known from what was executed before it. -/
theorem reaches_writeAndRead :
    ∃ s, Reaches (step ⟨true, neverShutdown, neverShutdown⟩) (remembering blank) pair s ∧
      s.commands = [.write 0x20000000 [1, 2, 3], .read 0x20000000 3] ∧
      s.completions.map (fun completion => completion.2.data) = [[], [1, 2, 3]] := by
  have hpeer : peer.Addressable :=
    ⟨by simp [peer], by decide, by decide, by simp [peer], by decide⟩
  obtain ⟨s, hrun⟩ : ∃ s, run (step ⟨true, neverShutdown, neverShutdown⟩)
      (fun s l => s.unexpired l = true) pair (issueBoth ++ executeWrite ++ executeRead) = some s :=
    Option.isSome_iff_exists.mp (by decide +kernel)
  have hwhole := hrun
  rw [run_append] at hrun
  obtain ⟨executed, hexecuted, hlast⟩ := Option.bind_eq_some_iff.mp hrun
  have hfirst := hexecuted
  rw [run_append] at hfirst
  obtain ⟨issued, hissued, hmiddle⟩ := Option.bind_eq_some_iff.mp hfirst
  have hstored : ∀ t, Reaches (step ⟨true, neverShutdown, neverShutdown⟩) (remembering blank)
      pair t → ∀ n, t.executions.length = n → t.stored blank =
        Command.performAll blank (t.commands.take n) := by
    rintro t ht n rfl
    obtain ⟨hexchanged, hshown⟩ := exchanged_and_shown _ pair_idle ht
    exact (hexchanged.coherent hshown).stored
  have hreaches₁ : Reaches (step ⟨true, neverShutdown, neverShutdown⟩) (remembering blank) pair
      issued := by
    refine reaches_of_run hissued ?_ ?_ ?_
    · simp [Label.Admissible, hpeer, Command.dataLength]
    · intro env henv
      cases henv
    · simp
  have hstored₁ : issued.stored blank = blank := hstored issued hreaches₁ 0
    (eq_of_map_run hissued (fun s => s.executions.length) (by decide +kernel))
  have hreaches₂ := hreaches₁.trans (reaches_of_run hmiddle
    (by simp [keeping_admissible])
    (fun env henv => by
      cases henv
      rw [hstored₁]
      exact keeping_keeps blank) (by simp))
  have hstored₂ : executed.stored blank =
      Memory.write nextAddress blank 0x20000000 [1, 2, 3] := by
    rw [hstored executed hreaches₂ 1
      (eq_of_map_run hexecuted (fun s => s.executions.length) (by decide +kernel)),
      eq_of_map_run hexecuted commands
        (a := [.write 0x20000000 [1, 2, 3], .read 0x20000000 3]) (by decide +kernel)]
    rfl
  have hreaches₃ := hreaches₂.trans (reaches_of_run hlast
    (by simp [keeping_admissible, pollInitiator_admissible])
    (fun env henv => by
      cases henv
      rw [hstored₂]
      exact keeping_keeps _) (by simp))
  refine ⟨s, hreaches₃, eq_of_map_run hwhole commands (by decide +kernel), ?_⟩
  apply eq_of_map_run hwhole fun s => s.completions.map fun completion => completion.2.data
  decide +kernel

theorem coherent_of_reaches_writeAndRead :
    ∃ s : Link, s.completions.map (fun completion => completion.2.data) = [[], [1, 2, 3]] ∧
      s.Coherent blank := by
  obtain ⟨s, hreaches, -, hdata⟩ := reaches_writeAndRead
  exact ⟨s, hdata, coherent_of_reaches _ blank pair_idle hreaches⟩

end Link

end SpwRmap
