import Mathlib.Data.List.Forall2
import SpwRmap.Lib.Transition
import SpwRmap.Node.Calls

/-!
# An initiator and a target

Two nodes joined by two byte streams: what one hands to its socket is appended to
what the other has still to receive. The initiator makes `readAsync`, `writeAsync`
and `poll` calls, the target makes `poll` calls, in any order and each call as one
step. A `poll` with nothing to receive blocks, so it is no step.

The invariant divides the commands issued so far into three parts, in this order:
those whose reply was dispatched, those whose reply is in the stream to the initiator,
and those that are themselves in the stream to the target. The table of the initiator
holds the callbacks of the last two parts, each under an identifier of its own.
-/

namespace SpwRmap

open Span Transition

/-- An operation whose command was sent. -/
structure Issue where
  operation : Nat
  transaction_id : UInt16
  target_node : TargetNode
  command : Command
  deriving DecidableEq, Repr

/-- More bytes arrive. -/
def Node.deliver (self : Node) (bytes : List UInt8) : Node :=
  { self with
    receiver := { self.receiver with
      tcp_backend_ := self.receiver.tcp_backend_.map fun backend =>
        { backend with incoming := backend.incoming ++ bytes } } }

namespace Node

variable {self : Node}

theorem deliver_nil (self : Node) : self.deliver [] = self := by
  simp [deliver]

theorem Ready.deliver (hready : Ready self) (bytes : List UInt8) : Ready (self.deliver bytes) := by
  refine ⟨?_, hready.autoResize⟩
  rw [Node.deliver, Option.isSome_map]
  exact hready.connected

theorem Ready.drained (hready : Ready self) : Ready { self with sent := [] } :=
  ⟨hready.connected, hready.autoResize⟩

theorem deliver_incoming (hready : Ready self) (bytes : List UInt8) :
    (self.deliver bytes).incoming = self.incoming ++ bytes := by
  obtain ⟨backend, hbackend⟩ := Option.isSome_iff_exists.mp hready.connected
  simp only [incoming, deliver, hbackend, Option.map_some]

end Node

/-- The operation and the packet of a completion. -/
def Event.completion : Event → Option (Nat × Packet)
  | .onComplete operation packet => some (operation, packet)
  | _ => none

@[simp] theorem Event.completion_onComplete (operation : Nat) (packet : Packet) :
    (Event.onComplete operation packet).completion = some (operation, packet) := rfl

@[simp] theorem Event.completion_setValue (operation : Nat) (value : Except ErrorCode Unit) :
    (Event.setValue operation value).completion = none := rfl

structure Link where
  initiator : Node
  target : Node
  issued : List Issue := []
  /-- What the calls of `poll` returned. -/
  initiatorPolls : List (Except ErrorCode Bool) := []
  targetPolls : List (Except ErrorCode Bool) := []
  fault : Option Fault := none

namespace Link

/-- How the two nodes were compiled and derived. -/
structure Setting where
  ndebug : Bool
  initiator : Derived
  target : Derived

inductive Label where
  /-- `readAsync` or `writeAsync` of the initiator. -/
  | start (env : Environment) (target_node : TargetNode) (command : Command)
  | pollInitiator (env : Environment)
  | pollTarget (env : Environment)

/-- What a call handed to its socket moves into the stream of the other node. -/
def carry (s : Link) : Link :=
  { s with
    initiator := { s.initiator with sent := [] }.deliver s.target.sent
    target := { s.target with sent := [] }.deliver s.initiator.sent }

def step (setting : Setting) (s : Link) (l : Label) : Option Link :=
  if s.fault.isSome then
    none
  else
    match l with
    | .start env target_node command =>
        match s.initiator.start setting.ndebug target_node env command with
        | .error fault => some { s with fault := some fault }
        | .ok (operation, node) =>
            let issue := operation.transaction_id.map fun transaction_id =>
              ⟨operation.future, transaction_id, target_node, command⟩
            some (carry { s with initiator := node, issued := s.issued ++ issue.toList })
    | .pollInitiator env =>
        if s.initiator.incoming = [] then
          none
        else
          match s.initiator.poll setting.ndebug setting.initiator env with
          | .error fault => some { s with fault := some fault }
          | .ok (res, node) =>
              some (carry { s with
                initiator := node
                initiatorPolls := s.initiatorPolls ++ [res] })
    | .pollTarget env =>
        if s.target.incoming = [] then
          none
        else
          match s.target.poll setting.ndebug setting.target env with
          | .error fault => some { s with fault := some fault }
          | .ok (res, node) =>
              some (carry { s with target := node, targetPolls := s.targetPolls ++ [res] })

/-- The search for an identifier finds no expired transaction. -/
def unexpired (s : Link) : Label → Bool
  | .start env _ _ =>
      match s.initiator.table.scan s.initiator.range (env.now 0)
        s.initiator.transaction_timeout_ with
      | .expired _ => false
      | _ => true
  | _ => true

/-- The sends succeed, the target's callbacks serve, the headers have room for the addresses,
and their three bytes for the length of the data. -/
def Label.Admissible : Label → Prop
  | .start env target_node command =>
      env.sendAll = .sent ∧ target_node.Addressable ∧ command.dataLength < 2 ^ 24
  | .pollInitiator _ => True
  | .pollTarget env => env.sendAll = .sent ∧ env.Serves

/-- Moreover, no transaction has expired when an operation is started. -/
def admissible (s : Link) (l : Label) : Prop := s.unexpired l = true ∧ l.Admissible

/-- Connected nodes with growing buffers that have not dealt with each other yet. -/
structure Idle (s : Link) : Prop where
  initiator : s.initiator.Ready
  target : s.target.Ready
  streams : s.initiator.incoming = [] ∧ s.target.incoming = []
  sent : s.initiator.sent = [] ∧ s.target.sent = []
  events : s.initiator.events = [] ∧ s.target.events = []
  issued : s.issued = []
  polls : s.initiatorPolls = [] ∧ s.targetPolls = []
  faultless : s.fault = none

/-- What the target's callbacks were called for. -/
def executions (s : Link) : List Event := s.target.events

/-- The completions of the initiator's operations. -/
def completions (s : Link) : List (Nat × Packet) := s.initiator.events.filterMap Event.completion

/-- A completion answers a command and what was done for it. -/
def Answers (exchange : Issue × Event) (completion : Nat × Packet) : Prop :=
  completion.1 = exchange.1.operation ∧
    completion.2.transactionID = exchange.1.transaction_id ∧ Reports completion.2 exchange.2

/-- Every command is executed once, in the order of issue, and every reply completes
the operation that issued its command. -/
structure Exchanged (s : Link) : Prop where
  faultless : s.fault = none
  operations : (s.issued.map Issue.operation).Nodup
  /-- Every `poll` of the target executes one command. -/
  targetPolls : s.targetPolls = List.replicate s.executions.length (.ok true)
  /-- Every `poll` of the initiator completes one operation. -/
  initiatorPolls : s.initiatorPolls = List.replicate s.completions.length (.ok true)
  /-- The commands executed are the first ones issued. -/
  executed : List.Forall₂ (fun issue event => Executes issue.command event)
    (s.issued.take s.executions.length) s.executions
  /-- The operations completed are the first ones whose commands were executed. -/
  completed : List.Forall₂ Answers
    ((s.issued.zip s.executions).take s.completions.length) s.completions
  /-- Nothing is lost: what is not yet executed, or answered, is in a stream. -/
  requests : s.target.incoming = [] ↔ s.executions.length = s.issued.length
  replies : s.initiator.incoming = [] ↔ s.completions.length = s.executions.length

/-- The operation of a command waits for its reply in the slot of its identifier. -/
def Waiting (node : Node) (issue : Issue) : Prop :=
  ∃ i < node.range.total, issue.transaction_id = node.range.identifier i ∧
    node.table.Holds i ⟨issue.operation, issue.transaction_id⟩

/-- The commands without a dispatched reply, each with a slot of its own. -/
structure Outstanding (node : Node) (issues : List Issue) : Prop where
  waiting : ∀ issue ∈ issues, Waiting node issue
  distinct : issues.Pairwise fun a b => a.transaction_id ≠ b.transaction_id

namespace Outstanding

variable {node after : Node} {issue : Issue} {issues : List Issue}

theorem keep (h : Outstanding node issues) (hrange : after.range = node.range)
    (hkeeps : ∀ i callback, node.table.Holds i callback → after.table.Holds i callback) :
    Outstanding after issues := by
  refine ⟨?_, h.distinct⟩
  intro issue hissue
  obtain ⟨i, hi, hid, hholds⟩ := h.waiting issue hissue
  rw [← hrange] at hi hid
  exact ⟨i, hi, hid, hkeeps i _ hholds⟩

/-- A new operation takes a slot that no other one has. -/
theorem register (h : Outstanding node issues) {i : Nat} (now : Int) (hi : i < node.range.total)
    (havailable : node.table.available_transaction_ids_ i = true)
    (target_node : TargetNode) (command : Command) :
    Outstanding (node.registered i now)
      (issues ++ [⟨node.operations, node.range.identifier i, target_node, command⟩]) := by
  constructor
  · intro issue hissue
    obtain hold | hnew := List.mem_append.mp hissue
    · obtain ⟨j, hj, hid, hholds⟩ := h.waiting issue hold
      have hne := hholds.ne_of_available havailable
      exact ⟨j, hj, hid, (hholds.acquire hne).register hne⟩
    · rw [List.mem_singleton.mp hnew]
      exact ⟨i, hi, rfl, Table.holds_register⟩
  · refine List.pairwise_append.mpr ⟨h.distinct, List.pairwise_singleton _ _, ?_⟩
    intro issue hissue new hnew heq
    rw [List.mem_singleton.mp hnew] at heq
    obtain ⟨j, hj, hid, hholds⟩ := h.waiting issue hissue
    have hindex := node.range.index_identifier hj
    rw [← hid, heq, node.range.index_identifier hi] at hindex
    exact hholds.ne_of_available havailable (Option.some.inj hindex).symm

/-- A dispatched reply frees the slot of its operation and no other. -/
theorem complete (h : Outstanding node (issue :: issues)) {i : Nat}
    (hindex : node.range.index issue.transaction_id = some i) (hrange : after.range = node.range)
    (htable : after.table = ((node.table.clear i).release i).resetError i) :
    Outstanding after issues := by
  obtain ⟨hdiffer, hdistinct⟩ := List.pairwise_cons.mp h.distinct
  refine ⟨?_, hdistinct⟩
  intro other hother
  obtain ⟨j, hj, hid, hholds⟩ := h.waiting other (List.mem_cons_of_mem _ hother)
  have hne : j ≠ i := by
    rintro rfl
    obtain ⟨k, hk, hid', -⟩ := h.waiting issue List.mem_cons_self
    rw [hid', node.range.index_identifier hk] at hindex
    apply hdiffer other hother
    rw [hid', hid, Option.some.inj hindex]
  rw [← hrange] at hj hid
  refine ⟨j, hj, hid, ?_⟩
  rw [htable]
  exact ((hholds.clear hne).release hne).resetError

end Outstanding

/-- The bytes of a command. -/
def requestBytes (initiator : Node) (issue : Issue) : List UInt8 :=
  (Frame.single
    (initiator.commandPacket issue.target_node issue.transaction_id issue.command)).encode

/-- The bytes of the reply to a command. -/
def replyBytes (exchange : Issue × Event) : List UInt8 :=
  (Frame.single (Node.replyPacket exchange.2)).encode

theorem requestBytes_congr {node initiator : Node}
    (haddress : node.initiator_logical_address_ = initiator.initiator_logical_address_)
    (hverify : node.verify_mode_ = initiator.verify_mode_) :
    requestBytes node = requestBytes initiator := by
  funext issue
  rw [requestBytes, Node.commandPacket_congr haddress hverify]
  rfl

/-- No frame is empty, so a stream of frames is empty only if there are none. -/
theorem flatMap_encode_eq_nil {α : Type} (f : α → Frame) {xs : List α} :
    xs.flatMap (fun x => (f x).encode) = [] ↔ xs = [] := by
  constructor
  · intro h
    cases xs with
    | nil => rfl
    | cons x xs =>
        have hlen := congrArg List.length h
        rw [List.flatMap_cons, List.length_append, Frame.encode_length] at hlen
        simp at hlen
  · rintro rfl
    rfl

/-- The commands issued so far: `completed` by a reply, `answered` by a reply that is
in the stream, and `pending` in the stream themselves. -/
structure Linked (s : Link) (completed answered : List (Issue × Event)) (pending : List Issue) :
    Prop where
  initiator : s.initiator.Ready
  target : s.target.Ready
  sent : s.initiator.sent = [] ∧ s.target.sent = []
  faultless : s.fault = none
  issued : s.issued = (completed ++ answered).map Prod.fst ++ pending
  executions : s.target.events = (completed ++ answered).map Prod.snd
  requests : s.target.incoming = pending.flatMap (requestBytes s.initiator)
  replies : s.initiator.incoming = answered.flatMap replyBytes
  executed : ∀ exchange ∈ completed ++ answered, Executes exchange.1.command exchange.2
  answers : List.Forall₂ Answers completed s.completions
  outstanding : Outstanding s.initiator (answered.map Prod.fst ++ pending)
  answerable : ∀ exchange ∈ answered, Node.Answerable exchange.1.transaction_id exchange.2
  addressable : ∀ issue ∈ pending,
    issue.target_node.Addressable ∧ issue.command.dataLength < 2 ^ 24
  ordered : s.issued.Pairwise fun a b => a.operation < b.operation
  started : ∀ issue ∈ s.issued, issue.operation < s.initiator.operations
  targetPolls : s.targetPolls = List.replicate (completed ++ answered).length (.ok true)
  initiatorPolls : s.initiatorPolls = List.replicate completed.length (.ok true)

theorem Linked.of_idle {s : Link} (h : s.Idle) : Linked s [] [] [] where
  initiator := h.initiator
  target := h.target
  sent := h.sent
  faultless := h.faultless
  issued := h.issued
  executions := h.events.2
  requests := h.streams.2
  replies := h.streams.1
  executed := by simp
  answers := by
    rw [completions, h.events.1]
    exact .nil
  outstanding := ⟨by simp, .nil⟩
  answerable := by simp
  addressable := by simp
  ordered := by
    rw [h.issued]
    exact .nil
  started := by simp [h.issued]
  targetPolls := h.polls.2
  initiatorPolls := h.polls.1

section Steps

variable {s : Link} {completed answered : List (Issue × Event)} {pending : List Issue}

/-- After a call of the initiator only its own bytes move. -/
theorem carry_initiator (h : s.target.sent = []) :
    s.carry = { s with
      initiator := { s.initiator with sent := [] }
      target := { s.target with sent := [] }.deliver s.initiator.sent } := by
  rw [carry, h, Node.deliver_nil]

/-- After a call of the target only its own bytes move. -/
theorem carry_target (h : s.initiator.sent = []) :
    s.carry = { s with
      initiator := { s.initiator with sent := [] }.deliver s.target.sent
      target := { s.target with sent := [] } } := by
  rw [carry, h, Node.deliver_nil]

/-- A refused call leaves both streams and all slots in use as they are. -/
theorem Linked.refuse (h : Linked s completed answered pending) {table : Table Callback}
    {buf : List UInt8} {e : ErrorCode}
    (hkeeps : ∀ i callback, s.initiator.table.Holds i callback → table.Holds i callback) :
    Linked (carry { s with
      initiator := { s.initiator with
        operations := s.initiator.operations + 1
        table := table
        send_buf_ := buf
        events := s.initiator.events ++ [.setValue s.initiator.operations (.error e)] }
      issued := s.issued ++ [] }) completed answered pending := by
  rw [carry_initiator (by exact h.sent.2), List.append_nil]
  exact {
    initiator := ⟨h.initiator.connected, h.initiator.autoResize⟩
    target := h.target.drained.deliver _
    sent := ⟨rfl, rfl⟩
    faultless := h.faultless
    issued := h.issued
    executions := h.executions
    requests := calc
      _ = s.target.incoming ++ s.initiator.sent := Node.deliver_incoming h.target.drained _
      _ = pending.flatMap (requestBytes s.initiator) := by
          rw [h.sent.1, List.append_nil, h.requests]
      _ = pending.flatMap (requestBytes _) :=
          congrArg (fun bytes => pending.flatMap bytes) (requestBytes_congr rfl rfl).symm
    replies := h.replies
    executed := h.executed
    answers := by
      simpa [completions, List.filterMap_cons] using h.answers
    outstanding := h.outstanding.keep rfl hkeeps
    answerable := h.answerable
    addressable := h.addressable
    ordered := h.ordered
    started := fun issue hissue => Nat.lt_succ_of_lt (h.started issue hissue)
    targetPolls := h.targetPolls
    initiatorPolls := h.initiatorPolls }

/-- A command that was sent joins the stream to the target, and its operation takes a
slot of the table. -/
theorem Linked.issue (h : Linked s completed answered pending) {i : Nat} {now : Int}
    {buf : List UInt8} (hi : i < s.initiator.range.total)
    (havailable : s.initiator.table.available_transaction_ids_ i = true)
    {target_node : TargetNode} {command : Command} (htarget : target_node.Addressable)
    (hlength : command.dataLength < 2 ^ 24) :
    let issue : Issue :=
      ⟨s.initiator.operations, s.initiator.range.identifier i, target_node, command⟩
    Linked (carry { s with
      initiator := (s.initiator.registered i now).transmitted
        (s.initiator.commandPacket target_node (s.initiator.range.identifier i) command) buf
      issued := s.issued ++ [issue] }) completed answered (pending ++ [issue]) := by
  intro issue
  rw [carry_initiator (by exact h.sent.2)]
  exact {
    initiator := ⟨h.initiator.connected, h.initiator.autoResize⟩
    target := h.target.drained.deliver _
    sent := ⟨rfl, rfl⟩
    faultless := h.faultless
    issued := by rw [h.issued, List.append_assoc]
    executions := h.executions
    requests := calc
      _ = s.target.incoming ++ (s.initiator.sent ++ requestBytes s.initiator issue) :=
          Node.deliver_incoming h.target.drained _
      _ = (pending ++ [issue]).flatMap (requestBytes s.initiator) := by
          rw [h.sent.1, List.nil_append, h.requests, List.flatMap_append, List.flatMap_singleton]
      _ = (pending ++ [issue]).flatMap (requestBytes _) :=
          congrArg (fun bytes => (pending ++ [issue]).flatMap bytes)
            (requestBytes_congr rfl rfl).symm
    replies := h.replies
    executed := h.executed
    answers := h.answers
    outstanding := by
      rw [← List.append_assoc]
      exact (h.outstanding.register now hi havailable target_node command).keep rfl fun _ _ h => h
    answerable := h.answerable
    addressable := by
      intro other hother
      obtain hold | hnew := List.mem_append.mp hother
      · exact h.addressable other hold
      · rw [List.mem_singleton.mp hnew]
        exact ⟨htarget, hlength⟩
    ordered := by
      refine List.pairwise_append.mpr ⟨h.ordered, List.pairwise_singleton _ _, ?_⟩
      intro other hother new hnew
      rw [List.mem_singleton.mp hnew]
      exact h.started other hother
    started := by
      intro other hother
      obtain hold | hnew := List.mem_append.mp hother
      · exact Nat.lt_succ_of_lt (h.started other hold)
      · rw [List.mem_singleton.mp hnew]
        exact Nat.lt_succ_self _
    targetPolls := h.targetPolls
    initiatorPolls := h.initiatorPolls }

/-- The target executes the first command in its stream and its reply joins the other
stream. -/
theorem Linked.execute {issue : Issue} (h : Linked s completed answered (issue :: pending))
    {node : Node} {event : Event}
    (hserved : Node.Served s.target node (pending.flatMap (requestBytes s.initiator)) event)
    (hexecutes : Executes issue.command event)
    (hanswerable : Node.Answerable issue.transaction_id event) :
    Linked (carry { s with target := node, targetPolls := s.targetPolls ++ [.ok true] })
      completed (answered ++ [(issue, event)]) pending := by
  rw [carry_target (by exact h.sent.1)]
  exact {
    initiator := h.initiator.drained.deliver _
    target := hserved.ready.drained
    sent := ⟨rfl, rfl⟩
    faultless := h.faultless
    issued := by simp [h.issued]
    executions := by simp [hserved.events, h.executions]
    requests := hserved.incoming
    replies := calc
      _ = s.initiator.incoming ++ node.sent := Node.deliver_incoming h.initiator.drained _
      _ = (answered ++ [(issue, event)]).flatMap replyBytes := by
          rw [h.replies, hserved.sent, h.sent.2, List.nil_append, List.flatMap_append,
            List.flatMap_singleton]
          rfl
    executed := by
      intro exchange hexchange
      rw [← List.append_assoc] at hexchange
      obtain hold | hnew := List.mem_append.mp hexchange
      · exact h.executed exchange hold
      · rw [List.mem_singleton.mp hnew]
        exact hexecutes
    answers := h.answers
    outstanding := by
      rw [List.map_append, List.append_assoc]
      exact h.outstanding.keep rfl fun _ _ h => h
    answerable := by
      intro exchange hexchange
      obtain hold | hnew := List.mem_append.mp hexchange
      · exact h.answerable exchange hold
      · rw [List.mem_singleton.mp hnew]
        exact hanswerable
    addressable := fun other hother => h.addressable other (List.mem_cons_of_mem _ hother)
    ordered := h.ordered
    started := h.started
    targetPolls := by
      change s.targetPolls ++ [.ok true] = _
      rw [h.targetPolls, ← List.replicate_succ']
      simp only [List.length_append, List.length_singleton, Nat.add_assoc]
    initiatorPolls := h.initiatorPolls }

/-- The initiator dispatches the first reply in its stream to the operation that is
waiting for it. -/
theorem Linked.complete {issue : Issue} {event : Event}
    (h : Linked s completed ((issue, event) :: answered) pending) {node : Node} {i : Nat}
    {packet : Packet}
    (hcompleted : Node.Completed s.initiator node (answered.flatMap replyBytes) i issue.operation
      packet)
    (hindex : s.initiator.range.index issue.transaction_id = some i)
    (hid : packet.transactionID = issue.transaction_id) (hreports : Reports packet event) :
    Linked (carry { s with initiator := node, initiatorPolls := s.initiatorPolls ++ [.ok true] })
      (completed ++ [(issue, event)]) answered pending := by
  obtain ⟨value, hnode⟩ := hcompleted.others
  obtain ⟨receiver, rfl⟩ : ∃ receiver, node = { s.initiator with
      receiver := receiver
      table := ((s.initiator.table.clear i).release i).resetError i
      events := s.initiator.events ++ [.onComplete issue.operation packet] ++
        [.setValue issue.operation value] } := ⟨_, hnode⟩
  rw [carry_initiator (by exact h.sent.2)]
  exact {
    initiator := hcompleted.ready.drained
    target := h.target.drained.deliver _
    sent := ⟨rfl, rfl⟩
    faultless := h.faultless
    issued := by simp [h.issued]
    executions := by
      change s.target.events = _
      simp [h.executions]
    requests := calc
      _ = s.target.incoming ++ s.initiator.sent := Node.deliver_incoming h.target.drained _
      _ = pending.flatMap (requestBytes s.initiator) := by
          rw [h.sent.1, List.append_nil, h.requests]
      _ = pending.flatMap (requestBytes _) :=
          congrArg (fun bytes => pending.flatMap bytes) (requestBytes_congr rfl rfl).symm
    replies := hcompleted.incoming
    executed := by
      rw [List.append_assoc]
      exact h.executed
    answers := by
      simp only [completions, List.filterMap_append, List.filterMap_cons, List.filterMap_nil,
        Event.completion_onComplete, Event.completion_setValue, List.append_nil]
      exact List.rel_append h.answers (.cons ⟨rfl, hid, hreports⟩ .nil)
    outstanding := h.outstanding.complete hindex rfl rfl
    answerable := fun exchange hexchange =>
      h.answerable exchange (List.mem_cons_of_mem _ hexchange)
    addressable := h.addressable
    ordered := h.ordered
    started := h.started
    targetPolls := by
      change s.targetPolls = _
      rw [List.append_assoc]
      exact h.targetPolls
    initiatorPolls := by
      change s.initiatorPolls ++ [.ok true] = _
      rw [h.initiatorPolls, ← List.replicate_succ', List.length_append, List.length_singleton] }

/-- Every admissible step keeps the invariant and moves at most one command on. -/
theorem Linked.of_step (setting : Setting) (h : Linked s completed answered pending) {l : Label}
    (hadmissible : admissible s l) {s' : Link} (hstep : step setting s l = some s') :
    ∃ completed answered pending, Linked s' completed answered pending := by
  obtain ⟨hunexpired, hlabel⟩ := hadmissible
  rw [step.eq_def, if_neg (by simp [h.faultless])] at hstep
  cases l with
  | start env target_node command =>
      obtain ⟨hsend, htarget, hlength⟩ := hlabel
      have hscan : s.initiator.Unexpired env := by
        intro i hexpired
        rw [unexpired, hexpired] at hunexpired
        contradiction
      obtain ⟨operation, node, hstart, hstarted⟩ := Node.start_started setting.ndebug h.initiator
        hsend htarget hscan hlength
      simp only [hstart] at hstep
      cases hstep
      cases hstarted with
      | refused table buf e hkeeps => exact ⟨completed, answered, pending, h.refuse hkeeps⟩
      | issued i now buf hi havailable =>
          exact ⟨completed, answered, _, h.issue hi havailable htarget hlength⟩
  | pollInitiator env =>
      simp only at hstep
      split at hstep
      · contradiction
      · rename_i hstream
        cases answered with
        | nil => exact absurd h.replies hstream
        | cons exchange answered =>
            obtain ⟨i, hi, hid, -, hcallback⟩ := h.outstanding.waiting exchange.1 (by simp)
            have hindex : s.initiator.range.index exchange.1.transaction_id = some i := by
              rw [hid]
              exact s.initiator.range.index_identifier hi
            obtain ⟨node, packet, hpoll, hcompleted, htransaction, hreports⟩ :=
              Node.poll_answer setting.ndebug setting.initiator env h.initiator
                (h.answerable exchange List.mem_cons_self) hindex hcallback h.replies
            simp only [hpoll] at hstep
            cases hstep
            exact ⟨_, _, _, h.complete hcompleted hindex htransaction hreports⟩
  | pollTarget env =>
      obtain ⟨hsend, hserves⟩ := hlabel
      simp only at hstep
      split at hstep
      · contradiction
      · rename_i hstream
        cases pending with
        | nil => exact absurd h.requests hstream
        | cons issue pending =>
            obtain ⟨htarget, hlength⟩ := h.addressable issue List.mem_cons_self
            obtain ⟨node, event, hpoll, hserved, hexecutes, hanswerable⟩ :=
              Node.poll_command setting.ndebug setting.target h.target hsend hserves s.initiator
                htarget issue.transaction_id hlength h.requests
            simp only [hpoll] at hstep
            cases hstep
            exact ⟨_, _, _, h.execute hserved hexecutes hanswerable⟩

end Steps

/-- The parts of the invariant add up to the history. -/
theorem Linked.exchanged {s : Link} {completed answered : List (Issue × Event)}
    {pending : List Issue} (h : Linked s completed answered pending) : s.Exchanged := by
  have hexecutions : s.executions = (completed ++ answered).map Prod.snd := h.executions
  have hcount : s.executions.length = (completed ++ answered).length := by
    rw [hexecutions, List.length_map]
  have hcompletions : s.completions.length = completed.length := h.answers.length_eq.symm
  have htake : s.issued.take s.executions.length = (completed ++ answered).map Prod.fst := by
    rw [h.issued, List.take_left' (by rw [List.length_map, hcount])]
  have hzip : s.issued.zip s.executions = completed ++ answered := by
    have hlen : ((completed ++ answered).map Prod.fst).length =
        ((completed ++ answered).map Prod.snd).length := by
      rw [List.length_map, List.length_map]
    calc s.issued.zip s.executions
        = ((completed ++ answered).map Prod.fst ++ pending).zip
            ((completed ++ answered).map Prod.snd ++ []) := by
          rw [h.issued, hexecutions, List.append_nil]
      _ = ((completed ++ answered).map Prod.fst).zip ((completed ++ answered).map Prod.snd) := by
          rw [List.zip_append hlen, List.zip_nil_right, List.append_nil]
      _ = completed ++ answered := by
          rw [List.zip_map', List.map_id']
  exact {
    faultless := h.faultless
    operations := List.pairwise_map.mpr (h.ordered.imp Nat.ne_of_lt)
    targetPolls := by rw [h.targetPolls, hcount]
    initiatorPolls := by rw [h.initiatorPolls, hcompletions]
    executed := by
      rw [htake, hexecutions, List.forall₂_map_left_iff, List.forall₂_map_right_iff]
      exact List.forall₂_same.mpr h.executed
    completed := by
      rw [hzip, hcompletions, List.take_left]
      exact h.answers
    requests := by
      rw [h.requests]
      refine (flatMap_encode_eq_nil _).trans ?_
      rw [hcount, h.issued]
      simp
    replies := by
      rw [h.replies]
      refine (flatMap_encode_eq_nil _).trans ?_
      rw [hcompletions, hcount]
      simp }

/-- Two nodes of this library that are connected to each other, with growing buffers:
in every run without expiry and send errors, in which the target's callbacks serve and
all addresses and lengths fit, every command is executed once and in order, and every
reply completes its own operation with the bytes the target supplied. -/
theorem exchanged_of_reaches (setting : Setting) {start s : Link} (hidle : start.Idle)
    (h : Reaches (step setting) admissible start s) : s.Exchanged := by
  obtain ⟨completed, answered, pending, hlinked⟩ :
      ∃ completed answered pending, Linked s completed answered pending := by
    apply h.invariant
    · exact ⟨[], [], [], Linked.of_idle hidle⟩
    · rintro t u l - hadmissible hstep ⟨completed, answered, pending, hlinked⟩
      exact hlinked.of_step setting hadmissible hstep
  exact hlinked.exchanged

/-- Two nodes with small buffers, before any call. -/
def pair : Link where
  initiator := {
    receiver := { tcp_backend_ := some { incoming := [] }, recv_buf_ := [] }
    send_buf_ := List.replicate 40 0x00 }
  target := {
    receiver := { tcp_backend_ := some { incoming := [] }, recv_buf_ := [] }
    send_buf_ := [] }

def peer : TargetNode where
  targetSpaceWireAddress := [3]
  replyAddress := [0, 9]
  targetLogicalAddress := 0x34

/-- A target that fills what it is asked for with `0x5A`. -/
def serving : Environment where
  on_write := some fun _ => true
  on_read := some fun packet => some (List.replicate packet.dataLength.toNat 0x5A)

def writeAndRead : List Label :=
  [.start {} peer (.write 0x20000000 [1, 2]), .start {} peer (.read 0x20000000 3),
    .pollTarget serving, .pollTarget serving, .pollInitiator {}, .pollInitiator {}]

def neverShutdown : Derived where
  isShutdowned := fun _ => false
  shutdown := fun node => (.ok (), node)

theorem admissible_writeAndRead : ∀ l ∈ writeAndRead, l.Admissible := by
  have hpeer : peer.Addressable :=
    ⟨by simp [peer], by decide, by decide, by simp [peer], by decide⟩
  have hserves : serving.Serves :=
    ⟨⟨_, rfl, fun _ => rfl⟩, ⟨_, rfl, fun packet => ⟨_, rfl, List.length_replicate⟩⟩⟩
  intro l hl
  simp only [writeAndRead, List.mem_cons, List.not_mem_nil, or_false] at hl
  obtain rfl | rfl | rfl | rfl | rfl | rfl := hl
  · exact ⟨rfl, hpeer, by decide⟩
  · exact ⟨rfl, hpeer, by decide⟩
  · exact ⟨rfl, hserves⟩
  · exact ⟨rfl, hserves⟩
  · trivial
  · trivial

theorem exchanged_of_reaches_writeAndRead :
    ∃ s, Reaches (step ⟨true, neverShutdown, neverShutdown⟩) admissible pair s ∧
      s.completions.map (fun completion => (completion.1, completion.2.data)) =
        [(0, []), (1, [0x5A, 0x5A, 0x5A])] ∧ s.Exchanged := by
  obtain ⟨s, hrun⟩ : ∃ s, run (step ⟨true, neverShutdown, neverShutdown⟩)
      (fun s l => s.unexpired l = true) pair writeAndRead = some s :=
    Option.isSome_iff_exists.mp (by decide +kernel)
  have hreaches : Reaches (step ⟨true, neverShutdown, neverShutdown⟩) admissible pair s :=
    .of_run_forall hrun admissible_writeAndRead
  have hidle : pair.Idle :=
    ⟨⟨rfl, rfl⟩, ⟨rfl, rfl⟩, ⟨rfl, rfl⟩, ⟨rfl, rfl⟩, ⟨rfl, rfl⟩, rfl, ⟨rfl, rfl⟩, rfl⟩
  refine ⟨s, hreaches, ?_, exchanged_of_reaches _ hidle hreaches⟩
  apply eq_of_map_run hrun
    (fun s => s.completions.map fun completion => (completion.1, completion.2.data))
  decide +kernel

end Link

end SpwRmap
