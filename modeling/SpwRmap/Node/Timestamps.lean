import SpwRmap.Node.Lengths

/-!
# The times in the transaction table

The loop of `getAvailableTransactionID_` compares the time of the last use with the clock
only for slots that are not available. Between the calls of a session such a slot has the
time at which it was handed out, and not the value that stands for none.
-/

namespace SpwRmap

open Span Outcome Transition

namespace Table

variable {κ : Type} {clock : Int → Prop} {table : Table κ}

/-- `scanFrom` together with the times from which it computes `elapsed`. -/
def scanTrace (table : Table κ) (now timeout : Int) : List Nat → Option Nat → Scan × List Int
  | [], some i => (.expired i, [])
  | [], none => (.exhausted, [])
  | i :: rest, expired_index =>
      if table.available_transaction_ids_ i then
        (.available i, [])
      else if expired_index = none then
        let elapsed := now - table.transaction_last_used_ i
        let traced := scanTrace table now timeout rest
          (if elapsed > nanoseconds timeout then some i else none)
        (traced.1, table.transaction_last_used_ i :: traced.2)
      else
        scanTrace table now timeout rest expired_index

theorem scanTrace_fst (table : Table κ) (now timeout : Int) (indices : List Nat)
    (expired_index : Option Nat) :
    (table.scanTrace now timeout indices expired_index).1 =
      table.scanFrom now timeout indices expired_index := by
  induction indices generalizing expired_index with
  | nil =>
      cases expired_index with
      | none => rfl
      | some i => rfl
  | cons i rest ih =>
      rw [scanTrace, scanFrom]
      by_cases havailable : table.available_transaction_ids_ i = true
      · rw [if_pos havailable, if_pos havailable]
      rw [if_neg havailable, if_neg havailable]
      cases expired_index with
      | some j =>
          rw [if_neg (Option.some_ne_none j), if_neg fun h => Option.some_ne_none j h.1]
          exact ih (some j)
      | none =>
          rw [if_pos rfl]
          dsimp only
          by_cases hlate : now - table.transaction_last_used_ i > nanoseconds timeout
          · rw [if_pos hlate, if_pos ⟨rfl, hlate⟩, ih]
          · rw [if_neg hlate, if_neg fun h => hlate h.2, ih]

/-- A slot that is not available has a reading of the clock. -/
def Stamped (clock : Int → Prop) (table : Table κ) : Prop :=
  ∀ i, table.available_transaction_ids_ i = false → clock (table.transaction_last_used_ i)

theorem scanTrace_measures (h : table.Stamped clock) (now timeout : Int) (indices : List Nat)
    (expired_index : Option Nat) :
    ∀ time ∈ (table.scanTrace now timeout indices expired_index).2, clock time := by
  induction indices generalizing expired_index with
  | nil =>
      cases expired_index with
      | none => exact fun _ hmem => nomatch hmem
      | some i => exact fun _ hmem => nomatch hmem
  | cons i rest ih =>
      rw [scanTrace]
      split
      · exact fun _ hmem => nomatch hmem
      · rename_i hused
        split
        · intro time hmem
          obtain rfl | hmem := List.mem_cons.mp hmem
          · exact h i (eq_false_of_ne_true hused)
          · exact ih _ time hmem
        · exact ih expired_index

theorem Stamped.acquire (h : table.Stamped clock) (i : Nat) {now : Int} (hnow : clock now) :
    (table.acquire i now).Stamped clock := by
  intro j hj
  by_cases hji : j = i
  · subst hji
    simpa [Table.acquire] using hnow
  · simp only [Table.acquire, Function.update_of_ne hji] at hj ⊢
    exact h j hj

theorem Stamped.release (h : table.Stamped clock) (i : Nat) : (table.release i).Stamped clock := by
  intro j hj
  by_cases hji : j = i
  · subst hji
    simp [Table.release] at hj
  · simp only [Table.release, Function.update_of_ne hji] at hj ⊢
    exact h j hj

end Table

namespace Node

variable {self : Node} {clock : Int → Prop} {now : Nat → Int}

/-- `allocateLoop` together with the times from which its rounds compute `elapsed`. -/
def allocateTrace (ndebug : Bool) : Nat → Node → (Nat → Int) →
    Checked (Except ErrorCode UInt16 × Node) × List Int
  | 0, _, _ => (.error .outOfFuel, [])
  | fuel + 1, self, now =>
      match self.table.scanTrace (now 0) self.transaction_timeout_
        (List.range self.range.total) none with
      | (.available index, measured) =>
          (.ok (.ok (self.range.identifier index),
            { self with table := self.table.acquire index (now 0) }), measured)
      | (.exhausted, measured) =>
          (.ok (.error (.errc .resource_unavailable_try_again), self), measured)
      | (.expired index, measured) =>
          match self.forceReleaseTransaction_ ndebug index with
          | .error fault => (.error fault, measured)
          | .ok self =>
              let (res, later) := allocateTrace ndebug fuel self fun round => now (round + 1)
              (res, measured ++ later)

theorem allocateTrace_fst (ndebug : Bool) (fuel : Nat) (self : Node) (now : Nat → Int) :
    (allocateTrace ndebug fuel self now).1 = allocateLoop ndebug fuel self now := by
  induction fuel generalizing self now with
  | zero => rfl
  | succ fuel ih =>
      have hfst := self.table.scanTrace_fst (now 0) self.transaction_timeout_
        (List.range self.range.total) none
      rw [allocateTrace, allocateLoop, Table.scan, ← hfst]
      generalize self.table.scanTrace (now 0) self.transaction_timeout_
        (List.range self.range.total) none = found
      obtain ⟨scan, measured⟩ := found
      cases scan with
      | available index => rfl
      | exhausted => rfl
      | expired index =>
          dsimp only
          cases self.forceReleaseTransaction_ ndebug index with
          | error fault => rfl
          | ok node => exact ih node _

theorem releaseTransactionID_stamped (h : self.table.Stamped clock) (ndebug : Bool)
    (transaction_id : UInt16) :
    Leaves (fun node => node.table.Stamped clock)
      (self.releaseTransactionID_ ndebug transaction_id) := by
  rw [releaseTransactionID_]
  split
  · apply Yields.any.bind
    exact fun _ _ => h
  · exact h.release _

theorem finish_stamped (h : self.table.Stamped clock) (ndebug : Bool) (callback : Callback) :
    Leaves (fun node => node.table.Stamped clock) (self.finish ndebug callback) := by
  rw [finish]
  apply (releaseTransactionID_stamped h ndebug _).bind
  exact fun _ hnode => hnode

theorem forceReleaseTransaction_stamped (h : self.table.Stamped clock) (ndebug : Bool)
    (index : Nat) :
    Leaves (fun node => node.table.Stamped clock)
      (self.forceReleaseTransaction_ ndebug index) := by
  rw [forceReleaseTransaction_]
  dsimp only
  split
  · refine finish_stamped ?_ ndebug _
    exact h
  · refine releaseTransactionID_stamped ?_ ndebug _
    exact h

/-- By induction on the rounds: a forced release leaves no other times in the table. -/
theorem allocateTrace_measures (h : self.table.Stamped clock) (ndebug : Bool) (fuel : Nat)
    (now : Nat → Int) : ∀ time ∈ (allocateTrace ndebug fuel self now).2, clock time := by
  induction fuel generalizing self now with
  | zero => exact fun _ hmem => nomatch hmem
  | succ fuel ih =>
      have hmeasures := Table.scanTrace_measures h (now 0) self.transaction_timeout_
        (List.range self.range.total) none
      have hrelease := forceReleaseTransaction_stamped h ndebug
      rw [allocateTrace]
      generalize self.table.scanTrace (now 0) self.transaction_timeout_
        (List.range self.range.total) none = found at *
      obtain ⟨scan, measured⟩ := found
      cases scan with
      | available index => exact hmeasures
      | exhausted => exact hmeasures
      | expired index =>
          dsimp only
          have hreleased := hrelease index
          cases hnode : self.forceReleaseTransaction_ ndebug index with
          | error fault => exact hmeasures
          | ok node =>
              intro time hmem
              obtain hmem | hmem := List.mem_append.mp hmem
              · exact hmeasures time hmem
              · exact ih (hreleased.of_ok hnode) _ time hmem

theorem allocateLoop_stamped (h : self.table.Stamped clock) (ndebug : Bool) (fuel : Nat)
    {now : Nat → Int} (hnow : ∀ round, clock (now round)) :
    Leaves (fun r => r.2.table.Stamped clock) (allocateLoop ndebug fuel self now) := by
  induction fuel generalizing self now with
  | zero => trivial
  | succ fuel ih =>
      rw [allocateLoop]
      split
      · exact h.acquire _ (hnow 0)
      · exact h
      · rename_i index _
        apply (forceReleaseTransaction_stamped h ndebug index).bind
        intro node hnode
        exact ih hnode fun round => hnow (round + 1)

theorem start_stamped (h : self.table.Stamped clock) (ndebug : Bool) {env : Environment}
    (hnow : ∀ round, clock (env.now round)) (target_node : TargetNode) (command : Command) :
    Leaves (fun r => r.2.table.Stamped clock) (self.start ndebug target_node env command) := by
  rw [start_eq, startAsyncOperation_]
  dsimp only
  refine Yields.bind (allocateLoop_stamped ?_ ndebug 2 hnow) ?_
  · exact h
  rintro ⟨res, node⟩ hnode
  cases res with
  | error e => exact hnode
  | ok transaction_id =>
      dsimp only
      apply ((sendCommand_yields _ ndebug env target_node transaction_id command).weaken
        fun _ _ => trivial).bind
      rintro ⟨res, sent⟩ ⟨⟨buf, calls, bytes, rfl⟩, -⟩
      cases res with
      | ok _ => exact hnode
      | error e =>
          have hreleased : ∀ node : Node, node.table.Stamped clock →
              Leaves (fun r : AsyncOperation × Node => r.2.table.Stamped clock)
                (node.releaseTransactionID_ ndebug transaction_id >>= fun node =>
                  pure (⟨self.operations, none⟩, node)) := by
            intro node hnode
            exact (releaseTransactionID_stamped hnode ndebug _).bind fun _ hlast => hlast
          exact hreleased _ hnode

theorem cancelTransaction_stamped (h : self.table.Stamped clock) (ndebug : Bool)
    (transaction_id : UInt16) :
    Leaves (fun node => node.table.Stamped clock)
      (self.cancelTransaction_ ndebug transaction_id) := by
  rw [cancelTransaction_]
  split
  · exact h
  · refine releaseTransactionID_stamped ?_ ndebug transaction_id
    exact h

theorem attemptLoop_stamped (ndebug : Bool) (target_node : TargetNode) (command : Command)
    (attempts : Nat) (h : self.table.Stamped clock) {env : Nat → Environment}
    (hnow : ∀ attempt round, clock ((env attempt).now round)) :
    Leaves (fun r => r.2.2.table.Stamped clock)
      (attemptLoop ndebug target_node command attempts self env) := by
  refine attemptLoop_keeps (Q := fun node => node.table.Stamped clock)
    (C := fun env => ∀ round, clock (env.now round)) ?_ ?_ attempts h hnow
  · intro node env henv hnode
    exact start_stamped hnode ndebug henv target_node command
  · intro node transaction_id hnode
    exact cancelTransaction_stamped hnode ndebug transaction_id

theorem pollReply_stamped (h : self.table.Stamped clock) (ndebug : Bool) (env : Environment)
    (packet : Packet) :
    Leaves (fun r => r.2.table.Stamped clock) (self.pollReply ndebug env packet) := by
  rw [pollReply]
  split
  · exact h
  · split
    · exact h
    · dsimp only [runReplyCallback]
      have hcleared : ∀ node : Node, node.table.Stamped clock → ∀ callback,
          Leaves (fun r : Except ErrorCode Bool × Node => r.2.table.Stamped clock)
            (node.finish ndebug callback >>= fun node => pure (.ok true, node)) := by
        intro node hnode callback
        exact (finish_stamped hnode ndebug callback).bind fun _ hlast => hlast
      split
      · apply hcleared
        exact h
      · apply hcleared
        exact h

theorem poll_stamped (h : self.table.Stamped clock) (ndebug : Bool) (role : Role)
    (shutdowned_ : Bool) (res : Except ErrorCode Unit) (env : Environment) :
    Leaves (fun r => r.2.table.Stamped clock)
      (self.poll ndebug (role.derived shutdowned_ res) env) := by
  have hkept : KeptByPacket (fun _ => True) ndebug env fun node => node.table.Stamped clock := by
    constructor
    case faults => exact fun _ _ => trivial
    case transmits =>
      rintro before after ⟨buf, calls, bytes, rfl⟩ hstamped
      exact hstamped
    case record => exact fun _ _ hstamped => hstamped
    case reply => exact fun packet hstamped => pollReply_stamped hstamped ndebug env packet
  exact poll_keeps hkept (fun _ hstamped => hstamped) h role shutdowned_ res

end Node

/-- Every reading of the clock in the call has the property. -/
def Call.Reads (clock : Int → Prop) : Call → Prop
  | .writeAsync _ _ _ env => ∀ round, clock (env.now round)
  | .readAsync _ _ _ env => ∀ round, clock (env.now round)
  | .write _ _ _ _ env => ∀ attempt round, clock ((env attempt).now round)
  | .read _ _ _ _ env => ∀ attempt round, clock ((env attempt).now round)
  | .setTimeout _ => True
  | .poll _ _ _ _ => True

namespace Session

variable {clock : Int → Prop}

theorem call_stamped (ndebug : Bool) (role : Role) {s : Session}
    (h : s.node.table.Stamped clock) {call : Call} (hreads : call.Reads clock) :
    Leaves (fun t => t.node.table.Stamped clock) (s.call ndebug role call) := by
  cases call with
  | writeAsync target_node memory_address data env =>
      exact (Node.start_stamped h ndebug hreads target_node (.write memory_address data)).bind
        fun _ hr => hr
  | readAsync target_node memory_address data_length env =>
      exact (Node.start_stamped h ndebug hreads target_node (.read memory_address data_length)).bind
        fun _ hr => hr
  | write target_node memory_address data retry_count env =>
      exact (Node.attemptLoop_stamped ndebug target_node (.write memory_address data)
        (Node.attempts retry_count) h hreads).bind fun _ hr => hr
  | read target_node memory_address size retry_count env =>
      exact (Node.attemptLoop_stamped ndebug target_node (.read memory_address (UInt32.ofNat size))
        (Node.attempts retry_count) h hreads).bind fun _ hr => hr
  | setTimeout timeout => exact h
  | poll source shutdown shutdowned_ env =>
      have hreceiving : (s.node.receiving source).table.Stamped clock := h
      exact (Node.poll_stamped hreceiving ndebug role shutdowned_ shutdown env).bind
        fun _ hr => hr

theorem stamped_of_reaches (ndebug : Bool) (role : Role) (config : SpwRmapTCPNodeConfig)
    (backend : Backend) {s : Session}
    (h : Reaches (step ndebug role) (fun _ call => call.Reads clock)
      ⟨Node.ofConfig config backend, []⟩ s) : s.node.table.Stamped clock := by
  apply h.invariant (P := fun s => s.node.table.Stamped clock)
  · intro i hused
    contradiction
  · intro t u call _ hreads hstep ht
    exact (call_stamped ndebug role ht hreads).toOption hstep

/-- After any calls, whatever the clock reads: the loop ends, with the least available
identifier, or with the least one whose operation is overdue, which is settled as timed
out, or with an error and nothing changed. With no identifier available it does so exactly
if the comparison of 64-bit times singles out the slot that is overdue. No other slot is
touched in any case, and every time from which `elapsed` is computed is a reading of the
clock in an earlier call. The loop runs after the number of operations was raised for the
new one. -/
theorem allocates_of_reaches (ndebug : Bool) (role : Role) (config : SpwRmapTCPNodeConfig)
    (backend : Backend) (clock : Int → Prop) {s : Session}
    (h : Reaches (step ndebug role) (fun _ call => call.Reads clock)
      ⟨Node.ofConfig config backend, []⟩ s) (operations : Nat) (now : Nat → Int) :
    ∃ r, (∀ fuel, Node.allocateLoop ndebug (fuel + 2) (s.node.counting operations) now = .ok r) ∧
      (Node.Allocates (s.node.counting operations) now r ↔
        (s.node.counting operations).ComparesExactly (now 0)) ∧
      (-2 ^ 63 ≤ s.node.transaction_timeout_ * 10 ^ 6 →
        s.node.transaction_timeout_ * 10 ^ 6 < 2 ^ 63 →
        Node.Allocates (s.node.counting operations) now r) ∧
      (∀ j, r.1 ≠ .ok (s.node.range.identifier j) → Node.SameSlot s.node.table r.2.table j) ∧
      (∀ transaction_id, r.1 = .ok transaction_id →
        s.node.range.transaction_id_min ≤ transaction_id ∧
          transaction_id < s.node.range.transaction_id_max) ∧
      ∀ fuel, (Node.allocateTrace ndebug fuel (s.node.counting operations) now).1 =
          Node.allocateLoop ndebug fuel (s.node.counting operations) now ∧
        (∀ time ∈ (Node.allocateTrace ndebug fuel (s.node.counting operations) now).2,
          clock time) ∧
        (¬clock timePointMin →
          timePointMin ∉ (Node.allocateTrace ndebug fuel (s.node.counting operations) now).2) := by
  have haccounted := accounted_of_run ndebug role config backend h
  have hstamped : (s.node.counting operations).table.Stamped clock :=
    stamped_of_reaches ndebug role config backend h
  obtain ⟨r, hselects, hloop⟩ :=
    Node.allocateLoop_selects (haccounted.filled operations) ndebug now
  have hallocates := Node.allocates_iff hselects
  refine ⟨r, hloop, hallocates, ?_, ?_, ?_, ?_⟩
  · intro hlow hhigh
    exact hallocates.mpr (Node.comparesExactly_of_fits hlow hhigh (now 0))
  · intro j hother
    exact hselects.frame hother
  · intro transaction_id hid
    exact hselects.inRange hid
  · intro fuel
    have hmeasures := Node.allocateTrace_measures hstamped ndebug fuel now
    refine ⟨Node.allocateTrace_fst ndebug fuel _ now, hmeasures, ?_⟩
    intro hmarker hmem
    exact hmarker (hmeasures _ hmem)

/-- Two identifiers, both of them in use for more than a second: the first is taken away
from its operation. -/
theorem allocates_of_reaches_two : ∃ (s : Session) (r : Except ErrorCode UInt16 × Node),
    s.node.table.reply_callback_ 1 = some ⟨1, 0x21⟩ ∧
    Node.allocateLoop true 2 (s.node.counting 3) (fun _ => 2000000000) = .ok r ∧
    Node.Allocates (s.node.counting 3) (fun _ => 2000000000) r ∧
    r.1 = .ok 0x20 ∧ Node.SameSlot s.node.table r.2.table 1 := by
  let target_node : TargetNode := ⟨[], [], 0xFE⟩
  let calls : List Call := [.writeAsync target_node 0 [0x01] { now := fun _ => 1 },
    .writeAsync target_node 0 [0x02] { now := fun _ => 2 }]
  obtain ⟨s, hrun⟩ : ∃ s, run (step true .client) always
      ⟨Node.ofConfig { send_buffer_size := 0, range := ⟨0x20, 0x22, by decide⟩ }
        { incoming := [] }, []⟩ calls = some s := by
    apply Option.isSome_iff_exists.mp
    decide +kernel
  have hcalls : ∀ call ∈ calls, call.Reads (0 < ·) := by
    intro call hcall
    rw [List.mem_cons, List.mem_singleton] at hcall
    obtain rfl | rfl := hcall
    · exact fun _ => (by decide : (0 : Int) < 1)
    · exact fun _ => (by decide : (0 : Int) < 2)
  have hreaches := (Reaches.of_run_forall hrun hcalls).mono fun _ _ hguard => hguard.2
  obtain ⟨r, hloop, -, hfits, hframe, -⟩ :=
    allocates_of_reaches true .client _ _ (0 < ·) hreaches 3 fun _ => 2000000000
  have hres : (Node.allocateLoop true 2 (s.node.counting 3) fun _ => 2000000000).map (·.1) =
      .ok (.ok 0x20) :=
    eq_of_map_run hrun (fun s => (Node.allocateLoop true 2 (s.node.counting 3)
      fun _ => 2000000000).map (·.1)) (by decide +kernel)
  have hslot : s.node.table.reply_callback_ 1 = some ⟨1, 0x21⟩ :=
    eq_of_map_run hrun (fun s => s.node.table.reply_callback_ 1) (by decide +kernel)
  have hrange : s.node.range.identifier 1 = 0x21 :=
    eq_of_map_run hrun (fun s => s.node.range.identifier 1) (by decide +kernel)
  have hzero := hloop 0
  rw [hzero] at hres
  have hid : r.1 = .ok 0x20 := Except.ok.inj hres
  have htimeout : s.node.transaction_timeout_ = 1000 :=
    eq_of_map_run hrun (fun s => s.node.transaction_timeout_) (by decide +kernel)
  refine ⟨s, r, hslot, hzero, ?_, hid, ?_⟩
  · rw [htimeout] at hfits
    exact hfits (by decide) (by decide)
  · apply hframe 1
    rw [hid, hrange]
    decide

/-- The largest timeout there is comes out as one of -1 ms: the only identifier is taken away
from its operation in the instant in which that acquired it. -/
theorem wrapped_timeout_evicts : ∃ (s : Session) (r : Except ErrorCode UInt16 × Node),
    run (step true .client) always
      ⟨Node.ofConfig { send_buffer_size := 0, range := ⟨0x20, 0x21, by decide⟩ }
        { incoming := [] }, []⟩
      [.setTimeout (2 ^ 63 - 1),
        .writeAsync ⟨[], [], 0xFE⟩ 0 [0x01] { now := fun _ => 1 }] = some s ∧
    Node.allocateLoop true 2 (s.node.counting 2) (fun _ => 1) = .ok r ∧
    ¬Node.Allocates (s.node.counting 2) (fun _ => 1) r := by
  obtain ⟨s, hrun⟩ : ∃ s, run (step true .client) always
      ⟨Node.ofConfig { send_buffer_size := 0, range := ⟨0x20, 0x21, by decide⟩ }
        { incoming := [] }, []⟩
      [.setTimeout (2 ^ 63 - 1),
        .writeAsync ⟨[], [], 0xFE⟩ 0 [0x01] { now := fun _ => 1 }] = some s := by
    apply Option.isSome_iff_exists.mp
    decide +kernel
  have hres : (Node.allocateLoop true 2 (s.node.counting 2) fun _ => 1).map (·.1) =
      .ok (.ok 0x20) :=
    eq_of_map_run hrun (fun s => (Node.allocateLoop true 2 (s.node.counting 2)
      fun _ => 1).map (·.1)) (by decide +kernel)
  have hslot : (s.node.range.total, s.node.table.available_transaction_ids_ 0,
      s.node.table.transaction_last_used_ 0, s.node.transaction_timeout_) =
        (1, false, 1, 2 ^ 63 - 1) :=
    eq_of_map_run hrun (fun s => (s.node.range.total,
      s.node.table.available_transaction_ids_ 0, s.node.table.transaction_last_used_ 0,
      s.node.transaction_timeout_)) (by decide +kernel)
  obtain ⟨htotal, hused, hlast, htimeout⟩ := by
    simpa only [Prod.mk.injEq] using hslot
  obtain ⟨r, hloop, hid⟩ : ∃ r,
      Node.allocateLoop true 2 (s.node.counting 2) (fun _ => 1) = .ok r ∧ r.1 = .ok 0x20 := by
    cases hloop : Node.allocateLoop true 2 (s.node.counting 2) fun _ => 1 with
    | error fault =>
        rw [hloop] at hres
        contradiction
    | ok r =>
        rw [hloop] at hres
        exact ⟨r, rfl, Except.ok.inj hres⟩
  refine ⟨s, r, hrun, hloop, ?_⟩
  intro hallocates
  have hone : ∀ j < s.node.range.total, j = 0 := by
    rw [htotal]
    exact fun j hj => Nat.lt_one_iff.mp hj
  have hempty : (s.node.counting 2).availableSlots = ∅ := by
    apply Node.availableSlots_eq_empty
    intro j hj
    rw [hone j hj]
    exact hused
  have hyoung : (s.node.counting 2).overdueSlots 1 = ∅ := by
    apply Set.eq_empty_of_forall_notMem
    rintro j ⟨hj, -, hlate⟩
    rw [hone j hj] at hlate
    have hlate : (1 : Int) - s.node.table.transaction_last_used_ 0 >
        s.node.transaction_timeout_ * 10 ^ 6 := hlate
    rw [hlast, htimeout] at hlate
    contradiction
  have hres := hallocates.exhausted hempty hyoung
  rw [hres] at hid
  contradiction

end Session

end SpwRmap
