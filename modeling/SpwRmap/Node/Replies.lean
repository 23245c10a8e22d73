import SpwRmap.Node.Consistent

/-!
# Which command a reply answers

A transaction identifier is free again as soon as its operation is cancelled or
evicted, while the command may still be answered. `honest` is what is assumed of the
other side: every reply answers a command that was sent and is unanswered, and
carries its identifier. This does not suffice. `timely` is what is missing: callbacks
are registered under an identifier only when no command with that identifier is still
to be answered, and a command goes out only while its slot does not hold the
callbacks of another operation.
-/

namespace SpwRmap.Concurrent

open Transition

variable {range : TransactionRange} {s s' : State} {l : Label} {t : ThreadId} {o : OpId} {i : Nat}

/-- The packets that `poll` looks up in the table. -/
def isReply (packet : Packet) : Bool :=
  packet.type = .ReadReply ∨ packet.type = .WriteReply

/-- The other side answers each command at most once, with its identifier. -/
def honest (range : TransactionRange) (s : State) : Label → Bool
  | .receive packet cause =>
      if isReply packet then
        match cause with
        | none => false
        | some c =>
            c ∈ s.unanswered ∧
              (s.ops c).transaction.map range.identifier = some packet.transactionID
      else
        cause = none
  | _ => true

/-- No identifier is used again before the replies to its earlier commands are in. -/
def timely (s : State) : Label → Bool
  | .step t =>
      match s.threads t with
      | .register _ i => s.unanswered.all fun c => (s.ops c).transaction ≠ some i
      | .sending o i =>
          s.table.reply_callback_ i = none ∨ s.table.reply_callback_ i = some o
      | _ => true
  | _ => true

/-- `poll` hands a received packet to the reply callback of `o`. -/
def Dispatches (range : TransactionRange) (s : State) (packet : Packet) (o : OpId) : Prop :=
  isReply packet ∧
    ∃ i, range.index packet.transactionID = some i ∧ s.table.reply_callback_ i = some o

/-- The unanswered commands under the identifier of a filled slot are its own. -/
structure Answerable (range : TransactionRange) (s : State) : Prop where
  inRange : ∀ o i, (s.ops o).transaction = some i → i < range.total
  registered : ∀ c, c ∈ s.unanswered → (s.ops c).registered = true
  own : ∀ o c i, s.table.reply_callback_ i = some o → c ∈ s.unanswered →
    (s.ops c).transaction = some i → c = o

namespace Answerable

/-- Callbacks may leave the slots and commands be answered; registered operations
keep their identifiers. -/
theorem frame (hs : Answerable range s)
    (hrange : ∀ o i, (s'.ops o).transaction = some i → i < range.total)
    (hops : ∀ o, (s.ops o).registered = true →
      (s'.ops o).registered = true ∧ (s'.ops o).transaction = (s.ops o).transaction)
    (hslot : ∀ o i, s'.table.reply_callback_ i = some o → s.table.reply_callback_ i = some o)
    (hunanswered : ∀ c, c ∈ s'.unanswered → c ∈ s.unanswered) : Answerable range s' := by
  refine ⟨hrange, ?_, ?_⟩
  · intro c hc
    exact (hops c (hs.registered c (hunanswered c hc))).1
  · intro o c i hreply hc htransaction
    have hold := hunanswered c hc
    rw [(hops c (hs.registered c hold)).2] at htransaction
    exact hs.own o c i (hslot o i hreply) hold htransaction

/-- Nothing changes but the threads, the clock, the poll thread and who owns what. -/
theorem congr (hs : Answerable range s) (hops : s'.ops = s.ops)
    (hreply : s'.table.reply_callback_ = s.table.reply_callback_)
    (hunanswered : s'.unanswered = s.unanswered) : Answerable range s' := by
  refine hs.frame ?_ ?_ ?_ ?_
  · rw [hops]
    exact hs.inRange
  · intro o h
    rw [hops]
    exact ⟨h, rfl⟩
  · intro o i h
    rwa [hreply] at h
  · intro c h
    rwa [hunanswered] at h

theorem goto (hs : Answerable range s) (t : ThreadId) (pc : Pc) :
    Answerable range (s.goto t pc) :=
  hs.congr rfl rfl rfl

theorem clear (hs : Answerable range s) (i : Nat) : Answerable range (s.clear i) := by
  refine hs.frame hs.inRange (fun o h => ⟨h, rfl⟩) ?_ (fun c h => h)
  intro o j h
  simp only [State.clear, Table.clear, Function.update_apply] at h
  split at h
  · contradiction
  · exact h

/-- An operation changes, but for its identifier if it is registered. -/
theorem setOp (hs : Answerable range s) {op : Operation}
    (hrange : ∀ i, op.transaction = some i → i < range.total)
    (hop : (s.ops o).registered = true →
      op.registered = true ∧ op.transaction = (s.ops o).transaction) :
    Answerable range (s.setOp o op) := by
  refine hs.frame ?_ ?_ (fun o i h => h) (fun c h => h)
  · intro o' i h
    simp only [State.setOp, Function.update_apply] at h
    split at h
    · exact hrange i h
    · exact hs.inRange o' i h
  · intro o' h
    simp only [State.setOp, Function.update_apply]
    split
    · rename_i hoo
      rw [hoo] at h ⊢
      exact hop h
    · exact ⟨h, rfl⟩

theorem setValue (hs : Answerable range s) (o : OpId) (value : Except ErrorCode Unit) :
    Answerable range (s.setValue o value) :=
  hs.setOp (hs.inRange o) fun h => ⟨h, rfl⟩

theorem started (hs : Answerable range s) (t : ThreadId) (o : OpId) (index : Option Nat) :
    Answerable range (s.started t o index) :=
  State.started_cases (hs.goto t _) fun _ => hs.goto t _

theorem start (hs : Answerable range s) (hc : Consistent s) (t : ThreadId) (kind : OpKind)
    (retries : Option Nat) : Answerable range (s.start t kind retries) := by
  have hop : Answerable range (s.setOp s.nextOp { kind, retries }) := by
    refine hs.setOp (fun i h => by contradiction) ?_
    rw [hc.fresh s.nextOp (Nat.le_refl _)]
    intro h
    contradiction
  exact hop.congr rfl rfl rfl

/-- Callbacks are registered under an identifier without unanswered commands. -/
theorem store (hs : Answerable range s)
    (hnone : ∀ c, c ∈ s.unanswered → (s.ops c).transaction ≠ some i) :
    Answerable range { s with table := s.table.register i o } := by
  refine ⟨hs.inRange, hs.registered, ?_⟩
  intro o' c j hreply hc htransaction
  simp only [Table.register, Function.update_apply] at hreply
  split at hreply
  · rename_i hji
    rw [hji] at htransaction
    exact absurd htransaction (hnone c hc)
  · exact hs.own o' c j hreply hc htransaction

/-- A command goes out while no other operation's callbacks are in its slot. -/
theorem transmit (hs : Answerable range s) (hholding : (s.ops o).Holding i)
    (hslot : ∀ o', s.table.reply_callback_ i = some o' → o' = o) :
    Answerable range { s with unanswered := s.unanswered ++ [o] } := by
  refine ⟨hs.inRange, ?_, ?_⟩
  · intro c hc
    obtain hold | hnew := List.mem_append.mp hc
    · exact hs.registered c hold
    · rw [List.mem_singleton.mp hnew]
      exact hholding.registered
  · intro o' c j hreply hc htransaction
    obtain hold | hnew := List.mem_append.mp hc
    · exact hs.own o' c j hreply hold htransaction
    · rw [List.mem_singleton.mp hnew] at htransaction ⊢
      rw [hholding.transaction] at htransaction
      cases htransaction
      exact (hslot o' hreply).symm

theorem of_section (hs : Answerable range s) (hc : Consistent s) (hguard : timely s l = true)
    (h : Section range s l s') : Answerable range s' := by
  cases h with
  | call hpc => exact hs.start hc _ _ _
  | @found t o i hpc hscan =>
      have hsearch : (s.ops o).Searching := hc.assert hpc
      have hop : Answerable range (s.setOp o { s.ops o with transaction := some i }) := by
        refine hs.setOp ?_ ?_
        · intro j hj
          cases hj
          exact (Table.scan_available hscan).1
        · intro hregistered
          rw [hsearch.registered] at hregistered
          contradiction
      exact hop.congr rfl rfl rfl
  | expired hpc hscan => exact hs.goto _ _
  | exhausted hpc hscan => exact (hs.setValue _ _).started _ _ _
  | evictTake hpc hfree herror => exact (hs.clear _).goto _ _
  | evictNothing hpc hfree herror => exact (hs.clear _).goto _ _
  | evictSettle hpc => exact (hs.setValue _ _).goto _ _
  | evictRelease hpc => exact hs.congr rfl rfl rfl
  | evictReleaseNothing hpc => exact hs.congr rfl rfl rfl
  | evictReset hpc => exact hs.congr rfl rfl rfl
  | @register t o i hpc hfree =>
      have hnone : ∀ c, c ∈ s.unanswered → (s.ops c).transaction ≠ some i := by
        simpa [timely, hpc] using hguard
      have hstore : Answerable range { s with table := s.table.register i o } := hs.store hnone
      have hop : Answerable range ({ s with table := s.table.register i o }.setOp o
          { s.ops o with registered := true }) :=
        hstore.setOp (hs.inRange o) fun _ => ⟨rfl, rfl⟩
      exact hop.goto _ _
  | @transmit t o i hpc =>
      have hslot : ∀ o', s.table.reply_callback_ i = some o' → o' = o := by
        intro o' h
        simpa [timely, hpc, h] using hguard
      exact (hs.transmit (hc.assert hpc) hslot).goto _ _
  | sent hpc => exact hs.started _ _ _
  | failClear hpc hfree => exact (hs.clear _).goto _ _
  | failSettle hpc => exact (hs.setValue _ _).goto _ _
  | @failRelease t o i hpc =>
      have hreleased : Answerable range (s.release i) := hs.congr rfl rfl rfl
      exact hreleased.started _ _ _
  | ready hpc hset => exact hs.goto _ _
  | cancelClear hpc hfree => exact (hs.clear _).goto _ _
  | @cancelRelease t o i hpc =>
      have hreleased : Answerable range (s.release i) := hs.congr rfl rfl rfl
      have hop : Answerable range ((s.release i).setOp o { s.ops o with cancelled := true }) :=
        hreleased.setOp (hs.inRange o) fun h => ⟨h, rfl⟩
      exact State.retry_cases (hop.start (hc.cancel hpc) t) (hop.goto t _)
  | sendFails hpc => exact hs.goto _ _
  | timeout hpc hunset => exact hs.goto _ _
  | ignored hpoll =>
      exact hs.frame hs.inRange (fun _ h => ⟨h, rfl⟩) (fun _ _ h => h)
        fun _ h => List.mem_of_mem_filter h
  | @dispatched packet cause o i hpoll htype hindex hreply =>
      exact (hs.clear i).frame hs.inRange (fun _ h => ⟨h, rfl⟩) (fun _ _ h => h)
        fun _ h => List.mem_of_mem_filter h
  | @complete throws o i packet hpoll hthrows =>
      have hop : Answerable range (s.setOp o
          { s.ops o with completions := (s.ops o).completions ++ [packet] }) :=
        hs.setOp (hs.inRange o) fun h => ⟨h, rfl⟩
      exact hop.congr rfl rfl rfl
  | @settle throws o i value hpoll => exact (hs.setValue o value).congr rfl rfl rfl
  | pollRelease hpoll => exact hs.congr rfl rfl rfl
  | pollReset hpoll => exact hs.congr rfl rfl rfl
  | tick => exact hs.congr rfl rfl rfl
  | setTimeout => exact hs.congr rfl rfl rfl
  | lose =>
      exact hs.frame hs.inRange (fun _ h => ⟨h, rfl⟩) (fun _ _ h => h)
        fun _ h => List.mem_of_mem_filter h

theorem initial (range : TransactionRange) (now : Int) : Answerable range { now := now } := by
  refine ⟨?_, ?_, ?_⟩
  · intro o i h
    contradiction
  · intro c h
    contradiction
  · intro o c i h
    contradiction

end Answerable

/-- Every reply that reaches a callback answers the command of its operation, in runs
with an honest other side that use no identifier again too early. -/
theorem dispatch_answers_own_command {now : Int}
    (h : Reaches (step range) (fun s l => honest range s l ∧ timely s l) { now := now } s)
    {packet : Packet} {cause : Option OpId} {o : OpId}
    (hhonest : honest range s (.receive packet cause) = true)
    (hdispatch : Dispatches range s packet o) : cause = some o := by
  have hs : Answerable range s := by
    refine h.invariant (.initial range now) ?_
    intro t u l hreach hguard hstep ht
    exact ht.of_section (.of_reaches hreach) hguard.2 (.of_step hstep)
  obtain ⟨htype, i, hindex, hreply⟩ := hdispatch
  cases cause with
  | none => simp [honest, htype] at hhonest
  | some c =>
      simp only [honest, htype, if_true, decide_eq_true_eq] at hhonest
      obtain ⟨hmem, hid⟩ := hhonest
      obtain ⟨j, hj, hpacket⟩ := Option.map_eq_some_iff.mp hid
      rw [← hpacket, range.index_identifier (hs.inRange c j hj)] at hindex
      cases hindex
      rw [hs.own o c _ hreply hmem hj]

/-- Two asynchronous writes are out, and their replies come in the other order. -/
def overtakingReplies : List Label :=
  [.call 0 .write none, .step 0, .step 0, .step 0, .step 0,
    .call 1 .write none, .step 1, .step 1, .step 1, .step 1,
    .receive { type := .WriteReply, transactionID := 0x21 } (some 1),
    .pollStep false, .pollStep false, .pollStep false, .pollStep false]

theorem dispatch_answers_own_command_overtaking :
    ∃ s, Reaches (step {}) (fun s l => honest {} s l ∧ timely s l) {} s ∧
      Dispatches {} s { type := .WriteReply, transactionID := 0x20 } 0 ∧
      ∀ cause, honest {} s (.receive { type := .WriteReply, transactionID := 0x20 } cause) = true →
        cause = some 0 := by
  obtain ⟨s, hreach, hs⟩ :
      ∃ s, Reaches (step {}) (fun s l => honest {} s l ∧ timely s l) {} s ∧
        s.table.reply_callback_ 0 = some 0 :=
    Reaches.exists_of_run overtakingReplies rfl
  have hdispatch : Dispatches {} s { type := .WriteReply, transactionID := 0x20 } 0 :=
    ⟨rfl, 0, rfl, hs⟩
  exact ⟨s, hreach, hdispatch, fun cause hhonest =>
    dispatch_answers_own_command hreach hhonest hdispatch⟩

/-- A synchronous write times out and is cancelled; an asynchronous one gets its
identifier and is sent. -/
def reusedIdentifier : List Label :=
  [.call 0 .write (some 1), .step 0, .step 0, .step 0, .step 0, .timeout 0, .step 0, .step 0,
    .call 1 .write none, .step 1, .step 1, .step 1, .step 1]

/-- The late reply to the first write goes to the second one. -/
theorem reusedIdentifier_misdirects :
    ∃ s, Reaches (step {}) (fun s l => honest {} s l) {} s ∧
      honest {} s (.receive { type := .WriteReply, transactionID := 0x20 } (some 0)) = true ∧
      Dispatches {} s { type := .WriteReply, transactionID := 0x20 } 1 := by
  obtain ⟨s, hreach, hhonest, hs⟩ : ∃ s, Reaches (step {}) (fun s l => honest {} s l) {} s ∧
      honest {} s (.receive { type := .WriteReply, transactionID := 0x20 } (some 0)) = true ∧
      s.table.reply_callback_ 0 = some 1 :=
    Reaches.exists_of_run reusedIdentifier rfl
  exact ⟨s, hreach, hhonest, rfl, 0, rfl, hs⟩

end SpwRmap.Concurrent
