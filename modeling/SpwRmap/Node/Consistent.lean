import SpwRmap.Lib.Transition
import SpwRmap.Node.Sections

/-!
# What every interleaving keeps consistent

Each program counter carries an assertion about the operations it mentions
(`Pc.Assert`): an operation still looking for an identifier has none and has not
been settled, one past its registration has its identifier and keeps it, and a
thread about to release an identifier after settling a promise has settled it. The
assertions survive the steps of the other threads, because a thread changes an
operation that is not its own only after the operation was registered
(`Operation.Later`). Together with the contents of the slots they hold in every
reachable state, whatever the order of steps.
-/

namespace SpwRmap.Concurrent

open Transition

namespace Operation

/-- Still inside `getAvailableTransactionID_`. -/
structure Searching (op : Operation) : Prop where
  transaction : op.transaction = none
  promise : op.promise = []
  registered : op.registered = false

/-- Registered under the identifier with index `i`. -/
structure Holding (op : Operation) (i : Nat) : Prop where
  transaction : op.transaction = some i
  registered : op.registered = true

/-- What other threads may do to an operation: nothing before it is registered. -/
def Later (op op' : Operation) : Prop :=
  op' = op ∨
    (op.registered = true ∧ op'.registered = true ∧ op'.transaction = op.transaction ∧
      op'.retries = op.retries ∧ (op.promise ≠ [] → op'.promise ≠ []))

variable {op op' : Operation} {i : Nat}

theorem Later.searching (h : Later op op') (hop : Searching op) : Searching op' := by
  obtain rfl | ⟨hregistered, -⟩ := h
  · exact hop
  · rw [hop.registered] at hregistered
    contradiction

theorem Later.holding (h : Later op op') (hop : Holding op i) : Holding op' i := by
  obtain rfl | ⟨-, hregistered, htransaction, -⟩ := h
  · exact hop
  · exact ⟨htransaction.trans hop.transaction, hregistered⟩

theorem Later.promise (h : Later op op') (hop : op.promise ≠ []) : op'.promise ≠ [] := by
  obtain rfl | ⟨-, -, -, -, hpromise⟩ := h
  · exact hop
  · exact hpromise hop

theorem Later.retries (h : Later op op') : op'.retries = op.retries := by
  obtain rfl | ⟨-, -, -, hretries, -⟩ := h
  · rfl
  · exact hretries

end Operation

/-- The operation a thread works for. -/
def Pc.own : Pc → Option OpId
  | .idle => none
  | .allocate o | .evictTake o _ | .evictSettle o _ _ | .evictRelease o _ _ | .evictReset o _ _
  | .register o _ | .sending o _ | .sent o _ | .failClear o _ _ | .failSettle o _ _
  | .failRelease o _ | .waiting o _ | .cancelClear o _ | .cancelRelease o _ => some o

/-- What is known of the operations a thread mentions. -/
def Pc.Assert (ops : OpId → Operation) : Pc → Prop
  | .idle => True
  | .allocate o | .evictTake o _ | .evictRelease o _ none => (ops o).Searching
  | .evictSettle o i v => (ops o).Searching ∧ (ops v).Holding i
  | .evictRelease o i (some v) =>
      (ops o).Searching ∧ (ops v).Holding i ∧ (ops v).promise ≠ []
  | .evictReset o i v => (ops o).Searching ∧ (ops v).Holding i
  | .register o i =>
      (ops o).transaction = some i ∧ (ops o).promise = [] ∧ (ops o).registered = false
  | .sending o i | .sent o i | .failClear o i _ | .failSettle o i _ => (ops o).Holding i
  | .failRelease o i => (ops o).Holding i ∧ (ops o).promise ≠ []
  | .waiting o (some i) | .cancelClear o i | .cancelRelease o i =>
      (ops o).Holding i ∧ (ops o).retries ≠ none
  | .waiting _ none => True

/-- What is known of the operation whose callback the poll thread runs. -/
def PollPc.Assert (ops : OpId → Operation) : PollPc → Prop
  | .idle => True
  | .complete o i _ | .settle o i _ | .reset o i => (ops o).Holding i
  | .release o i => (ops o).Holding i ∧ (ops o).promise ≠ []

/-- The assertion of a thread survives changes to registered operations, and any
change to an unregistered operation that is not its own. -/
theorem Pc.Assert.frame {ops ops' : OpId → Operation} {pc : Pc} (h : pc.Assert ops)
    (hchange : ∀ o, (ops o).Later (ops' o) ∨ ((ops o).registered = false ∧ pc.own ≠ some o)) :
    pc.Assert ops' := by
  have hown : ∀ o, pc.own = some o → (ops o).Later (ops' o) := by
    intro o ho
    exact (hchange o).resolve_right fun hother => hother.2 ho
  have hheld : ∀ o i, (ops o).Holding i → (ops o).Later (ops' o) := by
    intro o i ho
    exact (hchange o).resolve_right fun hother => by simp [ho.registered] at hother
  cases pc with
  | idle => trivial
  | allocate o => exact (hown o rfl).searching h
  | evictTake o i => exact (hown o rfl).searching h
  | evictSettle o i v => exact ⟨(hown o rfl).searching h.1, (hheld v i h.2).holding h.2⟩
  | evictRelease o i v =>
      cases v with
      | none => exact (hown o rfl).searching h
      | some v =>
          obtain ⟨hsearch, hhold, hset⟩ := h
          exact ⟨(hown o rfl).searching hsearch, (hheld v i hhold).holding hhold,
            (hheld v i hhold).promise hset⟩
  | evictReset o i v => exact ⟨(hown o rfl).searching h.1, (hheld v i h.2).holding h.2⟩
  | register o i =>
      obtain hsame | ⟨hregistered, -⟩ := hown o rfl
      · rw [Pc.Assert, hsame]
        exact h
      · rw [h.2.2] at hregistered
        contradiction
  | sending o i => exact (hown o rfl).holding h
  | sent o i => exact (hown o rfl).holding h
  | failClear o i e => exact (hown o rfl).holding h
  | failSettle o i e => exact (hown o rfl).holding h
  | failRelease o i => exact ⟨(hown o rfl).holding h.1, (hown o rfl).promise h.2⟩
  | waiting o i =>
      cases i with
      | none => trivial
      | some i => exact ⟨(hown o rfl).holding h.1, (hown o rfl).retries ▸ h.2⟩
  | cancelClear o i => exact ⟨(hown o rfl).holding h.1, (hown o rfl).retries ▸ h.2⟩
  | cancelRelease o i => exact ⟨(hown o rfl).holding h.1, (hown o rfl).retries ▸ h.2⟩

/-- The poll thread mentions registered operations only. -/
theorem PollPc.Assert.frame {ops ops' : OpId → Operation} {pc : PollPc} (h : pc.Assert ops)
    (hchange : ∀ o, (ops o).registered = true → (ops o).Later (ops' o)) : pc.Assert ops' := by
  cases pc with
  | idle => trivial
  | complete o i packet => exact (hchange o h.registered).holding h
  | settle o i value => exact (hchange o h.registered).holding h
  | release o i =>
      exact ⟨(hchange o h.1.registered).holding h.1, (hchange o h.1.registered).promise h.2⟩
  | reset o i => exact (hchange o h.registered).holding h

/-- Where a thread was before it starts an operation does not matter. -/
theorem State.start_goto (s : State) (t : ThreadId) (pc : Pc) (kind : OpKind)
    (retries : Option Nat) : (s.goto t pc).start t kind retries = s.start t kind retries := by
  simp [State.start, State.goto, State.setOp]

/-- What holds wherever a thread can be after the start of an operation. -/
theorem State.started_cases {P : State → Prop} {s : State} {t : ThreadId} {o : OpId}
    {index : Option Nat} (hreturns : P (s.goto t .idle))
    (hwaits : (s.ops o).retries ≠ none → P (s.goto t (.waiting o index))) :
    P (s.started t o index) := by
  rw [State.started]
  split
  · exact hreturns
  · rename_i hsync
    exact hwaits hsync

/-- What holds after the end of an attempt, whether or not another one follows. -/
theorem State.retry_cases {P : State → Prop} {s : State} {t : ThreadId} {o : OpId}
    (hagain : ∀ kind retries, P (s.start t kind retries)) (hreturns : P (s.goto t .idle)) :
    P (s.retry t o) := by
  rw [State.retry]
  split
  · exact hagain _ _
  · exact hreturns

section Frame

variable (s : State) (t : ThreadId) (o : OpId) (index : Option Nat)

@[simp] theorem State.started_ops : (s.started t o index).ops = s.ops := by
  rw [State.started]
  split <;> rfl

@[simp] theorem State.started_table : (s.started t o index).table = s.table := by
  rw [State.started]
  split <;> rfl

@[simp] theorem State.started_poll : (s.started t o index).poll = s.poll := by
  rw [State.started]
  split <;> rfl

@[simp] theorem State.started_now : (s.started t o index).now = s.now := by
  rw [State.started]
  split <;> rfl

@[simp] theorem State.started_timeout :
    (s.started t o index).transaction_timeout_ = s.transaction_timeout_ := by
  rw [State.started]
  split <;> rfl

@[simp] theorem State.retry_table : (s.retry t o).table = s.table := by
  rw [State.retry]
  split <;> rfl

@[simp] theorem State.retry_poll : (s.retry t o).poll = s.poll := by
  rw [State.retry]
  split <;> rfl

@[simp] theorem State.retry_now : (s.retry t o).now = s.now := by
  rw [State.retry]
  split <;> rfl

@[simp] theorem State.retry_timeout :
    (s.retry t o).transaction_timeout_ = s.transaction_timeout_ := by
  rw [State.retry]
  split <;> rfl

end Frame

structure Consistent (s : State) : Prop where
  fresh : ∀ o, s.nextOp ≤ o → s.ops o = {}
  own_lt : ∀ t o, (s.threads t).own = some o → o < s.nextOp
  own_inj : ∀ t t' o, (s.threads t).own = some o → (s.threads t').own = some o → t = t'
  threads : ∀ t, (s.threads t).Assert s.ops
  poll : s.poll.Assert s.ops
  slot : ∀ o i, s.table.reply_callback_ i = some o → (s.ops o).Holding i
  error : ∀ o i, s.table.reply_error_callback_ i = some o → s.table.reply_callback_ i = some o
  pollSlot : ∀ i, s.locked i → s.table.reply_callback_ i = none
  cancelled : ∀ o, (s.ops o).cancelled = true → (s.ops o).retries ≠ none
  indexed : ∀ o, (s.ops o).registered = true → ∃ i, (s.ops o).transaction = some i

namespace Consistent

variable {range : TransactionRange} {s s' : State} {l : Label} {t : ThreadId} {o : OpId} {i : Nat}

/-- What holds of every operation still does when it holds of the one that changes. -/
theorem forall_ops (P : Operation → Prop) {ops : OpId → Operation} {op : Operation} (hop : P op)
    (hops : ∀ o, P (ops o)) : ∀ o', P (Function.update ops o op o') :=
  (Function.forall_update_iff ops (p := fun _ => P)).mpr ⟨hop, fun o' _ => hops o'⟩

/-- The clock, the network and the availability of identifiers play no part. -/
theorem congr (hs : Consistent s) (hops : s'.ops = s.ops) (hnext : s'.nextOp = s.nextOp)
    (hthreads : s'.threads = s.threads) (hpoll : s'.poll = s.poll)
    (hreply : s'.table.reply_callback_ = s.table.reply_callback_)
    (herror : s'.table.reply_error_callback_ = s.table.reply_error_callback_) :
    Consistent s' := by
  obtain ⟨fresh, own_lt, own_inj, threads, poll, slot, error, pollSlot, cancelled,
    indexed⟩ := hs
  refine ⟨?_, ?_, ?_, ?_, ?_, ?_, ?_, ?_, ?_, ?_⟩
  · rwa [hops, hnext]
  · rwa [hthreads, hnext]
  · rwa [hthreads]
  · rwa [hthreads, hops]
  · rwa [hpoll, hops]
  · rwa [hreply, hops]
  · rwa [hreply, herror]
  · rwa [hreply, show s'.locked = s.locked by funext i; rw [State.locked, State.locked, hpoll]]
  · rwa [hops]
  · rwa [hops]

theorem release (hs : Consistent s) (i : Nat) : Consistent (s.release i) :=
  hs.congr rfl rfl rfl rfl rfl rfl

/-- A thread goes on, for the same operation or for none. -/
theorem goto (hs : Consistent s) {pc : Pc} (hassert : pc.Assert s.ops)
    (hown : ∀ o, pc.own = some o → (s.threads t).own = some o) : Consistent (s.goto t pc) := by
  have hthread : ∀ t' o, ((s.goto t pc).threads t').own = some o → (s.threads t').own = some o := by
    intro t' o h
    simp only [State.goto, Function.update_apply] at h
    split at h
    · rename_i htt
      rw [htt]
      exact hown o h
    · exact h
  refine ⟨hs.fresh, ?_, ?_, ?_, hs.poll, hs.slot, hs.error, hs.pollSlot, hs.cancelled, hs.indexed⟩
  · intro t' o h
    exact hs.own_lt t' o (hthread t' o h)
  · intro t₁ t₂ o h₁ h₂
    exact hs.own_inj t₁ t₂ o (hthread t₁ o h₁) (hthread t₂ o h₂)
  · intro t'
    simp only [State.goto, Function.update_apply]
    split
    · exact hassert
    · exact hs.threads t'

/-- A thread returns from its call. -/
theorem leave (hs : Consistent s) (t : ThreadId) : Consistent (s.goto t .idle) := by
  refine hs.goto trivial ?_
  intro o h
  contradiction

theorem lt_of_registered (hs : Consistent s) (h : (s.ops o).registered = true) : o < s.nextOp := by
  by_contra hge
  rw [hs.fresh o (Nat.le_of_not_lt hge)] at h
  contradiction

/-- A registered operation changes. -/
theorem setOp (hs : Consistent s) {op : Operation} (hregistered : (s.ops o).registered = true)
    (hlater : (s.ops o).Later op) (hcancelled : op.cancelled = true → op.retries ≠ none) :
    Consistent (s.setOp o op) := by
  have hall : ∀ o', (s.ops o').Later ((s.setOp o op).ops o') := by
    intro o'
    simp only [State.setOp, Function.update_apply]
    split
    · rename_i hoo
      rw [hoo]
      exact hlater
    · exact .inl rfl
  refine ⟨?_, hs.own_lt, hs.own_inj, ?_, ?_, ?_, hs.error, hs.pollSlot, ?_, ?_⟩
  · intro o' ho'
    have hne : o' ≠ o := by
      rintro rfl
      exact absurd (hs.lt_of_registered hregistered) (Nat.not_lt.mpr ho')
    simp only [State.setOp, Function.update_of_ne hne]
    exact hs.fresh o' ho'
  · intro t
    exact (hs.threads t).frame fun o' => .inl (hall o')
  · exact hs.poll.frame fun o' _ => hall o'
  · intro o' i h
    exact (hall o').holding (hs.slot o' i h)
  · exact forall_ops (fun op => op.cancelled = true → op.retries ≠ none) hcancelled hs.cancelled
  · intro o' h
    by_cases hoo : o' = o
    · subst hoo
      obtain ⟨i, hi⟩ := hs.indexed o' hregistered
      exact ⟨i, ((hall o').holding ⟨hi, hregistered⟩).transaction⟩
    · simp only [State.setOp, Function.update_of_ne hoo] at h ⊢
      exact hs.indexed o' h

/-- A thread changes its own operation before registering it. -/
theorem setOwn (hs : Consistent s) (hown : (s.threads t).own = some o)
    (hunregistered : (s.ops o).registered = false) (op : Operation)
    (hcancelled : op.cancelled = true → op.retries ≠ none)
    (hindexed : op.registered = true → ∃ i, op.transaction = some i) (pc : Pc)
    (hassert : pc.Assert (Function.update s.ops o op)) (hpc : ∀ o', pc.own = some o' → o' = o) :
    Consistent ((s.setOp o op).goto t pc) := by
  have hother : ∀ o', (s.ops o').registered = true → o' ≠ o := by
    rintro o' ho' rfl
    rw [hunregistered] at ho'
    contradiction
  have hlater : ∀ o', (s.ops o').registered = true →
      (s.ops o').Later (Function.update s.ops o op o') := by
    intro o' ho'
    exact .inl (Function.update_of_ne (hother o' ho') ..)
  have hthread : ∀ t' o', (((s.setOp o op).goto t pc).threads t').own = some o' →
      (s.threads t').own = some o' := by
    intro t' o' h
    simp only [State.goto, State.setOp, Function.update_apply] at h
    split at h
    · rename_i htt
      rw [htt, hpc o' h]
      exact hown
    · exact h
  refine ⟨?_, ?_, ?_, ?_, hs.poll.frame hlater, ?_, hs.error, hs.pollSlot, ?_, ?_⟩
  · intro o' ho'
    have hne : o' ≠ o := by
      rintro rfl
      exact absurd (hs.own_lt t o' hown) (Nat.not_lt.mpr ho')
    exact (Function.update_of_ne hne ..).trans (hs.fresh o' ho')
  · intro t' o' h
    exact hs.own_lt t' o' (hthread t' o' h)
  · intro t₁ t₂ o' h₁ h₂
    exact hs.own_inj t₁ t₂ o' (hthread t₁ o' h₁) (hthread t₂ o' h₂)
  · intro t'
    simp only [State.goto, Function.update_apply]
    split
    · exact hassert
    · rename_i htt
      refine (hs.threads t').frame ?_
      intro o'
      by_cases hoo : o' = o
      · subst hoo
        exact .inr ⟨hunregistered, fun h => htt (hs.own_inj t' t o' h hown)⟩
      · exact .inl (.inl (Function.update_of_ne hoo ..))
  · intro o' i h
    exact (hlater o' (hs.slot o' i h).registered).holding (hs.slot o' i h)
  · exact forall_ops (fun op => op.cancelled = true → op.retries ≠ none) hcancelled hs.cancelled
  · exact forall_ops (fun op => op.registered = true → ∃ i, op.transaction = some i) hindexed
      hs.indexed

/-- A thread starts a new operation. -/
theorem start (hs : Consistent s) (t : ThreadId) (kind : OpKind) (retries : Option Nat) :
    Consistent (s.start t kind retries) := by
  have hnew : s.ops s.nextOp = {} := hs.fresh s.nextOp (Nat.le_refl _)
  have hlater : ∀ o, (s.ops o).registered = true →
      (s.ops o).Later ((s.start t kind retries).ops o) := by
    intro o ho
    exact .inl (Function.update_of_ne (Nat.ne_of_lt (hs.lt_of_registered ho)) ..)
  have hthread : ∀ t' o, ((s.start t kind retries).threads t').own = some o →
      (t' = t ∧ o = s.nextOp) ∨ (t' ≠ t ∧ (s.threads t').own = some o) := by
    intro t' o h
    simp only [State.start, State.goto, State.setOp, Function.update_apply] at h
    split at h
    · rename_i htt
      cases h
      exact .inl ⟨htt, rfl⟩
    · rename_i htt
      exact .inr ⟨htt, h⟩
  refine ⟨?_, ?_, ?_, ?_, hs.poll.frame hlater, ?_, hs.error, hs.pollSlot, ?_, ?_⟩
  · intro o ho
    have ho' : s.nextOp < o := ho
    exact (Function.update_of_ne (Nat.ne_of_gt ho') ..).trans (hs.fresh o (Nat.le_of_lt ho'))
  · intro t' o h
    obtain ⟨-, rfl⟩ | ⟨-, h⟩ := hthread t' o h
    · exact Nat.lt_succ_self _
    · exact Nat.lt_succ_of_lt (hs.own_lt t' o h)
  · intro t₁ t₂ o h₁ h₂
    obtain ⟨rfl, rfl⟩ | ⟨-, h₁⟩ := hthread t₁ o h₁
    · obtain ⟨rfl, -⟩ | ⟨-, h₂⟩ := hthread t₂ _ h₂
      · rfl
      · exact absurd (hs.own_lt t₂ _ h₂) (Nat.lt_irrefl _)
    · obtain ⟨-, rfl⟩ | ⟨-, h₂⟩ := hthread t₂ o h₂
      · exact absurd (hs.own_lt t₁ _ h₁) (Nat.lt_irrefl _)
      · exact hs.own_inj t₁ t₂ o h₁ h₂
  · intro t'
    simp only [State.start, State.goto, Function.update_apply]
    split
    · simp only [Pc.Assert, State.setOp, Function.update_self]
      exact ⟨rfl, rfl, rfl⟩
    · refine (hs.threads t').frame ?_
      intro o
      by_cases hoo : o = s.nextOp
      · subst hoo
        refine .inr ⟨by rw [hnew], ?_⟩
        intro h
        exact absurd (hs.own_lt t' _ h) (Nat.lt_irrefl _)
      · exact .inl (.inl (Function.update_of_ne hoo ..))
  · intro o i h
    exact (hlater o (hs.slot o i h).registered).holding (hs.slot o i h)
  · exact forall_ops (fun op => op.cancelled = true → op.retries ≠ none) (by simp) hs.cancelled
  · exact forall_ops (fun op => op.registered = true → ∃ i, op.transaction = some i) (by simp)
      hs.indexed

/-- Callbacks only leave the slots. -/
theorem clear (hs : Consistent s) (i : Nat) : Consistent (s.clear i) := by
  refine ⟨hs.fresh, hs.own_lt, hs.own_inj, hs.threads, hs.poll, ?_, ?_, ?_, hs.cancelled,
    hs.indexed⟩
  · intro o j h
    simp only [State.clear, Table.clear, Function.update_apply] at h
    split at h
    · contradiction
    · exact hs.slot o j h
  · intro o j h
    simp only [State.clear, Table.clear, Function.update_apply] at h ⊢
    split at h
    · contradiction
    · rename_i hji
      rw [if_neg hji]
      exact hs.error o j h
  · intro j h
    simp only [State.clear, Table.clear, Function.update_apply]
    split
    · rfl
    · exact hs.pollSlot j h

theorem resetError (hs : Consistent s) (i : Nat) : Consistent (s.resetError i) := by
  refine ⟨hs.fresh, hs.own_lt, hs.own_inj, hs.threads, hs.poll, hs.slot, ?_, hs.pollSlot,
    hs.cancelled, hs.indexed⟩
  intro o j h
  simp only [State.resetError, Table.resetError, Function.update_apply] at h
  split at h
  · contradiction
  · exact hs.error o j h

/-- Callbacks enter a slot that the poll thread has not locked. -/
theorem store (hs : Consistent s) (hholding : (s.ops o).Holding i) (hfree : ¬ s.locked i) :
    Consistent { s with table := s.table.register i o } := by
  refine ⟨hs.fresh, hs.own_lt, hs.own_inj, hs.threads, hs.poll, ?_, ?_, ?_, hs.cancelled,
    hs.indexed⟩
  · intro o' j h
    simp only [Table.register, Function.update_apply] at h
    split at h
    · rename_i hji
      cases h
      rw [hji]
      exact hholding
    · exact hs.slot o' j h
  · intro o' j h
    simp only [Table.register, Function.update_apply] at h ⊢
    split at h
    · rename_i hji
      rw [if_pos hji]
      exact h
    · rename_i hji
      rw [if_neg hji]
      exact hs.error o' j h
  · intro j h
    simp only [Table.register, Function.update_apply]
    split
    · rename_i hji
      rw [hji] at h
      exact absurd h hfree
    · exact hs.pollSlot j h

/-- The poll thread goes on. -/
theorem setPoll (hs : Consistent s) {poll : PollPc} (hassert : poll.Assert s.ops)
    (hslot : ∀ i, poll.slot = some i → s.table.reply_callback_ i = none) :
    Consistent { s with poll := poll } :=
  ⟨hs.fresh, hs.own_lt, hs.own_inj, hs.threads, hassert, hs.slot, hs.error, hslot, hs.cancelled,
    hs.indexed⟩

/-- The promise of a registered operation is given a value. -/
theorem setValue (hs : Consistent s) (hholding : (s.ops o).Holding i)
    (value : Except ErrorCode Unit) : Consistent (s.setValue o value) := by
  refine hs.setOp hholding.registered ?_ (hs.cancelled o)
  exact .inr ⟨hholding.registered, hholding.registered, rfl, rfl, by simp⟩

/-- The start of an operation is over. -/
theorem started (hs : Consistent s) (hown : (s.threads t).own = some o) {index : Option Nat}
    (hassert : (s.ops o).retries ≠ none → (Pc.waiting o index).Assert s.ops) :
    Consistent (s.started t o index) := by
  apply State.started_cases (hs.leave t)
  intro hsync
  apply hs.goto (hassert hsync)
  intro o' h
  cases h
  exact hown

/-- The assertion of the thread that moves is the precondition of its section. -/
theorem assert (hs : Consistent s) {pc : Pc} (hpc : s.threads t = pc) : pc.Assert s.ops :=
  hpc ▸ hs.threads t

theorem pollAssert (hs : Consistent s) {pc : PollPc} (hpoll : s.poll = pc) : pc.Assert s.ops :=
  hpoll ▸ hs.poll

/-- A thread goes on with the operation it has. -/
theorem proceed (hs : Consistent s) {pc pc' : Pc} (hpc : s.threads t = pc)
    (hassert : pc.Assert s.ops → pc'.Assert s.ops) (hown : pc'.own = pc.own) :
    Consistent (s.goto t pc') := by
  refine hs.goto (hassert (hs.assert hpc)) ?_
  intro o h
  rw [hpc, ← hown]
  exact h

/-- The poll thread goes on, with the lock it has. -/
theorem proceedPoll (hs : Consistent s) {pc pc' : PollPc} (hpoll : s.poll = pc)
    (hassert : pc.Assert s.ops → pc'.Assert s.ops) (hslot : pc'.slot = pc.slot) :
    Consistent { s with poll := pc' } := by
  refine hs.setPoll (hassert (hs.pollAssert hpoll)) ?_
  intro i hi
  refine hs.pollSlot i ?_
  rw [State.locked, hpoll, ← hslot]
  exact hi

/-- Cancelling is the end of an attempt: another one starts, or none. -/
theorem retry (hs : Consistent s) (t : ThreadId) (o : OpId) : Consistent (s.retry t o) :=
  State.retry_cases (hs.start t) (hs.leave t)

/-- The second section of a cancellation. -/
theorem cancel (hs : Consistent s) (hpc : s.threads t = .cancelRelease o i) :
    Consistent ((s.release i).setOp o { s.ops o with cancelled := true }) := by
  obtain ⟨hholding, hsync⟩ : (Pc.cancelRelease o i).Assert s.ops := hs.assert hpc
  refine (hs.release i).setOp hholding.registered ?_ fun _ => hsync
  exact .inr ⟨hholding.registered, hholding.registered, rfl, rfl, fun h => h⟩

theorem of_section (hs : Consistent s) (h : Section range s l s') : Consistent s' := by
  cases h with
  | call hpc => exact hs.start _ _ _
  | @found t o i hpc hscan =>
      have hsearch : (s.ops o).Searching := hs.assert hpc
      have hmoved : Consistent ((s.setOp o { s.ops o with transaction := some i }).goto t
          (.register o i)) := by
        refine hs.setOwn (by rw [hpc]; rfl) hsearch.registered
          { s.ops o with transaction := some i } (hs.cancelled o) (fun _ => ⟨i, rfl⟩) _ ?_ ?_
        · simp only [Pc.Assert, Function.update_self]
          exact ⟨trivial, hsearch.promise, hsearch.registered⟩
        · intro o' h
          exact (Option.some.inj h).symm
      exact hmoved.congr rfl rfl rfl rfl rfl rfl
  | expired hpc hscan => exact hs.proceed hpc (fun h => h) rfl
  | @exhausted t o hpc hscan =>
      have hsearch : (s.ops o).Searching := hs.assert hpc
      have hown : (s.threads t).own = some o := by rw [hpc]; rfl
      let op : Operation := { s.ops o with
        promise := (s.ops o).promise ++ [.error (.errc .resource_unavailable_try_again)] }
      rw [State.started]
      split
      · refine hs.setOwn hown hsearch.registered op (hs.cancelled o) (hs.indexed o) .idle
          trivial ?_
        intro o' h
        contradiction
      · refine hs.setOwn hown hsearch.registered op (hs.cancelled o) (hs.indexed o)
          (.waiting o none) trivial ?_
        intro o' h
        exact (Option.some.inj h).symm
  | evictTake hpc hfree herror =>
      exact (hs.clear _).proceed hpc (fun h => ⟨h, hs.slot _ _ (hs.error _ _ herror)⟩) rfl
  | evictNothing hpc hfree herror => exact (hs.clear _).proceed hpc (fun h => h) rfl
  | @evictSettle t o v i hpc =>
      have hset := hs.setValue (hs.assert hpc).2 (.error (.errc .timed_out))
      refine hset.proceed hpc (fun h => ⟨h.1, h.2, ?_⟩) rfl
      simp [State.setValue, State.setOp]
  | evictRelease hpc => exact (hs.release _).proceed hpc (fun h => ⟨h.1, h.2.1⟩) rfl
  | evictReleaseNothing hpc => exact (hs.release _).proceed hpc (fun h => h) rfl
  | evictReset hpc => exact (hs.resetError _).proceed hpc (fun h => h.1) rfl
  | @register t o i hpc hfree =>
      obtain ⟨htransaction, -, hunregistered⟩ : (Pc.register o i).Assert s.ops := hs.assert hpc
      have hholding : Operation.Holding
          (Function.update s.ops o { s.ops o with registered := true } o) i := by
        rw [Function.update_self]
        exact ⟨htransaction, rfl⟩
      have hmoved : Consistent ((s.setOp o { s.ops o with registered := true }).goto t
          (.sending o i)) := by
        refine hs.setOwn (by rw [hpc]; rfl) hunregistered
          { s.ops o with registered := true } (hs.cancelled o) (fun _ => ⟨i, htransaction⟩) _
          hholding ?_
        intro o' h
        exact (Option.some.inj h).symm
      exact hmoved.store hholding hfree
  | @transmit t o i hpc =>
      have hmoved : Consistent (s.goto t (.sent o i)) := hs.proceed hpc (fun h => h) rfl
      exact hmoved.congr rfl rfl rfl rfl rfl rfl
  | sent hpc => exact hs.started (by rw [hpc]; rfl) fun hsync => ⟨hs.assert hpc, hsync⟩
  | failClear hpc hfree => exact (hs.clear _).proceed hpc (fun h => h) rfl
  | @failSettle t o i e hpc =>
      have hset := hs.setValue (hs.assert hpc) (.error e)
      refine hset.proceed hpc (fun h => ⟨h, ?_⟩) rfl
      simp [State.setValue, State.setOp]
  | @failRelease t o i hpc =>
      exact (hs.release i).started (show (s.threads t).own = some o by rw [hpc]; rfl)
        fun _ => trivial
  | ready hpc hset => exact hs.leave _
  | cancelClear hpc hfree => exact (hs.clear _).proceed hpc (fun h => h) rfl
  | cancelRelease hpc => exact (hs.cancel hpc).retry _ _
  | sendFails hpc => exact hs.proceed hpc (fun h => h) rfl
  | timeout hpc hunset => exact hs.proceed hpc (fun h => h) rfl
  | ignored hpoll => exact hs.congr rfl rfl rfl rfl rfl rfl
  | @dispatched packet cause o i hpoll htype hindex hreply =>
      have hpolled : Consistent { s.clear i with poll := .complete o i packet } := by
        refine (hs.clear i).setPoll (hs.slot o i hreply) ?_
        intro j hj
        cases hj
        exact Function.update_self ..
      exact hpolled.congr rfl rfl rfl rfl rfl rfl
  | @complete throws o i packet hpoll hthrows =>
      have hholding : (s.ops o).Holding i := hs.pollAssert hpoll
      have hcalled : Consistent (s.setOp o
          { s.ops o with completions := (s.ops o).completions ++ [packet] }) := by
        refine hs.setOp hholding.registered ?_ (hs.cancelled o)
        exact .inr ⟨hholding.registered, hholding.registered, rfl, rfl, fun h => h⟩
      exact hcalled.proceedPoll hpoll (fun h => h) rfl
  | @settle throws o i value hpoll =>
      have hset := hs.setValue (hs.pollAssert hpoll) value
      refine hset.proceedPoll hpoll (fun h => ⟨h, ?_⟩) rfl
      simp [State.setValue, State.setOp]
  | pollRelease hpoll => exact (hs.release _).proceedPoll hpoll (fun h => h.1) rfl
  | pollReset hpoll =>
      refine (hs.resetError _).setPoll trivial ?_
      intro j hj
      contradiction
  | tick => exact hs.congr rfl rfl rfl rfl rfl rfl
  | setTimeout => exact hs.congr rfl rfl rfl rfl rfl rfl
  | lose => exact hs.congr rfl rfl rfl rfl rfl rfl

/-- No call has been made, so nothing is mentioned anywhere. -/
theorem initial (now : Int) : Consistent { now := now } := by
  refine ⟨fun _ _ => rfl, ?_, ?_, fun _ => trivial, trivial, ?_, ?_, fun _ _ => rfl, ?_, ?_⟩
  · intro t o h
    contradiction
  · intro t t' o h
    contradiction
  · intro o i h
    contradiction
  · intro o i h
    contradiction
  · intro o h
    contradiction
  · intro o h
    contradiction

/-- Every reachable state is consistent, under any guard. -/
theorem of_reaches {guard : State → Label → Prop} {now : Int}
    (h : Reaches (step range) guard { now := now } s) : Consistent s := by
  refine h.invariant (initial now) ?_
  intro t u l _ _ hstep ht
  exact ht.of_section (.of_step hstep)

end Consistent

end SpwRmap.Concurrent
