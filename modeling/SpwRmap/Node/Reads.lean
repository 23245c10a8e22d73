import SpwRmap.Node.Callbacks
import SpwRmap.Packet.Grammar

/-!
# The data of a synchronous read

`read` passes a callback that copies `data.size()` bytes from the data of the reply into
the buffer of its caller. Nothing compares that size with the length of the reply, nor
the type of the reply with the command: a reply with less data is read past its end, one
with more data succeeds, and a write reply leaves in the parser's record the data of an
earlier packet.

The model adds to the concurrent node the parser, the buffer of the call that each thread
is in and the packets from which the replies were parsed. The copy is checked; a copy
past the end of its source ends the run. A packet that does not parse is an error of
`poll` that leaves its mark in the parser's record only.
-/

namespace SpwRmap.Concurrent

variable {range : TransactionRange} {s s' : State} {l : Label} {t : ThreadId} {o : OpId} {i : Nat}

/-- The operations up to the next one are of the same calls. -/
def SameCalls (s s' : State) : Prop :=
  ∀ o, o < s.nextOp → (s'.ops o).kind = (s.ops o).kind ∧ (s'.ops o).retries = (s.ops o).retries

theorem SameCalls.refl (s : State) : SameCalls s s := fun _ _ => ⟨rfl, rfl⟩

theorem SameCalls.setOp {op : Operation} (hkind : op.kind = (s.ops o).kind)
    (hretries : op.retries = (s.ops o).retries) : SameCalls s (s.setOp o op) := by
  intro o' _
  simp only [State.setOp, Function.update_apply]
  split
  · rename_i hoo
    rw [hoo]
    exact ⟨hkind, hretries⟩
  · exact ⟨rfl, rfl⟩

theorem SameCalls.start (t : ThreadId) (kind : OpKind) (retries : Option Nat) :
    SameCalls s (s.start t kind retries) := by
  intro o ho
  have hops : (s.start t kind retries).ops o = s.ops o :=
    Function.update_of_ne (Nat.ne_of_lt ho) ..
  rw [hops]
  exact ⟨rfl, rfl⟩

theorem Section.sameCalls (h : Section range s l s') : SameCalls s s' := by
  cases h with
  | call => exact .start _ _ _
  | found => exact .setOp rfl rfl
  | exhausted =>
      rw [SameCalls, State.started_ops]
      exact SameCalls.setOp rfl rfl
  | evictSettle => exact .setOp rfl rfl
  | register => exact .setOp rfl rfl
  | sent =>
      rw [SameCalls, State.started_ops]
      exact SameCalls.refl s
  | failSettle => exact .setOp rfl rfl
  | failRelease =>
      rw [SameCalls, State.started_ops]
      exact SameCalls.refl s
  | @cancelRelease t o i hpc =>
      have hcancel : SameCalls s ((s.release i).setOp o { s.ops o with cancelled := true }) :=
        .setOp rfl rfl
      apply State.retry_cases
      · intro kind retries o' ho'
        obtain ⟨hkind, hretries⟩ := SameCalls.start
          (s := (s.release i).setOp o { s.ops o with cancelled := true }) t kind retries o' ho'
        exact ⟨hkind.trans (hcancel o' ho').1, hretries.trans (hcancel o' ho').2⟩
      · exact hcancel
  | complete => exact .setOp rfl rfl
  | settle => exact .setOp rfl rfl
  | _ => exact .refl s

/-- Only the call of `on_complete` adds to the completions. -/
theorem Section.completions (h : Section range s l s')
    (hne : (s'.ops o).completions ≠ []) :
    (s.ops o).completions ≠ [] ∨
      ∃ i packet throws, s.poll = .complete o i packet ∧ l = .pollStep throws := by
  have hset : ∀ {v : OpId} {op : Operation}, (Function.update s.ops v op o).completions ≠ [] →
      op.completions = (s.ops v).completions → (s.ops o).completions ≠ [] := by
    intro v op hne hop
    rw [Function.update_apply] at hne
    split at hne
    · rename_i hoo
      rw [hop, ← hoo] at hne
      exact hne
    · exact hne
  have hstart : ∀ {s : State} {t : ThreadId} {kind : OpKind} {retries : Option Nat},
      ((s.start t kind retries).ops o).completions ≠ [] → (s.ops o).completions ≠ [] := by
    intro s t kind retries hne
    simp only [State.start, State.goto, State.setOp, Function.update_apply] at hne
    split at hne
    · contradiction
    · exact hne
  cases h with
  | call => exact .inl (hstart hne)
  | found => exact .inl (hset hne rfl)
  | exhausted =>
      rw [State.started_ops] at hne
      exact .inl (hset hne rfl)
  | evictSettle => exact .inl (hset hne rfl)
  | register => exact .inl (hset hne rfl)
  | sent =>
      rw [State.started_ops] at hne
      exact .inl hne
  | failSettle => exact .inl (hset hne rfl)
  | failRelease =>
      rw [State.started_ops] at hne
      exact .inl hne
  | @cancelRelease t v i hpc =>
      rw [State.retry] at hne
      split at hne
      · exact .inl (hset (hstart hne) rfl)
      · exact .inl (hset hne rfl)
  | @complete throws v i packet hpoll hthrows =>
      by_cases hov : o = v
      · subst hov
        exact .inr ⟨i, packet, throws, hpoll, rfl⟩
      · left
        simpa only [State.setOp, Function.update_of_ne hov] using hne
  | settle => exact .inl (hset hne rfl)
  | _ => exact .inl hne

/-- A thread works for the operation it worked for, or for a new one that it starts. -/
theorem Section.own (h : Section range s l s') (hown : (s'.threads t).own = some o) :
    (s.threads t).own = some o ∨
      (o = s.nextOp ∧ (l = .step t ∨ ∃ kind retry_count, l = .call t kind retry_count)) := by
  have hgoto : ∀ {u : ThreadId} {pc : Pc}, (Function.update s.threads u pc t).own = some o →
      pc.own = none ∨ pc.own = (s.threads u).own → (s.threads t).own = some o := by
    intro u pc h hpc
    rw [Function.update_apply] at h
    split at h
    · rename_i htu
      obtain hnone | hsame := hpc
      · rw [hnone] at h
        contradiction
      · rw [htu, ← hsame]
        exact h
    · exact h
  have hstart : ∀ {u : ThreadId},
      (Function.update s.threads u (.allocate s.nextOp) t).own = some o →
      (s.threads t).own = some o ∨ (o = s.nextOp ∧ t = u) := by
    intro u h
    rw [Function.update_apply] at h
    split at h
    · rename_i htu
      exact .inr ⟨(Option.some.inj h).symm, htu⟩
    · exact .inl h
  have hstarted : ∀ {s₁ : State} {u : ThreadId} {v : OpId} {index : Option Nat},
      ((s₁.started u v index).threads t).own = some o → s₁.threads = s.threads →
      (s.threads u).own = some v → (s.threads t).own = some o := by
    intro s₁ u v index h hthreads hv
    rw [State.started] at h
    split at h
    · rw [State.goto, hthreads] at h
      exact hgoto h (.inl rfl)
    · rw [State.goto, hthreads] at h
      exact hgoto h (.inr hv.symm)
  cases h with
  | @call u kind retry_count hpc =>
      obtain h | ⟨hnext, rfl⟩ := hstart hown
      · exact .inl h
      · exact .inr ⟨hnext, .inr ⟨kind, retry_count, rfl⟩⟩
  | exhausted hpc => exact .inl (hstarted hown rfl (by rw [hpc]; rfl))
  | sent hpc => exact .inl (hstarted hown rfl (by rw [hpc]; rfl))
  | failRelease hpc => exact .inl (hstarted hown rfl (by rw [hpc]; rfl))
  | ready hpc => exact .inl (hgoto hown (.inl rfl))
  | @cancelRelease u v i hpc =>
      rw [State.retry] at hown
      split at hown
      · obtain h | ⟨hnext, rfl⟩ := hstart hown
        · exact .inl h
        · exact .inr ⟨hnext, .inl rfl⟩
      · exact .inl (hgoto hown (.inl rfl))
  | found hpc => exact .inl (hgoto hown (.inr (by rw [hpc]; rfl)))
  | expired hpc => exact .inl (hgoto hown (.inr (by rw [hpc]; rfl)))
  | evictTake hpc => exact .inl (hgoto hown (.inr (by rw [hpc]; rfl)))
  | evictNothing hpc => exact .inl (hgoto hown (.inr (by rw [hpc]; rfl)))
  | evictSettle hpc => exact .inl (hgoto hown (.inr (by rw [hpc]; rfl)))
  | evictRelease hpc => exact .inl (hgoto hown (.inr (by rw [hpc]; rfl)))
  | evictReleaseNothing hpc => exact .inl (hgoto hown (.inr (by rw [hpc]; rfl)))
  | evictReset hpc => exact .inl (hgoto hown (.inr (by rw [hpc]; rfl)))
  | register hpc => exact .inl (hgoto hown (.inr (by rw [hpc]; rfl)))
  | transmit hpc => exact .inl (hgoto hown (.inr (by rw [hpc]; rfl)))
  | failClear hpc => exact .inl (hgoto hown (.inr (by rw [hpc]; rfl)))
  | failSettle hpc => exact .inl (hgoto hown (.inr (by rw [hpc]; rfl)))
  | cancelClear hpc => exact .inl (hgoto hown (.inr (by rw [hpc]; rfl)))
  | sendFails hpc => exact .inl (hgoto hown (.inr (by rw [hpc]; rfl)))
  | timeout hpc => exact .inl (hgoto hown (.inr (by rw [hpc]; rfl)))
  | _ => exact .inl hown

/-- The poll thread gets to `on_complete` by a reply that arrives. -/
theorem Section.polled (h : Section range s l s') {packet : Packet}
    (hpoll : s'.poll = .complete o i packet) :
    (s.poll = .complete o i packet ∧ ∀ throws, l ≠ .pollStep throws) ∨
      ((∃ cause, l = .receive packet cause) ∧
        (packet.type = .ReadReply ∨ packet.type = .WriteReply) ∧
        range.index packet.transactionID = some i ∧ s.table.reply_callback_ i = some o) := by
  cases h with
  | dispatched hidle htype hindex hreply =>
      cases hpoll
      exact .inr ⟨⟨_, rfl⟩, htype, hindex, hreply⟩
  | exhausted | sent | failRelease =>
      rw [State.started_poll] at hpoll
      exact .inl ⟨hpoll, by simp⟩
  | cancelRelease =>
      rw [State.retry_poll] at hpoll
      exact .inl ⟨hpoll, by simp⟩
  | complete | settle | pollRelease | pollReset => contradiction
  | _ => exact .inl ⟨hpoll, by simp⟩

end SpwRmap.Concurrent

namespace SpwRmap.Reads

open Concurrent Transition Span Grammar PacketParser

structure State where
  node : Concurrent.State := {}
  packet_parser_ : PacketParser := {}
  /-- `data` of the call that a thread is in. -/
  data : ThreadId → List UInt8 := fun _ => []
  /-- The thread that started an operation. -/
  caller : OpId → ThreadId := fun _ => 0
  /-- The packet whose record was handed to an operation. -/
  answer : OpId → Option (List UInt8) := fun _ => none
  fault : Option Fault := none

inductive Label where
  /-- A call, with the buffer that a `read` is given. -/
  | call (t : ThreadId) (kind : OpKind) (retry_count : Option Nat) (data : List UInt8)
  /-- `recvAndParseOnePacket_` receives these bytes. -/
  | receive (packet : List UInt8) (cause : Option OpId)
  /-- Any other step of the node. -/
  | other (l : Concurrent.Label)

namespace State

variable (range : TransactionRange) (s : State)

/-- An attempt of a synchronous read. -/
def SyncRead (o : OpId) : Prop :=
  (s.node.ops o).kind = .read ∧ (s.node.ops o).retries ≠ none

instance (o : OpId) : Decidable (s.SyncRead o) := inferInstanceAs (Decidable (_ ∧ _))

/-- The callback that `read` passes: `std::copy_n(packet.data.data(), data.size(),
data.data())`. The callbacks of the other calls touch no buffer. -/
def onComplete (o : OpId) (packet : Packet) : Checked (ThreadId → List UInt8) :=
  if s.SyncRead o then do
    let bytes ← subspan packet.data 0 (s.data (s.caller o)).length
    return Function.update s.data (s.caller o) bytes
  else
    .ok s.data

/-- A step of the node alone. -/
def move (l : Concurrent.Label) : Option State :=
  (Concurrent.step range s.node l).map fun node => { s with node }

/-- A step of a client thread, which may start an operation. -/
def moveClient (t : ThreadId) : Option State :=
  (s.move range (.step t)).map fun s' =>
    { s' with caller := Function.update s.caller s.node.nextOp t }

def call (t : ThreadId) (kind : OpKind) (retry_count : Option Nat) (data : List UInt8) :
    Option State :=
  (s.move range (.call t kind retry_count)).map fun s' =>
    { s' with
      data := Function.update s.data t data
      caller := Function.update s.caller s.node.nextOp t }

/-- The packet that an operation is handed to, if the poll thread has one. -/
def handed (node : Concurrent.State) (packet : List UInt8) : OpId → Option (List UInt8) :=
  match node.poll with
  | .complete o _ _ => Function.update s.answer o (some packet)
  | _ => s.answer

def receive (packet : List UInt8) (cause : Option OpId) : Option State :=
  match s.packet_parser_.parse packet with
  | .error _ => none
  | .ok (status, packet_parser_) =>
      if status = .Success then
        (s.move range (.receive packet_parser_.packet_ cause)).map fun s' =>
          { s' with packet_parser_, answer := s.handed s'.node packet }
      else if s.node.poll.slot = none then
        some { s with packet_parser_ }
      else
        none

def pollStep (throws : Bool) : Option State :=
  match s.node.poll with
  | .complete o _ packet =>
      match s.onComplete o packet with
      | .error fault => some { s with fault := some fault }
      | .ok data => (s.move range (.pollStep throws)).map fun s' => { s' with data }
  | _ => s.move range (.pollStep throws)

end State

/-- A fault ends the run. -/
def step (range : TransactionRange) (s : State) (l : Label) : Option State :=
  if s.fault ≠ none then none
  else
    match l with
    | .call t kind retry_count data => s.call range t kind retry_count data
    | .receive packet cause => s.receive range packet cause
    | .other (.step t) => s.moveClient range t
    | .other (.pollStep throws) => s.pollStep range throws
    | .other (.call _ _ _) | .other (.receive _ _) => none
    | .other l => s.move range l

/-- A reply that arrives for an attempt of a synchronous read is a read reply, and
announces as many bytes as the buffer of the caller has. -/
def matching (range : TransactionRange) (s : State) : Label → Bool
  | .receive packet _ =>
      match (range.index (UInt16.ofNat (numberOf (bodyOf packet) 5 2))).bind
          s.node.table.reply_callback_ with
      | some o => s.SyncRead o → (byteOf (bodyOf packet) 2).toNat.testBit 6 = false →
          (byteOf (bodyOf packet) 2).toNat.testBit 5 = false ∧
            numberOf (bodyOf packet) 8 3 = (s.data (s.caller o)).length
      | none => true
  | _ => true

/-- The data field of the read reply that an operation was handed. -/
def OwnData (s : State) (o : OpId) (field : List UInt8) : Prop :=
  ∃ packet path body, s.answer o = some packet ∧ Accepts .ReadReply packet path body ∧
    field = (body.drop 12).take (numberOf body 8 3)

/-- The copy for a synchronous read stays inside the data of its own reply, and a
successful read has in its buffer exactly these data. -/
structure Intact (s : State) : Prop where
  fault : s.fault = none
  copies : ∀ o i packet, s.node.poll = .complete o i packet → s.SyncRead o →
    OwnData s o packet.data ∧ (s.data (s.caller o)).length ≤ packet.data.length
  success : ∀ t o index, s.node.threads t = .waiting o index → s.SyncRead o →
    (s.node.ops o).promise.head? = some (.ok ()) → OwnData s o (s.data t)

structure Inv (s : State) : Prop where
  fault : s.fault = none
  caller : ∀ t o, (s.node.threads t).own = some o → s.caller o = t
  polled : ∀ o i packet, s.node.poll = .complete o i packet → s.SyncRead o →
    OwnData s o packet.data ∧ (s.data (s.caller o)).length = packet.data.length
  delivered : ∀ t o, (s.node.threads t).own = some o → s.SyncRead o →
    (s.node.ops o).completions ≠ [] → OwnData s o (s.data t)

section Steps

variable {range : TransactionRange} {s s' : State} {l : Concurrent.Label}
variable {t : ThreadId} {o : OpId} {i : Nat}

theorem OwnData.congr {field : List UInt8} (h : OwnData s o field)
    (hanswer : s'.answer o = s.answer o) : OwnData s' o field := by
  obtain ⟨packet, path, body, hpacket, haccepts, hfield⟩ := h
  exact ⟨packet, path, body, hanswer.trans hpacket, haccepts, hfield⟩

/-- The caller of a read that may still be completed is in it. -/
theorem Inv.attended (hs : Inv s) (ht : OnTime s.node) (hpending : Pending s.node o)
    (hsync : s.SyncRead o) : (s.node.threads (s.caller o)).own = some o := by
  obtain ⟨t, hown⟩ := ht.attended o hpending hsync.2
  rw [hs.caller t o hown]
  exact hown

/-- Any step but a call of `on_complete`. The buffers of idle threads may change, and the
answers of operations that were not handed one. -/
theorem Inv.move (hs : Inv s) (hc : Consistent s.node) (ht : OnTime s.node)
    (h : Section range s.node l s'.node) (hfault : s'.fault = none)
    (hcaller : ∀ o, o < s.node.nextOp → s'.caller o = s.caller o)
    (hnew : ∀ t, (l = .step t ∨ ∃ kind retry_count, l = .call t kind retry_count) →
      s'.caller s.node.nextOp = t)
    (hdata : ∀ t, s'.data t = s.data t ∨ s.node.threads t = .idle)
    (hanswer : ∀ o, (s.node.ops o).completions ≠ [] ∨ (∃ i packet, s.node.poll =
      .complete o i packet) → s'.answer o = s.answer o)
    (hcompletes : ∀ o i packet, s.node.poll = .complete o i packet →
      ∀ throws, l ≠ .pollStep throws)
    (hreceived : ∀ o i packet cause, l = .receive packet cause →
      s'.node.poll = .complete o i packet → s.node.table.reply_callback_ i = some o →
      range.index packet.transactionID = some i → s.SyncRead o →
      OwnData s' o packet.data ∧ (s.data (s.caller o)).length = packet.data.length) : Inv s' := by
  have hsync : ∀ o, o < s.node.nextOp → s'.SyncRead o → s.SyncRead o := by
    intro o ho hsync
    obtain ⟨hkind, hretries⟩ := h.sameCalls o ho
    rw [State.SyncRead, hkind, hretries] at hsync
    exact hsync
  have hbuffer : ∀ t o, (s.node.threads t).own = some o → s'.data t = s.data t := by
    intro t o hown
    obtain hsame | hidle := hdata t
    · exact hsame
    · rw [hidle] at hown
      contradiction
  refine ⟨hfault, ?_, ?_, ?_⟩
  · intro t o hown
    obtain hold | ⟨rfl, hstarts⟩ := h.own hown
    · rw [hcaller o (hc.own_lt t o hold)]
      exact hs.caller t o hold
    · exact hnew t hstarts
  · intro o i packet hpoll hread
    obtain ⟨hold, -⟩ | ⟨⟨cause, rfl⟩, -, hindex, hreply⟩ := h.polled hpoll
    · have ho : o < s.node.nextOp := hc.lt_of_registered (hc.pollAssert hold).registered
      have hread := hsync o ho hread
      have hown := hs.attended ht (.inr ⟨i, packet, hold⟩) hread
      obtain ⟨hfield, hlength⟩ := hs.polled o i packet hold hread
      rw [hcaller o ho, hbuffer _ o hown]
      exact ⟨hfield.congr (hanswer o (.inr ⟨i, packet, hold⟩)), hlength⟩
    · have ho : o < s.node.nextOp := hc.lt_of_registered (hc.slot o i hreply).registered
      have hread := hsync o ho hread
      have hown := hs.attended ht (.inl ⟨i, hreply⟩) hread
      rw [hcaller o ho, hbuffer _ o hown]
      exact hreceived o i packet cause rfl hpoll hreply hindex hread
  · intro t o hown hread hne
    obtain hold | ⟨i, packet, throws, hpoll, hl⟩ := h.completions hne
    · have ho : o < s.node.nextOp := by
        by_contra hge
        rw [hc.fresh o (Nat.le_of_not_lt hge)] at hold
        contradiction
      obtain hown | ⟨hnext, -⟩ := h.own hown
      · rw [hbuffer t o hown]
        exact (hs.delivered t o hown (hsync o ho hread) hold).congr (hanswer o (.inl hold))
      · exact absurd hnext (Nat.ne_of_lt ho)
    · exact absurd hl (hcompletes o i packet hpoll throws)

/-- The copy reads the data of the reply and nothing else. -/
theorem onComplete_eq {packet : Packet} (hread : s.SyncRead o)
    (hlength : (s.data (s.caller o)).length = packet.data.length) :
    s.onComplete o packet = .ok (Function.update s.data (s.caller o) packet.data) := by
  rw [State.onComplete, if_pos hread, hlength, subspan_eq (Nat.le_of_eq (Nat.zero_add _)),
    List.drop_zero, List.take_length]
  rfl

/-- `on_complete` runs. -/
theorem Inv.complete (hs : Inv s) (hc : Consistent s.node) (ht : OnTime s.node) {packet : Packet}
    (hpoll : s.node.poll = .complete o i packet) {throws : Bool} {node : Concurrent.State}
    (h : Section range s.node (.pollStep throws) node) :
    ∃ data, s.onComplete o packet = .ok data ∧ Inv { s with node, data } := by
  have hown : ∀ t v, (node.threads t).own = some v → (s.node.threads t).own = some v := by
    intro t v hv
    obtain hold | ⟨-, hl | ⟨kind, retry_count, hl⟩⟩ := h.own hv
    · exact hold
    · contradiction
    · contradiction
  have hsync : ∀ t v data, (s.node.threads t).own = some v →
      State.SyncRead { s with node, data } v → s.SyncRead v := by
    intro t v data hv hread
    obtain ⟨hkind, hretries⟩ := h.sameCalls v (hc.own_lt t v hv)
    simp only [State.SyncRead, hkind, hretries] at hread
    exact hread
  have hpolled : ∀ v j packet', node.poll ≠ .complete v j packet' := by
    intro v j packet' hv
    obtain ⟨-, hl⟩ | ⟨⟨cause, hl⟩, -⟩ := h.polled hv
    · exact hl throws rfl
    · contradiction
  have hcompletions : ∀ v, v ≠ o → (node.ops v).completions ≠ [] →
      (s.node.ops v).completions ≠ [] := by
    intro v hvo hne
    obtain hold | ⟨j, packet', throws', hv, -⟩ := h.completions hne
    · exact hold
    · rw [hpoll] at hv
      cases hv
      exact absurd rfl hvo
  have hpending : Pending s.node o := .inr ⟨i, packet, hpoll⟩
  by_cases hread : s.SyncRead o
  · obtain ⟨hfield, hlength⟩ := hs.polled o i packet hpoll hread
    have hcalling : (s.node.threads (s.caller o)).own = some o := hs.attended ht hpending hread
    refine ⟨_, onComplete_eq hread hlength, hs.fault, fun t v hv => hs.caller t v (hown t v hv),
      fun v j packet' hv => absurd hv (hpolled v j packet'), ?_⟩
    intro t v hmoved hsv hne
    have hv := hown t v hmoved
    have hsv := hsync t v _ hv hsv
    by_cases hvo : v = o
    · subst hvo
      have hdata : Function.update s.data (s.caller v) packet.data t = packet.data := by
        rw [hs.caller t v hv, Function.update_self]
      simp only [hdata]
      exact hfield.congr rfl
    · -- Another thread, whose buffer is another one.
      have htt : t ≠ s.caller o := by
        rintro rfl
        rw [hcalling] at hv
        exact hvo (Option.some.inj hv).symm
      simp only [Function.update_of_ne htt]
      exact (hs.delivered t v hv hsv (hcompletions v hvo hne)).congr rfl
  · refine ⟨s.data, if_neg hread, hs.fault, fun t v hv => hs.caller t v (hown t v hv),
      fun v j packet' hv => absurd hv (hpolled v j packet'), ?_⟩
    intro t v hmoved hsv hne
    have hv := hown t v hmoved
    have hsv := hsync t v _ hv hsv
    have hvo : v ≠ o := by
      rintro rfl
      exact hread hsv
    exact (hs.delivered t v hv hsv (hcompletions v hvo hne)).congr rfl

/-- What a parsed reply for a read is, under the guard. -/
theorem ownData_of_parse {packet : List UInt8} {cause : Option OpId} {parser : PacketParser}
    (hparse : s.packet_parser_.parse packet = .ok (.Success, parser))
    (hguard : matching range s (.receive packet cause) = true)
    (htype : parser.packet_.type = .ReadReply ∨ parser.packet_.type = .WriteReply)
    (hindex : range.index parser.packet_.transactionID = some i)
    (hreply : s.node.table.reply_callback_ i = some o) (hread : s.SyncRead o) :
    ∃ path body, Accepts .ReadReply packet path body ∧
      parser.packet_.data = (body.drop 12).take (numberOf body 8 3) ∧
      (s.data (s.caller o)).length = parser.packet_.data.length := by
  have hne : packet ≠ [] := by
    rintro rfl
    contradiction
  obtain ⟨path, body, haccepts, hfields⟩ :=
    (parse_success_iff s.packet_parser_ packet hne).2 _ hparse
  obtain ⟨-, hbody⟩ := haccepts.path_body
  have hformat := haccepts.format
  rw [FieldsAt] at hfields
  have hid : ∀ p : Packet, p.transactionID.toNat = numberOf body 5 2 →
      UInt16.ofNat (numberOf body 5 2) = p.transactionID := by
    intro p hp
    rw [← hp, UInt16.ofNat_toNat]
  simp only [matching, hbody] at hguard
  obtain htype | htype := htype
  · rw [htype] at haccepts hformat hfields
    obtain ⟨⟨-, -, -, -, -, htid⟩, -, hdata⟩ := hfields
    rw [hid _ htid, hindex, Option.bind_some, hreply] at hguard
    obtain ⟨-, hlength⟩ := of_decide_eq_true hguard hread hformat.1
    refine ⟨path, body, haccepts, hdata, ?_⟩
    rw [← hlength, hdata, List.length_take, List.length_drop, hformat.2.2.1]
    omega
  · rw [htype] at hformat hfields
    obtain ⟨-, -, -, -, -, htid⟩ := hfields
    rw [hid _ htid, hindex, Option.bind_some, hreply] at hguard
    obtain ⟨hbit, -⟩ := of_decide_eq_true hguard hread hformat.1
    rw [hformat.2.1] at hbit
    contradiction

/-- A step of the node is one of its sections. -/
theorem move_eq_some (h : s.move range l = some s') :
    ∃ node, Section range s.node l node ∧ s' = { s with node } := by
  obtain ⟨node, hstep, rfl⟩ := Option.map_eq_some_iff.mp h
  exact ⟨node, .of_step hstep, rfl⟩

/-- The invariant together with what every interleaving of the node keeps. -/
structure Sound (s : State) : Prop where
  inv : Inv s
  consistent : Consistent s.node
  onTime : OnTime s.node

theorem Sound.of_section (hs : Sound s) (h : Section range s.node l s'.node) (hinv : Inv s') :
    Sound s' :=
  ⟨hinv, hs.consistent.of_section h, hs.onTime.of_section hs.consistent h⟩

/-- Steps that neither receive nor complete. -/
theorem Sound.quiet (hs : Sound s) (h : Section range s.node l s'.node)
    (hreceive : ∀ packet cause, l ≠ .receive packet cause)
    (hcompletes : ∀ o i packet, s.node.poll = .complete o i packet →
      ∀ throws, l ≠ .pollStep throws)
    (hfault : s'.fault = s.fault) (hanswer : s'.answer = s.answer)
    (hcaller : ∀ o, o < s.node.nextOp → s'.caller o = s.caller o)
    (hnew : ∀ t, (l = .step t ∨ ∃ kind retry_count, l = .call t kind retry_count) →
      s'.caller s.node.nextOp = t)
    (hdata : ∀ t, s'.data t = s.data t ∨ s.node.threads t = .idle) : Sound s' := by
  refine hs.of_section h (hs.inv.move hs.consistent hs.onTime h (hfault.trans hs.inv.fault)
    hcaller hnew hdata (fun o _ => by rw [hanswer]) hcompletes ?_)
  intro o i packet cause hl
  exact absurd hl (hreceive packet cause)

theorem Sound.call (hs : Sound s) {kind : OpKind} {retry_count : Option Nat} {data : List UInt8}
    (h : s.call range t kind retry_count data = some s') : Sound s' := by
  obtain ⟨s₁, hmove, rfl⟩ := Option.map_eq_some_iff.mp h
  obtain ⟨node, hsection, rfl⟩ := move_eq_some hmove
  have hidle : s.node.threads t = .idle := by
    cases hsection with
    | call hpc => exact hpc
  refine hs.quiet hsection (by simp) (by simp) rfl rfl ?_ ?_ ?_
  · intro o ho
    exact Function.update_of_ne (Nat.ne_of_lt ho) ..
  · rintro u (hl | ⟨kind', retry_count', hl⟩)
    · contradiction
    · cases hl
      exact Function.update_self ..
  · intro u
    by_cases hut : u = t
    · exact .inr (hut ▸ hidle)
    · exact .inl (Function.update_of_ne hut ..)

theorem Sound.moveClient (hs : Sound s) (h : s.moveClient range t = some s') : Sound s' := by
  obtain ⟨s₁, hmove, rfl⟩ := Option.map_eq_some_iff.mp h
  obtain ⟨node, hsection, rfl⟩ := move_eq_some hmove
  refine hs.quiet hsection (by simp) (by simp) rfl rfl ?_ ?_ fun _ => .inl rfl
  · intro o ho
    exact Function.update_of_ne (Nat.ne_of_lt ho) ..
  · rintro u (hl | ⟨kind', retry_count', hl⟩)
    · cases hl
      exact Function.update_self ..
    · contradiction

/-- A step of the node alone that starts no operation. -/
theorem Sound.move (hs : Sound s) (h : s.move range l = some s')
    (hreceive : ∀ packet cause, l ≠ .receive packet cause)
    (hcompletes : ∀ o i packet, s.node.poll = .complete o i packet →
      ∀ throws, l ≠ .pollStep throws)
    (hstep : ∀ t, l ≠ .step t) (hcall : ∀ t kind retry_count, l ≠ .call t kind retry_count) :
    Sound s' := by
  obtain ⟨node, hsection, rfl⟩ := move_eq_some h
  refine hs.quiet hsection hreceive hcompletes rfl rfl (fun _ _ => rfl) ?_ fun _ => .inl rfl
  rintro t (hl | ⟨kind, retry_count, hl⟩)
  · exact absurd hl (hstep t)
  · exact absurd hl (hcall t kind retry_count)

theorem Sound.pollStep (hs : Sound s) {throws : Bool} (h : s.pollStep range throws = some s') :
    Sound s' := by
  rw [State.pollStep] at h
  split at h
  · rename_i o i packet hpoll
    split at h
    · rename_i fault hfault
      -- The copy cannot fail, so there is a step of the node to look at.
      have hsection : Section range s.node (.pollStep false) _ :=
        .complete hpoll (fun h => by contradiction)
      obtain ⟨data, hdata, -⟩ := hs.inv.complete hs.consistent hs.onTime hpoll hsection
      rw [hfault] at hdata
      contradiction
    · rename_i data hdata
      obtain ⟨s₁, hmove, rfl⟩ := Option.map_eq_some_iff.mp h
      obtain ⟨node, hsection, rfl⟩ := move_eq_some hmove
      obtain ⟨data', hdata', hinv⟩ := hs.inv.complete hs.consistent hs.onTime hpoll hsection
      obtain rfl := Except.ok.inj (hdata.symm.trans hdata')
      exact hs.of_section hsection hinv
  · rename_i hpoll
    refine hs.move h (by simp) ?_ (by simp) (by simp)
    intro o i packet hcomplete
    exact absurd hcomplete (hpoll o i packet)

theorem Sound.receive (hs : Sound s) {packet : List UInt8} {cause : Option OpId}
    (hguard : matching range s (.receive packet cause) = true)
    (h : s.receive range packet cause = some s') : Sound s' := by
  rw [State.receive] at h
  split at h
  · contradiction
  rename_i status parser hparse
  split at h
  · rename_i hsuccess
    subst hsuccess
    obtain ⟨s₁, hmove, rfl⟩ := Option.map_eq_some_iff.mp h
    obtain ⟨node, hsection, rfl⟩ := move_eq_some hmove
    have hidle : s.node.poll = .idle := by
      cases hsection with
      | ignored hpoll => exact hpoll
      | dispatched hpoll => exact hpoll
    refine hs.of_section hsection (hs.inv.move hs.consistent hs.onTime hsection hs.inv.fault
      (fun _ _ => rfl) ?_ (fun _ => .inl rfl) ?_ (by simp) ?_)
    · rintro t (hl | ⟨kind, retry_count, hl⟩)
      · contradiction
      · contradiction
    · rintro o (hne | ⟨i, packet', hpoll⟩)
      · simp only [State.handed]
        cases hpoll : node.poll with
        | complete v i packet' =>
            refine Function.update_of_ne ?_ ..
            rintro rfl
            obtain ⟨hold, -⟩ | ⟨-, -, -, hreply⟩ := hsection.polled hpoll
            · rw [hidle] at hold
              contradiction
            · exact hne (hs.onTime.untouched o (.inl ⟨i, hreply⟩)).completions
        | _ => rfl
      · rw [hidle] at hpoll
        contradiction
    · intro o i packet' cause' hl hpoll hreply hindex hread
      cases hl
      obtain ⟨hold, -⟩ | ⟨-, htype, -, -⟩ := hsection.polled hpoll
      · rw [hidle] at hold
        contradiction
      · obtain ⟨path, body, haccepts, hdata, hlength⟩ :=
          ownData_of_parse hparse hguard htype hindex hreply hread
        refine ⟨⟨packet, path, body, ?_, haccepts, hdata⟩, hlength⟩
        have hpoll : node.poll = .complete o i parser.packet_ := hpoll
        simp only [State.handed, hpoll, Function.update_self]
  · split at h
    · cases h
      exact ⟨⟨hs.inv.fault, hs.inv.caller, hs.inv.polled, hs.inv.delivered⟩, hs.consistent,
        hs.onTime⟩
    · contradiction

theorem Sound.of_step (hs : Sound s) {l : Label} (hguard : matching range s l = true)
    (h : step range s l = some s') : Sound s' := by
  rw [step.eq_def] at h
  split at h
  · contradiction
  split at h
  · exact hs.call h
  · exact hs.receive hguard h
  · exact hs.moveClient h
  · exact hs.pollStep h
  · contradiction
  · contradiction
  · rename_i l hstep hpoll hcall hreceive
    refine hs.move h ?_ ?_ ?_ ?_
    · exact hreceive
    · exact fun _ _ _ _ => hpoll
    · exact hstep
    · exact hcall

theorem Sound.initial (now : Int) : Sound { node := { now := now } } := by
  refine ⟨⟨rfl, ?_, ?_, ?_⟩, .initial now, .initial now⟩
  · intro t o h
    contradiction
  · intro o i packet h
    contradiction
  · intro t o h
    contradiction

theorem Sound.intact (hs : Sound s) : Intact s := by
  refine ⟨hs.inv.fault, ?_, ?_⟩
  · intro o i packet hpoll hread
    obtain ⟨hfield, hlength⟩ := hs.inv.polled o i packet hpoll hread
    exact ⟨hfield, Nat.le_of_eq hlength⟩
  · intro t o index hwaiting hread hhead
    have hown : (s.node.threads t).own = some o := by
      rw [hwaiting]
      rfl
    have hsuccess := hs.onTime.success o (List.mem_of_mem_head? hhead)
    exact hs.inv.delivered t o hown hread hsuccess

end Steps

/-- In every run in which the replies to synchronous reads are read replies of the length
asked for, the data that a read copies and returns are those of its reply. -/
theorem intact_of_matching {range : TransactionRange} {now : Int} {s : State}
    (h : Reaches (step range) (fun s l => matching range s l) { node := { now := now } } s) :
    Intact s := by
  have hs : Sound s := by
    refine h.invariant (.initial now) ?_
    intro t u l _ hguard hstep ht
    exact ht.of_step hguard hstep
  exact hs.intact

/-- A read of two bytes and the reply to it. -/
def answered : List Label :=
  [.call 0 .read (some 1) [0x00, 0x00], .other (.step 0), .other (.step 0), .other (.step 0),
    .other (.step 0),
    .receive [0x34, 0x01, 0x0C, 0x00, 0xFE, 0x00, 0x20, 0x00, 0x00, 0x00, 0x02, 0xF7,
      0xAA, 0xBB, 0x0A] (some 0),
    .other (.pollStep false), .other (.pollStep false)]

theorem intact_of_matching_answered :
    ∃ s, Reaches (step {}) (fun s l => matching {} s l) {} s ∧
      s.node.threads 0 = .waiting 0 (some 0) ∧ s.data 0 = [0xAA, 0xBB] ∧
      OwnData s 0 [0xAA, 0xBB] := by
  obtain ⟨s, hreach, hs⟩ : ∃ s, Reaches (step {}) (fun s l => matching {} s l) {} s ∧
      (s.node.threads 0 = .waiting 0 (some 0) ∧ s.data 0 = [0xAA, 0xBB] ∧ s.SyncRead 0 ∧
        (s.node.ops 0).promise.head? = some (.ok ())) := by
    apply Reaches.exists_of_run answered
    decide +kernel
  obtain ⟨hwaiting, hdata, hread, hhead⟩ := hs
  have hown := (intact_of_matching hreach).success 0 0 _ hwaiting hread hhead
  exact ⟨s, hreach, hwaiting, hdata, hdata ▸ hown⟩

/-- The same read, and a reply with one byte. -/
def shortAnswer : List Label :=
  [.call 0 .read (some 1) [0x00, 0x00], .other (.step 0), .other (.step 0), .other (.step 0),
    .other (.step 0),
    .receive [0x34, 0x01, 0x0C, 0x00, 0xFE, 0x00, 0x20, 0x00, 0x00, 0x00, 0x01, 0x85,
      0xAA, 0x35] (some 0),
    .other (.pollStep false)]

/-- The copy goes past the end of the reply. -/
theorem shortAnswer_not_intact : ∃ s, Reaches (step {}) always {} s ∧ ¬ Intact s := by
  obtain ⟨s, hreach, hs⟩ : ∃ s, Reaches (step {}) always {} s ∧ s.fault = some .outOfRange := by
    apply Reaches.exists_of_run shortAnswer
    decide +kernel
  refine ⟨s, hreach, fun hintact => ?_⟩
  rw [hintact.fault] at hs
  contradiction

end SpwRmap.Reads
