import SpwRmap.Lib.Relational
import SpwRmap.Node.Faults

/-!
# `poll` in a derived class

The client and the server inherit one `poll`. It replaces the receiver, and then either asks
whether the object is shut down, shuts it down, or dispatches a packet. So what it keeps of an
object, and what two runs of it have in common, follows from these steps.
-/

namespace SpwRmap.Impl

open Span Outcome Relational

variable {σ τ : Type} {impl : Impl σ} {impl' : Impl τ} {self : σ} {other : τ} {ndebug : Bool}
  {env : Environment}

/-- What the steps keep. -/
theorem poll_yields {E : Fault → Prop} {P : σ → Prop} (hfaults : ∀ fault, fault.OfData → E fault)
    (hreceived : ∀ receiver : Receiver,
      receiver.tcp_backend_.isSome = (impl.node self).receiver.tcp_backend_.isSome →
        P (impl.withNode self { impl.node self with receiver }))
    (hshutdown : ∀ s, P s → P (impl.shutdown s).2)
    (hpacket : ∀ s packet, P s → (impl.node s).receiver.tcp_backend_.isSome →
      Yields E (fun r => P (impl.withNode s r.2))
        (Node.pollPacket ndebug (impl.node s) env packet)) :
    Yields E (fun r => P r.2) (impl.poll ndebug self env) := by
  rw [poll]
  apply ((impl.node self).receiver.recvAndParseOnePacket_yields.weaken hfaults).bind
  rintro ⟨res, receiver⟩ ⟨hbackend, hnone⟩
  have hsame := impl.node_withNode self { impl.node self with receiver }
  have hP := hreceived receiver hbackend
  dsimp only at hbackend hnone hsame hP ⊢
  generalize impl.withNode self _ = received at hsame hP
  cases res with
  | error e =>
      dsimp only
      split
      · exact hP
      · exact hP
  | ok size =>
      cases size with
      | zero =>
          have hended := hshutdown received hP
          generalize impl.shutdown received = out at hended
          obtain ⟨ended, after⟩ := out
          cases ended with
          | error e => exact hended
          | ok _ => exact hended
      | succ size =>
          have hsome : (impl.node received).receiver.tcp_backend_.isSome := by
            rw [hsame, hbackend, Option.isSome_iff_ne_none]
            intro hmissing
            cases hnone hmissing
          apply (hpacket received _ hP hsome).bind
          rintro ⟨answer, node⟩ hnode
          exact hnode

/-- What two runs have in common: `M` after the reception, and `N` at the end. -/
theorem poll_parallel {M N : σ → τ → Prop}
    (hreceive : Parallel (fun r s => M (impl.withNode self { impl.node self with receiver := r })
        (impl'.withNode other { impl'.node other with receiver := s }))
      (impl.node self).receiver.recvAndParseOnePacket_
      (impl'.node other).receiver.recvAndParseOnePacket_)
    (hflag : ∀ s t, M s t → impl.isShutdowned s = impl'.isShutdowned t ∧ N s t)
    (hshutdown : ∀ s t, M s t →
      Parallel N (pure (impl.shutdown s) : Checked _) (pure (impl'.shutdown t)))
    (hpacket : ∀ s t, M s t →
      Parallel (fun p q => N (impl.withNode s p) (impl'.withNode t q))
        (Node.pollPacket ndebug (impl.node s) env (impl.node s).receiver.packet_parser_.packet_)
        (Node.pollPacket ndebug (impl'.node t) env
          (impl'.node t).receiver.packet_parser_.packet_)) :
    Parallel N (impl.poll ndebug self env) (impl'.poll ndebug other env) := by
  rw [poll, poll]
  apply hreceive.bind
  intro res r s hM
  dsimp only
  generalize impl.withNode self _ = received at hM
  generalize impl'.withNode other _ = received' at hM
  cases res with
  | error e =>
      obtain ⟨hsame, hN⟩ := hflag _ _ hM
      dsimp only
      rw [hsame]
      split
      · exact .ok hN _
      · exact .ok hN _
  | ok size =>
      cases size with
      | zero =>
          have hended := hshutdown _ _ hM
          generalize impl.shutdown received = out at hended
          generalize impl'.shutdown received' = out' at hended
          obtain ⟨ended, after⟩ := out
          obtain ⟨ended', after'⟩ := out'
          obtain ⟨hsame, hN⟩ := hended.of_ok
          obtain rfl : ended = ended' := hsame
          cases ended with
          | error e => exact .ok hN _
          | ok _ => exact .ok hN _
      | succ size =>
          apply (hpacket _ _ hM).bind
          intro answer node node' hN
          exact .ok hN _

end SpwRmap.Impl
