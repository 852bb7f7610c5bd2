import Nkurdt.Receiver.Serving
import Nkurdt.Session.System

/-
  What the sender hears.

  The packet that `recv_handler` works on, and every number
  in the set of acknowledged ones, comes from a reply of the
  receiver. The lower bound moves by such packets only: in
  go-back-n to the number of one, in selective repeat over
  the number of one.

  Main declarations:
    * `Sender.Heard`
    * `Sender.lower_recvHandlerStep`
    * `Sender.heard_step`
    * `Session.recvStep_of_carries`
    * `Session.Undisturbed.room`
-/

------------------------------------------------------------
-- Packets in Hand
------------------------------------------------------------

namespace Nkurdt

/- A state is set because of a packet. -/
theorem RecvPc.packet?_of_target?
    {pc : RecvPc}
    {target : SenderState}
    (hTarget : pc.target? = some target) :
    ∃ packet, pc.packet? = some packet := by
  cases pc
  case lockState target packet => exact ⟨packet, rfl⟩
  case setState target packet => exact ⟨packet, rfl⟩
  all_goals cases hTarget

namespace Sender

/- A number in the set is the one of the packet in hand. -/
theorem acked_recvHandlerStep
    {s s' : Sender}
    {n : Nat}
    (hStep : s.recvHandlerStep = some s')
    (hMember : n ∈ s'.ackedSeqSet) :
    n ∈ s.ackedSeqSet ∨
      ∃ packet, s.recvPc.packet? = some packet ∧
        packet.seq = n := by
  cases recvHandlerStep_branch hStep with
  | insertsToSlide hPc | insertsToCompare hPc =>
      rcases Finset.mem_insert.mp hMember with hNew | hOld
      · exact Or.inr ⟨_, by rw [hPc]; rfl, hNew.symm⟩
      · exact Or.inl hOld
  | erases | slides =>
      exact Or.inl (Finset.mem_of_mem_erase hMember)
  | _ => exact Or.inl hMember

/- How the lower bound moves. -/
theorem lower_recvHandlerStep
    {s s' : Sender}
    (hStep : s.recvHandlerStep = some s') :
    s'.window.lowerBound = s.window.lowerBound ∨
      (∃ packet, s.recvPc = .setLower packet ∧
        s'.window.lowerBound = packet.seq) ∨
      s.recvPc = .slide ∧
        s.window.lowerBound ∈ s.ackedSeqSet ∧
        s'.window.lowerBound =
          SequenceNumber.update s.window.lowerBound := by
  cases recvHandlerStep_branch hStep with
  | setsLower hPc => exact Or.inr (Or.inl ⟨_, hPc, rfl⟩)
  | slides hPc hMember =>
      exact Or.inr (Or.inr ⟨hPc, hMember, rfl⟩)
  | _ => exact Or.inl rfl

/- It is only set to a number ahead of it. -/
theorem setLower_recvHandlerStep
    {s s' : Sender}
    {packet : Packet}
    (hStep : s.recvHandlerStep = some s')
    (hNext : s'.recvPc = .setLower packet) :
    s'.window.lowerBound < packet.seq := by
  cases recvHandlerStep_branch hStep with
  | exceeds _ hLess =>
      cases hNext
      exact hLess
  | _ => cases hNext

end Sender

end Nkurdt

------------------------------------------------------------
-- Replies Heard
------------------------------------------------------------

namespace Nkurdt

namespace Sender

/- Everything the sender goes by is one of the replies. -/
structure Heard
    (replies : List Packet)
    (s : Sender) : Prop where
  decoding :
    ∀ bytes, s.recvPc = .decode bytes →
      ∃ ack ∈ replies, bytes = ack.toBytes
  inHand :
    ∀ packet, s.recvPc.packet? = some packet →
      packet ∈ replies
  acked :
    ∀ n ∈ s.ackedSeqSet, ∃ ack ∈ replies, ack.seq = n
  ahead :
    ∀ packet, s.recvPc = .setLower packet →
      s.window.lowerBound < packet.seq

theorem heard_fresh
    (config : SenderConfig)
    (replies : List Packet) :
    Heard replies (fresh config) := by
  refine ⟨?_, ?_, ?_, ?_⟩
  · exact fun _ hPc => by cases hPc
  · exact fun _ hPacket => by cases hPacket
  · exact fun n hMember =>
      absurd hMember (Finset.notMem_empty n)
  · exact fun _ hPc => by cases hPc

theorem Heard.mono
    {replies replies' : List Packet}
    {s : Sender}
    (hHeard : Heard replies s)
    (hMore : replies ⊆ replies') :
    Heard replies' s := by
  refine ⟨?_, ?_, ?_, hHeard.ahead⟩
  · intro bytes hPc
    rcases hHeard.decoding bytes hPc with
      ⟨ack, hMember, hBytes⟩
    exact ⟨ack, hMore hMember, hBytes⟩
  · exact fun packet hPacket =>
      hMore (hHeard.inHand packet hPacket)
  · intro n hAcked
    rcases hHeard.acked n hAcked with ⟨ack, hMember, hSeq⟩
    exact ⟨ack, hMore hMember, hSeq⟩

/- Nothing has been heard of a receiver that is silent. -/
theorem Heard.target_eq_none
    {s : Sender}
    (hHeard : Heard [] s) :
    s.recvPc.target? = none := by
  cases hTarget : s.recvPc.target? with
  | none => rfl
  | some target =>
      rcases RecvPc.packet?_of_target? hTarget with
        ⟨packet, hPacket⟩
      cases hHeard.inHand packet hPacket

theorem heard_recvHandlerStep
    {replies : List Packet}
    {s s' : Sender}
    (hHeard : Heard replies s)
    (hDecode :
      ∀ ack ∈ replies,
        Packet.fromBytes ack.toBytes = some (some ack))
    (hStep : s.recvHandlerStep = some s') :
    Heard replies s' := by
  have hPacket := packet?_recvHandlerStep hStep
  refine ⟨?_, ?_, ?_, ?_⟩
  · exact fun bytes hPc => absurd hPc (hPacket.2 bytes)
  · intro packet hNext
    rcases hPacket.1 packet hNext with
      hOld | ⟨bytes, hPc, hFrom⟩
    · exact hHeard.inHand packet hOld
    · rcases hHeard.decoding bytes hPc with
        ⟨ack, hMember, rfl⟩
      rw [hDecode ack hMember] at hFrom
      cases hFrom
      exact hMember
  · intro n hMember
    rcases acked_recvHandlerStep hStep hMember with
      hOld | ⟨packet, hInHand, hSeq⟩
    · exact hHeard.acked n hOld
    · exact ⟨packet, hHeard.inHand packet hInHand, hSeq⟩
  · exact fun _ hNext => setLower_recvHandlerStep hStep hNext

theorem heard_recvStep
    {replies : List Packet}
    {s s' : Sender}
    {result : RecvResult}
    (hHeard : Heard replies s)
    (hCarries : Session.Carries replies result)
    (hStep : s.recvStep result = some s') :
    Heard replies s' := by
  have hKeeps := recvStep_keeps hStep
  have hAcked :
      ∀ n ∈ s'.ackedSeqSet,
        ∃ ack ∈ replies, ack.seq = n := by
    rw [hKeeps.ackedSeqSet]
    exact hHeard.acked
  unfold recvStep at hStep
  rw [if_pos hKeeps.recvPc] at hStep
  cases result with
  | error value =>
      have hMild : isFatalError value = false := hCarries
      dsimp only at hStep
      rw [hMild] at hStep
      cases hStep
      exact ⟨(fun _ hPc => by cases hPc),
        (fun _ hPacket => by cases hPacket), hAcked,
        fun _ hPc => by cases hPc⟩
  | datagram bytes addr =>
      cases hStep
      refine ⟨?_, (fun _ hPacket => by cases hPacket),
        hAcked, fun _ hPc => by cases hPc⟩
      intro bytes' hPc
      cases hPc
      exact hCarries

/- Every step goes by replies, if the socket does. -/
theorem heard_step
    {replies : List Packet}
    {s s' : Sender}
    {action : Action}
    (hHeard : Heard replies s)
    (hDecode :
      ∀ ack ∈ replies,
        Packet.fromBytes ack.toBytes = some (some ack))
    (hCarries :
      ∀ result, action = .recv result →
        Session.Carries replies result)
    (hStep : s.step action = some s') :
    Heard replies s' := by
  by_cases hRecv : action = .thread .recvHandler
  · subst hRecv
    exact heard_recvHandlerStep hHeard hDecode hStep
  by_cases hSocket : ∃ result, action = .recv result
  · rcases hSocket with ⟨result, rfl⟩
    exact heard_recvStep hHeard (hCarries result rfl) hStep
  · have hKeeps := step_keeps hStep hRecv
    have hPc :=
      recvPc_of_other hStep hRecv
        (fun result hEqual => hSocket ⟨result, hEqual⟩)
    refine ⟨?_, ?_, ?_, ?_⟩
    · rw [hPc]
      exact hHeard.decoding
    · rw [hPc]
      exact hHeard.inHand
    · rw [hKeeps.ackedSeqSet]
      exact hHeard.acked
    · rw [hPc, hKeeps.lowerBound]
      exact hHeard.ahead

end Sender

end Nkurdt

------------------------------------------------------------
-- Packets That Arrive
------------------------------------------------------------

namespace Nkurdt

namespace Session

open Sender

/-
  An iteration does nothing, or it works on a packet that
  was built.
-/
theorem recvStep_of_carries
    {x : Session}
    {result : RecvResult}
    (hOriginals : Originals x.sender)
    (hCarries : Carries x.requests result) :
    x.receiver.recvStep result = x.receiver ∨
      ∃ packet addr,
        x.sender.Built packet.seq packet ∧
        x.receiver.status = .looping ∧
        x.receiver.recvStep result =
          x.receiver.onPacket packet addr := by
  unfold Receiver.recvStep
  by_cases hLooping :
      x.receiver.status = .looping ∧
        x.receiver.running = true
  · rw [if_pos hLooping]
    cases result with
    | error value =>
        have hMild : isFatalError value = false := hCarries
        dsimp only
        rw [hMild]
        exact Or.inl rfl
    | datagram bytes addr =>
        right
        rcases hCarries with ⟨packet, hMember, rfl⟩
        rcases List.mem_map.mp hMember with
          ⟨d, hWire, rfl⟩
        have hBuilt := hOriginals.wire d hWire
        refine ⟨d.2, addr, hBuilt, hLooping.1, ?_⟩
        dsimp only
        rw [Packet.fromBytes_toBytes
          (hOriginals.inRange hBuilt).1]
  · rw [if_neg hLooping]
    exact Or.inl rfl

/- The room after an iteration was there before it. -/
theorem Undisturbed.room
    {x : Session}
    {action : Action}
    {packet : Packet}
    {addr : SocketAddr}
    (hUndisturbed :
      Undisturbed x action
        { x with
          receiver := x.receiver.onPacket packet addr }) :
    x.sender.window.upperBound +
      x.receiver.maxWindowSize < 2 ^ 32 := by
  have hRoom := hUndisturbed.receiverRoom
  dsimp only at hRoom
  rw [(Receiver.config_onPacket x.receiver packet
    addr).1] at hRoom
  exact hRoom

end Session

end Nkurdt
