import Nkurdt.Receiver.Rejection
import Nkurdt.Receiver.Renumber
import Nkurdt.Sender.Renumber

/-
  A session whose numbers begin at another base.

  A connection request numbered `b` brings the receiver to
  the state that the number 0 brings it to, shifted by `b`,
  and a sender whose window begins at `b` is the fresh sender
  shifted by `b`. From there on both sides do what they do
  for the base 0 as long as they compare no number before
  the wrap with a number behind it.

  Main declarations:
    * `Receiver.connectedAt`
    * `Receiver.connectedAt_renumber`
    * `wrapAround`
    * `exists_wrapAround_differs`
-/

------------------------------------------------------------
-- Connected Receivers
------------------------------------------------------------

namespace Nkurdt

open SequenceNumber

/- A connection request with the number. -/
def connReq
    (version : Nat)
    (payload : List UInt8)
    (seq : Nat) : Packet :=
  ⟨version, .connReq, seq, payload⟩

namespace Receiver

variable (maxWindowSize : Nat)
variable (selectiveRepeat : Bool)
variable (version : Nat)
variable (payload : List UInt8)
variable (addr : SocketAddr)

/- The receiver behind a connection request. -/
def connectedAt (seq : Nat) : Receiver :=
  (fresh maxWindowSize selectiveRepeat).onPacket
    (connReq version payload seq) addr

theorem connectedAt_eq
    (seq : Nat) :
    connectedAt maxWindowSize selectiveRepeat version payload
        addr seq =
      { fresh maxWindowSize selectiveRepeat with
        window :=
          (update seq,
            update (add seq (maxWindowSize % 2 ^ 32)))
        peerAddr := some addr
        state := .connected
        trace :=
          [.write payload,
            .reply addr
              ⟨Nkurdt.version, .connAck,
                if selectiveRepeat then
                  seq
                else
                  update seq, []⟩] } := by
  cases selectiveRepeat
  all_goals
    simp [connectedAt, connReq, onPacket, fresh, make, start,
      Packet.isAck, PacketKind.isAck, getAckKind, accept,
      switchState, insertAndSlide, slide, slideStep, reply,
      emit, OrderedSet.insert, OrderedSet.insertList,
      OrderedSet.empty, OrderedSet.size, OrderedSet.first?,
      OrderedSet.eraseFirst]

/- The base only shifts the state behind the request. -/
theorem connectedAt_renumber
    {b : Nat}
    (hBase : b < 2 ^ 32) :
    connectedAt maxWindowSize selectiveRepeat version payload
        addr b =
      (connectedAt maxWindowSize selectiveRepeat version
        payload addr 0).renumber b := by
  have hZero : shift b 0 = b := shift_zero hBase
  have hFirst : shift b (update 0) = update b := by
    rw [← update_shift (Nat.two_pow_pos 32), hZero]
  have hSecond :
      shift b (update (add 0 (maxWindowSize % 2 ^ 32))) =
        update (add b (maxWindowSize % 2 ^ 32)) := by
    rw [← update_shift (add_lt _ _),
      ← add_shift (Nat.two_pow_pos 32), hZero]
  rw [connectedAt_eq, connectedAt_eq]
  unfold renumber
  dsimp only
  rw [hFirst, hSecond]
  cases selectiveRepeat
  · simp [Event.renumber, Packet.renumber, hFirst]
    rfl
  · simp [Event.renumber, Packet.renumber, hZero]
    rfl

theorem oneSided_connectedAt
    (b : Nat) :
    OneSided b
      (connectedAt maxWindowSize selectiveRepeat version
        payload addr 0) := by
  have hNone :
      ∀ p,
        p ∉ (OrderedSet.empty :
          OrderedSet Packet Packet.seq) :=
    OrderedSet.not_mem_empty
  rw [connectedAt_eq]
  exact ⟨update_lt _, update_lt _,
    fun p hMember => absurd hMember (hNone p),
    fun p hMember => absurd hMember (hNone p),
    fun p hMember => absurd hMember (hNone p)⟩

end Receiver

end Nkurdt

------------------------------------------------------------
-- Sessions from Another Base
------------------------------------------------------------

namespace Nkurdt

open SequenceNumber
open Runs

namespace Sender

/- The sender whose window begins at the number. -/
def freshAt
    (config : SenderConfig)
    (seq : Nat) : Sender :=
  { fresh config with
    window := (fresh config).window.setWindow seq seq }

end Sender

/-
  As long as the comparisons are on one side of the wrap,
  the session from the base `b` is the one from 0, shifted:
  the decisions, the payloads and the states are the same.
  The decision about the next request is the same exactly if
  its comparisons are on one side too.
-/
theorem wrapAround
    (b : Nat)
    (hBase : b < 2 ^ 32)
    (maxWindowSize version : Nat)
    (selectiveRepeat : Bool)
    (payload : List UInt8)
    (addr : SocketAddr)
    (config : SenderConfig) :
    (∀ results,
      Receiver.LoopsOnOneSide b
          (Receiver.connectedAt maxWindowSize selectiveRepeat
            version payload addr 0) results →
        let start :=
          Receiver.connectedAt maxWindowSize selectiveRepeat
            version payload addr
        let shifted := results.map (RecvResult.renumber b)
        (start b).decisions shifted =
            (start 0).decisions results ∧
          Event.written ((start b).recv shifted).trace =
            Event.written ((start 0).recv results).trace ∧
          (start b).recv shifted =
            ((start 0).recv results).renumber b ∧
          ∀ packet : Packet,
            packet.seq < 2 ^ 32 →
            getAckKind packet.kind ≠ none →
            ((start 0).recv results).state ≠ .idle →
            (((start b).recv shifted).decision
                  (packet.renumber b) =
                ((start 0).recv results).decision packet ↔
              Receiver.ComparesOnOneSide b
                ((start 0).recv results) packet)) ∧
      ∀ actions,
        Along Sender.step (Sender.ComparesOnOneSide b)
            (Sender.freshAt config 0) actions →
          let shifted :=
            actions.map (Sender.Action.renumber b)
          outputs Sender.step Sender.decision?
                (Sender.freshAt config b) shifted =
              (outputs Sender.step Sender.decision?
                  (Sender.freshAt config 0) actions).map
                (Option.map (Sender.Decision.renumber b)) ∧
            runActions Sender.step (fun _ _ _ => True)
                (Sender.freshAt config b) shifted =
              (runActions Sender.step (fun _ _ _ => True)
                  (Sender.freshAt config 0) actions).map
                (fun last => last.renumber b) := by
  constructor
  · intro results hLoops
    dsimp only
    have hSided :=
      Receiver.oneSided_connectedAt maxWindowSize
        selectiveRepeat version payload addr b
    obtain ⟨hDecisions, hStates, hLast⟩ :=
      Receiver.recv_renumber hBase hSided hLoops
    rw [Receiver.connectedAt_renumber maxWindowSize
      selectiveRepeat version payload addr hBase]
    refine ⟨hDecisions, ?_, hStates, ?_⟩
    · rw [hStates]
      exact Event.written_renumber b _
    · intro packet hSeq hKind hState
      rw [hStates]
      exact Receiver.decision_renumber_iff hBase hLast hSeq
        hKind hState
  · intro actions hAlong
    have hShifted :
        Sender.freshAt config b =
          (Sender.freshAt config 0).renumber b :=
      (Sender.renumber_fresh hBase config).symm
    have hRange : Sender.InRange (Sender.freshAt config 0) :=
      Sender.inRange_fresh config
    dsimp only
    rw [hShifted]
    exact Sender.run_renumber hBase hRange hAlong

/-
  From the base 2^32 - 1 on: the connection request is the
  last number before the wrap, and everything else is behind
  it. In selective repeat nothing is compared across.
-/
theorem wrapAround_push :
    let b := 2 ^ 32 - 1
    let start :=
      Receiver.connectedAt 4 true version [] ⟨0, 1⟩
    let results :=
      [Receiver.requestBytes .dataPush 1,
        Receiver.requestBytes .data 3,
        Receiver.requestBytes .data 2]
    let config := ⟨2, 1, 1, true, false⟩
    let actions :=
      [.call (.connect ⟨0, 1⟩)] ++
        Sender.steps .caller 10 ++
        Sender.steps .sendHandler 13
    (start b).decisions
          (results.map (RecvResult.renumber b)) =
        (start 0).decisions results ∧
      outputs Sender.step Sender.decision?
          (Sender.freshAt config b)
          (actions.map (Sender.Action.renumber b)) =
        (outputs Sender.step Sender.decision?
            (Sender.freshAt config 0) actions).map
          (Option.map (Sender.Decision.renumber b)) := by
  intro b start results config actions
  have hLoops :
      Receiver.LoopsOnOneSide b (start 0) results := by
    decide +kernel
  have hAlong :
      Along Sender.step (Sender.ComparesOnOneSide b)
        (Sender.freshAt config 0) actions := by
    decide +kernel
  obtain ⟨hReceiver, hSender⟩ :=
    wrapAround b (by decide) 4 version true [] ⟨0, 1⟩ config
  exact ⟨(hReceiver results hLoops).1,
    (hSender actions hAlong).1⟩

/-
  From the base 2^32 - 2 on, with a window of one packet, the
  receiver refuses the packet that it expects. From the base
  2^32 - 1 on, in go-back-n, the sender does not slide on the
  acknowledgement of its connection request, and it cleans up
  the packet that it allocates next.
-/
theorem exists_wrapAround_differs :
    (let b := 2 ^ 32 - 2
      let start :=
        Receiver.connectedAt 1 true version [] ⟨0, 1⟩
      let results := [Receiver.requestBytes .dataPush 1]
      let shifted := results.map (RecvResult.renumber b)
      (start b).window.1 = shift b 1 ∧
        (start 0).decisions results = [some .accepted] ∧
        (start b).decisions shifted =
          [some .outOfWindow]) ∧
      let b := 2 ^ 32 - 1
      let config := ⟨2, 1, 1, false, false⟩
      let ack : Packet := ⟨version, .connAck, 1, []⟩
      let actions :=
        [.call (.connect ⟨0, 1⟩)] ++
          Sender.steps .caller 10 ++
          Sender.steps .sendHandler 13 ++
          Sender.steps .recvHandler 1 ++
          [.recv (.datagram ack.toBytes ⟨0, 1⟩)] ++
          Sender.steps .recvHandler 13 ++
          Sender.steps .caller 3 ++ [.call (.send .eof)] ++
          Sender.steps .caller 9 ++
          Sender.steps .sendHandler 6
      let shifted := actions.map (Sender.Action.renumber b)
      (outputs Sender.step Sender.decision?
            (Sender.freshAt config 0) actions).reduceOption =
          [.pop (some 0), .acked 0 false, .cleanUp 0 false,
            .duplicate 1 false, .slide 1 true,
            .pop (some 1), .acked 1 false,
            .cleanUp 1 false] ∧
        (outputs Sender.step Sender.decision?
            (Sender.freshAt config b) shifted).reduceOption =
          [.pop (some b), .acked b false, .cleanUp b false,
            .duplicate 0 false, .slide 0 false,
            .pop (some 0), .acked 0 false,
            .cleanUp 0 true] := by
  decide +kernel

end Nkurdt
