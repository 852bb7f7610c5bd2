import Nkurdt.Session.Heard

/-
  The acknowledged numbers of a selective-repeat sender.

  Every acknowledgement of an honest receiver carries the
  number of a packet that was sent, so no number in the set
  reaches the upper bound. The slide loop erases the numbers
  it passes, and only these: an acknowledgement that comes
  behind the lower bound leaves its number in the set.

  Main declarations:
    * `Sender.InsertsPassed`
    * `Session.Echoed`
    * `Session.acked_inside`
    * `Session.exists_acked_passed`
    * `Session.passed_of_reaches`
-/

------------------------------------------------------------
-- Late Acknowledgements
------------------------------------------------------------

namespace Nkurdt

namespace Sender

/-
  `recv_handler` is about to insert a number that the lower
  bound has passed.
-/
def InsertsPassed (s : Sender) : Prop :=
  match s.recvPc with
  | .insertAck packet => packet.seq < s.window.lowerBound
  | _ => False

instance (s : Sender) : Decidable s.InsertsPassed := by
  unfold InsertsPassed
  generalize s.recvPc = pc
  rcases pc with ⟨⟩ <;> infer_instance

end Sender

namespace Session

open Sender

/-
  The network loses, duplicates, delays and reorders, and no
  bound of the sender's window wraps around.
-/
structure Lossy
    (x : Session)
    (action : Action)
    (x' : Session) : Prop where
  delivers : x.Delivers action
  wrap : NoWrap x.sender x'.sender

instance (x : Session) (action : Action) (x' : Session) :
    Decidable (Lossy x action x') :=
  decidable_of_iff
    (x.Delivers action ∧ NoWrap x.sender x'.sender)
    ⟨fun hBoth => ⟨hBoth.1, hBoth.2⟩,
      fun hLossy => ⟨hLossy.delivers, hLossy.wrap⟩⟩

/- The step inserts a number behind the lower bound. -/
def ComesLate (x : Session) : Action → Prop
| .sender (.thread .recvHandler) => x.sender.InsertsPassed
| _ => False

instance (x : Session) (action : Action) :
    Decidable (x.ComesLate action) := by
  unfold ComesLate
  rcases action with ⟨_ | ⟨⟨⟩⟩⟩ | _
  all_goals infer_instance

/- Such a step, with no acknowledgement that comes late. -/
structure Punctual
    (x : Session)
    (action : Action)
    (x' : Session) : Prop
    extends Lossy x action x' where
  inTime : ¬ x.ComesLate action

instance (x : Session) (action : Action) (x' : Session) :
    Decidable (Punctual x action x') :=
  decidable_of_iff
    (Lossy x action x' ∧ ¬ x.ComesLate action)
    ⟨fun hBoth => ⟨hBoth.1, hBoth.2⟩,
      fun hStep => ⟨hStep.toLossy, hStep.inTime⟩⟩

end Session

end Nkurdt

------------------------------------------------------------
-- The Set and the Lower Bound
------------------------------------------------------------

namespace Nkurdt

namespace Sender

/-
  What a step does to the acknowledged numbers and to the
  lower bound in selective repeat.
-/
inductive SelectiveMove
    (s : Sender)
    (action : Action)
    (s' : Sender) : Prop
| keeps
    (hAcked : s'.ackedSeqSet = s.ackedSeqSet)
    (hLower : s'.window.lowerBound = s.window.lowerBound)
| inserts
    (packet : Packet)
    (hAction : action = .thread .recvHandler)
    (hPc : s.recvPc = .insertAck packet)
    (hAcked :
      s'.ackedSeqSet = insert packet.seq s.ackedSeqSet)
    (hLower : s'.window.lowerBound = s.window.lowerBound)
| slides
    (hMember : s.window.lowerBound ∈ s.ackedSeqSet)
    (hAcked :
      s'.ackedSeqSet =
        s.ackedSeqSet.erase s.window.lowerBound)
    (hLower :
      s'.window.lowerBound =
        SequenceNumber.update s.window.lowerBound)

theorem selectiveMove_recvHandlerStep
    {s s' : Sender}
    (hReady : WindowReady s)
    (hMode : s.selectiveRepeat = true)
    (hStep : s.recvHandlerStep = some s') :
    SelectiveMove s (.thread .recvHandler) s' := by
  cases recvHandlerStep_branch hStep with
  | insertsToSlide hPc =>
      exact .inserts _ rfl hPc rfl rfl
  | insertsToCompare _ hGoBackN =>
      rw [hMode] at hGoBackN
      cases hGoBackN
  | slides _ hMember => exact .slides hMember rfl rfl
  | setsLower hPc | erases hPc =>
      rw [hReady.goBackN (by rw [hPc]; trivial)] at hMode
      cases hMode
  | _ => exact .keeps rfl rfl

theorem selectiveMove_step
    {s s' : Sender}
    {action : Action}
    (hReady : WindowReady s)
    (hMode : s.selectiveRepeat = true)
    (hStep : s.step action = some s') :
    SelectiveMove s action s' := by
  by_cases hRecv : action = .thread .recvHandler
  · subst hRecv
    exact selectiveMove_recvHandlerStep hReady hMode hStep
  · have hKeeps := step_keeps hStep hRecv
    exact .keeps hKeeps.ackedSeqSet hKeeps.lowerBound

end Sender

end Nkurdt

------------------------------------------------------------
-- Numbers That Come Back
------------------------------------------------------------

namespace Nkurdt

namespace Session

open Sender

/-
  The receiver has sent back numbers of built packets only,
  and the sender goes by what it has heard.
-/
structure Echoed (x : Session) : Prop where
  originals : Originals x.sender
  windowed : Windowed x.sender
  ready : WindowReady x.sender
  heard : Heard x.replies x.sender
  mode : x.sender.selectiveRepeat = true
  peer : x.receiver.selectiveRepeat = true
  bounds :
    x.sender.window.lowerBound ≤ x.sender.window.upperBound
  plain : ∀ ack ∈ x.replies, ack.Plain
  built :
    ∀ ack ∈ x.replies, ack.seq < x.sender.window.upperBound

theorem echoed_fresh
    {config : SenderConfig}
    (w : Nat)
    (hMode : config.selectiveRepeat = true) :
    Echoed (fresh config w) where
  originals := originals_fresh config
  windowed := windowed_fresh config
  ready := windowReady_fresh config
  heard := heard_fresh config _
  mode := hMode
  peer := hMode
  bounds := Nat.le_refl 0
  plain := fun _ hMember => by cases hMember
  built := fun _ hMember => by cases hMember

/- No number in the set reaches the upper bound. -/
theorem Echoed.acked_lt
    {x : Session}
    (hEchoed : Echoed x)
    {n : Nat}
    (hMember : n ∈ x.sender.ackedSeqSet) :
    n < x.sender.window.upperBound := by
  rcases hEchoed.heard.acked n hMember with
    ⟨ack, hReply, rfl⟩
  exact hEchoed.built ack hReply

theorem Echoed.fromBytes_toBytes
    {x : Session}
    (hEchoed : Echoed x)
    {ack : Packet}
    (hMember : ack ∈ x.replies) :
    Packet.fromBytes ack.toBytes = some (some ack) := by
  have hBuilt := hEchoed.built ack hMember
  have hBounded := hEchoed.originals.bounded
  exact Packet.fromBytes_toBytes
    ((hEchoed.plain ack hMember).inRange
      (hBuilt.trans hBounded))

/- The slide loop stays below the upper bound. -/
theorem Echoed.lower_le_upper
    {x : Session}
    {s' : Sender}
    {action : Sender.Action}
    (hEchoed : Echoed x)
    (hStep : x.sender.step action = some s') :
    s'.window.lowerBound ≤ x.sender.window.upperBound := by
  cases selectiveMove_step hEchoed.ready hEchoed.mode
      hStep with
  | keeps _ hLower => exact hLower.trans_le hEchoed.bounds
  | inserts _ _ _ _ hLower =>
      exact hLower.trans_le hEchoed.bounds
  | slides hMember _ hLower =>
      rw [hLower]
      exact (Nat.mod_le _ _).trans
        (hEchoed.acked_lt hMember)

theorem echoed_senderStep
    {x : Session}
    {s' : Sender}
    {action : Sender.Action}
    (hEchoed : Echoed x)
    (hStep : x.sender.step action = some s')
    (hLossy :
      Lossy x (.sender action) { x with sender := s' }) :
    Echoed { x with sender := s' } := by
  have hWrap : NoWrap x.sender s' := hLossy.wrap
  have hConfig := sameConfig_step hStep
  exact
    { originals :=
        originals_step hEchoed.originals hStep hWrap
      windowed :=
        windowed_step hEchoed.windowed hEchoed.bounds
          hEchoed.originals.bounded hStep
          hConfig.maxWindowSize hWrap
      ready := windowReady_step hEchoed.ready hStep
      heard := by
        apply heard_step hEchoed.heard
          (fun _ hReply => hEchoed.fromBytes_toBytes hReply)
          ?_ hStep
        intro result hSocket
        subst hSocket
        exact hLossy.delivers
      mode := hConfig.selectiveRepeat.trans hEchoed.mode
      peer := hEchoed.peer
      bounds := (hEchoed.lower_le_upper hStep).trans hWrap.upper
      plain := hEchoed.plain
      built := fun ack hReply =>
        (hEchoed.built ack hReply).trans_le hWrap.upper }

/- An iteration of the receiver echoes one number at most. -/
theorem echoed_onPacket
    {x : Session}
    {packet : Packet}
    (addr : SocketAddr)
    (hEchoed : Echoed x)
    (hBuilt : x.sender.Built packet.seq packet) :
    Echoed
      { x with
        receiver := x.receiver.onPacket packet addr } := by
  have hRequest := (hEchoed.originals.inRange hBuilt).2
  have hConfig :=
    Receiver.config_onPacket x.receiver packet addr
  have hPeer :
      (x.receiver.onPacket packet addr).selectiveRepeat =
        true :=
    hConfig.2.1.trans hEchoed.peer
  exact
    { hEchoed with
      heard :=
        hEchoed.heard.mono
          (Receiver.replies_subset_onPacket addr hRequest)
      peer := hPeer
      plain :=
        Receiver.plain_onPacket addr hRequest hEchoed.plain
      built := by
        rcases Option.isSome_iff_exists.mp hRequest with
          ⟨ackKind, hAck⟩
        intro ack hReply
        rcases Receiver.mem_replies_onPacket hAck hReply with
          hOld | ⟨rfl, _⟩
        · exact hEchoed.built ack hOld
        · unfold Receiver.ackNumber
          rw [if_pos hPeer]
          exact hEchoed.originals.lt_upperBound hBuilt }

theorem echoed_step
    {x x' : Session}
    {action : Action}
    (hEchoed : Echoed x)
    (hStep : x.step action = some x')
    (hLossy : Lossy x action x') :
    Echoed x' := by
  cases action with
  | sender action =>
      rcases Option.map_eq_some_iff.mp hStep with
        ⟨s', hSender, rfl⟩
      exact echoed_senderStep hEchoed hSender hLossy
  | receive result =>
      cases hStep
      rcases recvStep_of_carries hEchoed.originals
          hLossy.delivers with
        hSame | ⟨packet, addr, hBuilt, _, hNext⟩
      · rw [hSame]
        exact hEchoed
      · rw [hNext]
        exact echoed_onPacket addr hEchoed hBuilt

end Session

end Nkurdt

------------------------------------------------------------
-- Numbers Above the Lower Bound
------------------------------------------------------------

namespace Nkurdt

namespace Session

open Sender
open Runs

/- What every run keeps in which nothing comes late. -/
structure Abreast
    (config : SenderConfig)
    (x : Session) : Prop where
  echoed : Echoed x
  lower_le :
    ∀ n ∈ x.sender.ackedSeqSet,
      x.sender.window.lowerBound ≤ n
  size :
    x.sender.window.maxWindowSize = config.maxWindowSize

theorem abreast_fresh
    {config : SenderConfig}
    (w : Nat)
    (hMode : config.selectiveRepeat = true) :
    Abreast config (fresh config w) where
  echoed := echoed_fresh w hMode
  lower_le := fun n hMember =>
    absurd hMember (Finset.notMem_empty n)
  size := rfl

/- Nothing stays in the set that the slide loop passes. -/
theorem lower_le_senderStep
    {config : SenderConfig}
    {x : Session}
    {s' : Sender}
    {action : Sender.Action}
    (hAbreast : Abreast config x)
    (hStep : x.sender.step action = some s')
    (hInTime : ¬ x.ComesLate (.sender action)) :
    ∀ n ∈ s'.ackedSeqSet, s'.window.lowerBound ≤ n := by
  have hEchoed := hAbreast.echoed
  intro n hMember
  cases selectiveMove_step hEchoed.ready hEchoed.mode
      hStep with
  | keeps hAcked hLower =>
      rw [hAcked] at hMember
      rw [hLower]
      exact hAbreast.lower_le n hMember
  | inserts packet hAction hPc hAcked hLower =>
      rw [hAcked] at hMember
      rw [hLower]
      rcases Finset.mem_insert.mp hMember with rfl | hOld
      · subst hAction
        unfold ComesLate InsertsPassed at hInTime
        simp only [hPc] at hInTime
        exact not_lt.mp hInTime
      · exact hAbreast.lower_le n hOld
  | slides _ hAcked hLower =>
      rw [hAcked] at hMember
      rw [hLower]
      obtain ⟨hOther, hOld⟩ := Finset.mem_erase.mp hMember
      have hLess :=
        lt_of_le_of_ne (hAbreast.lower_le n hOld)
          (Ne.symm hOther)
      exact (Nat.mod_le _ _).trans hLess

theorem abreast_step
    {config : SenderConfig}
    {x x' : Session}
    {action : Action}
    (hAbreast : Abreast config x)
    (hStep : x.step action = some x')
    (hPunctual : Punctual x action x') :
    Abreast config x' := by
  have hEchoed :=
    echoed_step hAbreast.echoed hStep hPunctual.toLossy
  cases action with
  | sender action =>
      rcases Option.map_eq_some_iff.mp hStep with
        ⟨s', hSender, rfl⟩
      exact ⟨hEchoed,
        lower_le_senderStep hAbreast hSender
          hPunctual.inTime,
        (sameConfig_step hSender).maxWindowSize.trans
          hAbreast.size⟩
  | receive result =>
      cases hStep
      exact ⟨hEchoed, hAbreast.lower_le, hAbreast.size⟩

theorem abreast_of_reaches
    {config : SenderConfig}
    {w : Nat}
    {x : Session}
    (hMode : config.selectiveRepeat = true)
    (hReach : Reaches step Punctual (fresh config w) x) :
    Abreast config x :=
  hReach.invariant (abreast_fresh w hMode)
    (fun _ _ _ hCurrent hNext hAllowed =>
      abreast_step hCurrent hNext hAllowed)

/- An interval of the window without its lower bound. -/
theorem card_le_of_between
    {numbers : Finset Nat}
    {lower upper size : Nat}
    (hSize : upper ≤ lower + size)
    (hBetween : ∀ n ∈ numbers, lower < n ∧ n < upper) :
    numbers.card ≤ size - 1 := by
  have hSubset : numbers ⊆ Finset.Ioo lower upper :=
    fun n hMember => Finset.mem_Ioo.mpr (hBetween n hMember)
  have hCard := Finset.card_le_card hSubset
  rw [Nat.card_Ioo] at hCard
  omega

/-
  While no acknowledgement comes late, after each iteration
  of `recv_handler` every number in the set is inside the
  window and not its lower bound. The set holds fewer numbers
  than the window may, and the number that `send_packet` is
  about to use is not among them.
-/
theorem acked_inside
    {config : SenderConfig}
    {w : Nat}
    {x : Session}
    (hMode : config.selectiveRepeat = true)
    (hReach : Reaches step Punctual (fresh config w) x)
    (hTest : x.sender.recvPc = .test) :
    (∀ n ∈ x.sender.ackedSeqSet,
        x.sender.window.lowerBound < n ∧
          n < x.sender.window.upperBound) ∧
      x.sender.ackedSeqSet.card ≤
        config.maxWindowSize - 1 ∧
      ∀ t seq,
        x.sender.callerPc = .updateUpper t seq →
          seq ∉ x.sender.ackedSeqSet := by
  have hAbreast := abreast_of_reaches hMode hReach
  have hEchoed := hAbreast.echoed
  have hClear :
      x.sender.window.lowerBound ∉ x.sender.ackedSeqSet :=
    hEchoed.ready.clear hEchoed.mode
      (by rw [hTest]; exact fun hSlide => by cases hSlide)
  have hInside :
      ∀ n ∈ x.sender.ackedSeqSet,
        x.sender.window.lowerBound < n ∧
          n < x.sender.window.upperBound := by
    intro n hMember
    refine ⟨?_, hEchoed.acked_lt hMember⟩
    apply lt_of_le_of_ne (hAbreast.lower_le n hMember)
    intro hEqual
    exact hClear (hEqual ▸ hMember)
  refine ⟨hInside, ?_, ?_⟩
  · rw [← hAbreast.size]
    exact card_le_of_between hEchoed.windowed.size hInside
  · intro t seq hPc hMember
    have hReserved := hEchoed.originals.reserved t seq hPc
    exact absurd (hEchoed.acked_lt hMember)
      (by rw [hReserved]; exact lt_irrefl _)

/-
  A connection is given up, and of the two requests the
  second one is acknowledged first.
-/
def skipping : List Action :=
  [.sender (.call (.connect ⟨0, 1⟩))] ++
    steps .caller 10 ++
    steps .sendHandler 13 ++
    [.sender (.tick 1000000)] ++
    List.replicate 4 (.sender .timer) ++
    steps .timeoutHandler 8 ++
    steps .sendHandler 14 ++
    steps .caller 3 ++
    [.sender (.call (.connect ⟨0, 1⟩))] ++
    steps .caller 10 ++
    exchange ((Transfer.request .connect).packet 1)
      .connAck 1 10

theorem exists_skipped :
    ∃ x,
      Reaches step Punctual
        (fresh ⟨2, 0, 1, true, false⟩ 2) x ∧
      (x.sender.recvPc = .test ∧
        x.sender.ackedSeqSet = {1}) :=
  exists_reaches_of_runActions skipping (by decide +kernel)

/- The number of the second request is inside the window. -/
theorem acked_inside_skipped :
    ∃ x,
      Reaches step Punctual
        (fresh ⟨2, 0, 1, true, false⟩ 2) x ∧
      1 ∈ x.sender.ackedSeqSet ∧
      x.sender.window.lowerBound < 1 ∧
      1 < x.sender.window.upperBound ∧
      x.sender.ackedSeqSet.card ≤ 2 - 1 := by
  rcases exists_skipped with ⟨x, hReach, hTest, hSet⟩
  have hInside := acked_inside rfl hReach hTest
  have hMember : 1 ∈ x.sender.ackedSeqSet := by
    rw [hSet]
    exact Finset.mem_singleton_self 1
  have hBounds := hInside.1 1 hMember
  exact ⟨x, hReach, hMember, hBounds.1, hBounds.2,
    hInside.2.1⟩

/-
  The acknowledgement of the connection is delivered twice.
  The second one comes behind the lower bound: its number
  stays in the set, which with a window of one packet should
  be empty.
-/
theorem exists_acked_passed :
    ∃ x,
      Reaches step Lossy
        (fresh ⟨1, 0, 1, true, false⟩ 1) x ∧
      (x.sender.recvPc = .test ∧
        0 ∈ x.sender.ackedSeqSet ∧
        x.sender.window.lowerBound = 1 ∧
        ¬ x.sender.ackedSeqSet.card ≤ 1 - 1) :=
  exists_reaches_of_runActions
    ([Action.sender (.call (.connect ⟨0, 1⟩))] ++
      steps .caller 10 ++
      exchange ((Transfer.request .connect).packet 0)
        .connAck 0 11 ++
      answer .connAck 0 6)
    (by decide +kernel)

end Session

end Nkurdt

------------------------------------------------------------
-- What a Late Acknowledgement Leaves Behind
------------------------------------------------------------

namespace Nkurdt

namespace Session

open Sender
open Runs

/- The number is in the set and behind the lower bound. -/
structure Passed (n : Nat) (x : Session) : Prop where
  echoed : Echoed x
  acked : n ∈ x.sender.ackedSeqSet
  behind : n < x.sender.window.lowerBound

/- No step takes it out again. -/
theorem passed_step
    {n : Nat}
    {x x' : Session}
    {action : Action}
    (hPassed : Passed n x)
    (hStep : x.step action = some x')
    (hLossy : Lossy x action x') :
    Passed n x' := by
  have hEchoed := hPassed.echoed
  refine ⟨echoed_step hEchoed hStep hLossy, ?_,
    hPassed.behind.trans_le hLossy.wrap.lower⟩
  cases action with
  | sender action =>
      rcases Option.map_eq_some_iff.mp hStep with
        ⟨s', hSender, rfl⟩
      dsimp only
      cases selectiveMove_step hEchoed.ready hEchoed.mode
          hSender with
      | keeps hAcked => exact hAcked ▸ hPassed.acked
      | inserts _ _ _ hAcked =>
          rw [hAcked]
          exact Finset.mem_insert_of_mem hPassed.acked
      | slides _ hAcked =>
          rw [hAcked]
          exact Finset.mem_erase.mpr
            ⟨hPassed.behind.ne, hPassed.acked⟩
  | receive result =>
      cases hStep
      exact hPassed.acked

/-
  A number that is inserted late is in the set, and behind
  the lower bound, in every state from there on.
-/
theorem passed_of_reaches
    {config : SenderConfig}
    {w : Nat}
    {x x' y : Session}
    {packet : Packet}
    (hMode : config.selectiveRepeat = true)
    (hReach : Reaches step Lossy (fresh config w) x)
    (hPc : x.sender.recvPc = .insertAck packet)
    (hLate : packet.seq < x.sender.window.lowerBound)
    (hStep :
      x.step (.sender (.thread .recvHandler)) = some x')
    (hLossy : Lossy x (.sender (.thread .recvHandler)) x')
    (hLater : Reaches step Lossy x' y) :
    packet.seq ∈ y.sender.ackedSeqSet ∧
      packet.seq < y.sender.window.lowerBound := by
  have hEchoed : Echoed x :=
    hReach.invariant (echoed_fresh w hMode)
      (fun _ _ _ hCurrent hNext hAllowed =>
        echoed_step hCurrent hNext hAllowed)
  have hStart : Passed packet.seq x' := by
    refine ⟨echoed_step hEchoed hStep hLossy, ?_,
      hLate.trans_le hLossy.wrap.lower⟩
    rcases Option.map_eq_some_iff.mp hStep with
      ⟨s', hSender, rfl⟩
    unfold Sender.step threadStep recvHandlerStep at hSender
    simp only [hPc, Option.some.injEq] at hSender
    subst hSender
    exact Finset.mem_insert_self _ _
  have hEnd : Passed packet.seq y :=
    hLater.invariant hStart
      (fun _ _ _ hCurrent hNext hAllowed =>
        passed_step hCurrent hNext hAllowed)
  exact ⟨hEnd.acked, hEnd.behind⟩

end Session

end Nkurdt
