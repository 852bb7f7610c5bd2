import Nkurdt.Router
import Nkurdt.Session.Noise

/-
  A session through the router.

  The sender and the receiver talk to the router only,
  nothing else arrives at its port, and it runs between the
  two hops of the network. It passes on nothing that it has
  not been given, and knows the two sides apart by the
  address of the receiver. So a session through it is a
  session over one network that loses, duplicates, delays
  and reorders.

  Main declarations:
    * `Relayed`
    * `Relayed.step`
    * `Relayed.Connected`
    * `Relayed.Passing`
    * `Relayed.connected_of_reaches`
-/

------------------------------------------------------------
-- Steps of a Relayed Session
------------------------------------------------------------

namespace Nkurdt

structure Relayed where
  session : Session
  router : Router

namespace Relayed

def fresh
    (config : SenderConfig)
    (maxWindowSize : Nat) : Relayed :=
  ⟨Session.fresh config maxWindowSize, Router.main⟩

/-
  A step of either side, or an iteration of the router on
  what its socket returns.
-/
inductive Action where
| session (action : Session.Action)
| route (result : RecvResult) (luck : Luck)

def step
    (args : RouterArgs)
    (x : Relayed) : Action → Option Relayed
| .session action =>
    (x.session.step action).map fun session =>
      { x with session := session }
| .route result luck =>
    some
      { x with
        router := x.router.iterate args result luck }

/-
  What a socket returns on the hop behind the router: one of
  the given datagrams, or an error that is not fatal.
-/
def Hop (sent : List (List UInt8)) : RecvResult → Prop
| .error value => isFatalError value = false
| .datagram bytes _ => bytes ∈ sent

instance
    (sent : List (List UInt8))
    (result : RecvResult) :
    Decidable (Hop sent result) := by
  cases result
  all_goals
    unfold Hop
    infer_instance

/-
  What the socket of the router returns: a datagram of the
  receiver with the remote address, or a datagram of the
  sender with another one. Nothing else arrives at its port.
  The router would pass on whatever comes from anywhere.
-/
def Arrives
    (args : RouterArgs)
    (x : Session) : RecvResult → Prop
| .error _ => True
| .datagram bytes addr =>
    if addr = args.remote then
      ∃ ack ∈ x.replies, bytes = ack.toBytes
    else
      ∃ packet ∈ x.requests, bytes = packet.toBytes

instance
    (args : RouterArgs)
    (x : Session)
    (result : RecvResult) :
    Decidable (Arrives args x result) := by
  cases result
  all_goals
    unfold Arrives
    infer_instance

def Delivers
    (args : RouterArgs)
    (x : Relayed) : Action → Prop
| .session (.sender (.recv result)) =>
    Hop (Router.toClient args x.router.sent) result
| .session (.receive result) =>
    Hop (Router.toServer args x.router.sent) result
| .session _ => True
| .route result _ => Arrives args x.session result

instance
    (args : RouterArgs)
    (x : Relayed)
    (action : Action) :
    Decidable (x.Delivers args action) := by
  unfold Delivers
  rcases action with ⟨⟨⟨⟩⟩ | _⟩ | _
  all_goals infer_instance

/- The sides keep to the conditions of a session. -/
def SessionRegular
    (x : Session)
    (x' : Session) : Action → Prop
| .session action => x.Regular action x'
| .route _ _ => True

instance (x x' : Session) (action : Action) :
    Decidable (SessionRegular x x' action) := by
  unfold SessionRegular
  cases action
  all_goals infer_instance

structure Connected
    (args : RouterArgs)
    (x : Relayed)
    (action : Action)
    (x' : Relayed) : Prop where
  delivers : x.Delivers args action
  regular : SessionRegular x.session x'.session action

instance
    (args : RouterArgs)
    (x : Relayed)
    (action : Action)
    (x' : Relayed) :
    Decidable (Connected args x action x') :=
  decidable_of_iff
    (x.Delivers args action ∧
      SessionRegular x.session x'.session action)
    ⟨fun hBoth => ⟨hBoth.1, hBoth.2⟩,
      fun hStep => ⟨hStep.delivers, hStep.regular⟩⟩

end Relayed

end Nkurdt

------------------------------------------------------------
-- What Has Been Sent Stays Sent
------------------------------------------------------------

namespace Nkurdt

namespace Session

open Sender

theorem requests_senderStep
    {x : Session}
    {s' : Sender}
    {action : Sender.Action}
    (hStep : x.sender.step action = some s') :
    x.requests ⊆ requests { x with sender := s' } := by
  have hWire :
      x.sender.history.wire ⊆ s'.history.wire := by
    cases action with
    | call call =>
        rw [(callStep_keeps hStep).wire]
        exact List.Subset.refl _
    | thread thread =>
        cases thread with
        | caller =>
            rw [(callerStep_keeps hStep).wire]
            exact List.Subset.refl _
        | sendHandler =>
            cases sendHandlerStep_branch hStep with
            | transmits => exact List.subset_append_left _ _
            | _ => exact List.Subset.refl _
        | recvHandler =>
            rw [(recvHandlerStep_keeps hStep).wire]
            exact List.Subset.refl _
        | timeoutHandler =>
            rw [(timeoutHandlerStep_keeps hStep).history]
            exact List.Subset.refl _
    | recv result =>
        rw [(recvStep_keeps hStep).history]
        exact List.Subset.refl _
    | timer =>
        rcases Option.map_eq_some_iff.mp hStep with
          ⟨timer, _, rfl⟩
        exact List.Subset.refl _
    | tick duration =>
        rw [← Option.some.inj hStep]
        exact List.Subset.refl _
    | wakeCaller =>
        rw [← Option.some.inj hStep]
        exact List.Subset.refl _
    | wakeTimer =>
        rw [← Option.some.inj hStep]
        exact List.Subset.refl _
  exact List.map_subset Prod.snd hWire

theorem replies_recvStep
    {x : Session}
    {result : RecvResult}
    (hOriginals : Originals x.sender)
    (hCarries : Carries x.requests result) :
    x.replies ⊆
      replies
        { x with receiver := x.receiver.recvStep result } := by
  rcases recvStep_of_carries hOriginals hCarries with
    hSame | ⟨packet, addr, hBuilt, _, hNext⟩
  · rw [hSame]
    exact List.Subset.refl _
  · rw [hNext]
    exact Receiver.replies_subset_onPacket addr
      (hOriginals.inRange hBuilt).2

end Session

end Nkurdt

------------------------------------------------------------
-- What the Router Has Passed On
------------------------------------------------------------

namespace Nkurdt

namespace Relayed

open Session
open Runs

theorem Arrives.mono
    {args : RouterArgs}
    {x x' : Session}
    {result : RecvResult}
    (hArrives : Arrives args x result)
    (hRequests : x.requests ⊆ x'.requests)
    (hReplies : x.replies ⊆ x'.replies) :
    Arrives args x' result := by
  cases result with
  | error value => trivial
  | datagram bytes addr =>
      unfold Arrives at hArrives ⊢
      dsimp only at hArrives ⊢
      split_ifs at hArrives ⊢
      · rcases hArrives with ⟨ack, hMember, hBytes⟩
        exact ⟨ack, hReplies hMember, hBytes⟩
      · rcases hArrives with ⟨packet, hMember, hBytes⟩
        exact ⟨packet, hRequests hMember, hBytes⟩

/- The inputs of the router are what the sides have sent. -/
def Passing (args : RouterArgs) (x : Relayed) : Prop :=
  ∃ inputs,
    Router.Relays args inputs x.router ∧
      ∀ input ∈ inputs, Arrives args x.session input.1

theorem Passing.mono
    {args : RouterArgs}
    {x : Relayed}
    {session : Session}
    (hPassing : Passing args x)
    (hRequests : x.session.requests ⊆ session.requests)
    (hReplies : x.session.replies ⊆ session.replies) :
    Passing args { x with session := session } := by
  rcases hPassing with ⟨inputs, hRelays, hArrives⟩
  exact ⟨inputs, hRelays, fun input hMember =>
    (hArrives input hMember).mono hRequests hReplies⟩

theorem passing_route
    {args : RouterArgs}
    {x : Relayed}
    {result : RecvResult}
    (luck : Luck)
    (hPassing : Passing args x)
    (hArrives : Arrives args x.session result) :
    Passing args
      { x with
        router := x.router.iterate args result luck } := by
  rcases hPassing with ⟨inputs, hRelays, hAll⟩
  refine ⟨inputs ++ [(result, luck)],
    Router.relays_iterate hRelays (result, luck), ?_⟩
  intro input hMember
  rcases List.mem_append.mp hMember with hOld | hNew
  · exact hAll input hOld
  · rw [List.mem_singleton.mp hNew]
    exact hArrives

/- What leaves the router for the receiver. -/
theorem Passing.toServer
    {args : RouterArgs}
    {x : Relayed}
    {bytes : List UInt8}
    (hPassing : Passing args x)
    (hSent : bytes ∈ Router.toServer args x.router.sent) :
    ∃ packet ∈ x.session.requests,
      bytes = packet.toBytes := by
  rcases hPassing with ⟨inputs, hRelays, hArrives⟩
  rcases List.mem_filterMap.mp (hRelays.server.subset hSent)
    with ⟨⟨result, luck⟩, hMember, hInput⟩
  have hArrived := hArrives _ hMember
  cases result with
  | error value => cases hInput
  | datagram data addr =>
      dsimp only at hInput
      unfold Arrives at hArrived
      dsimp only at hArrived
      split_ifs at hInput with hAddr
      cases hInput
      rw [if_neg hAddr] at hArrived
      exact hArrived

/- And what leaves it for the sender. -/
theorem Passing.toClient
    {args : RouterArgs}
    {x : Relayed}
    {bytes : List UInt8}
    (hPassing : Passing args x)
    (hSent : bytes ∈ Router.toClient args x.router.sent) :
    ∃ ack ∈ x.session.replies, bytes = ack.toBytes := by
  rcases hPassing with ⟨inputs, hRelays, hArrives⟩
  rcases List.mem_filterMap.mp (hRelays.client.subset hSent)
    with ⟨⟨result, luck⟩, hMember, hInput⟩
  have hArrived := hArrives _ hMember
  cases result with
  | error value => cases hInput
  | datagram data addr =>
      dsimp only at hInput
      unfold Arrives at hArrived
      dsimp only at hArrived
      split_ifs at hInput with hAddr
      cases hInput
      rw [if_pos hAddr] at hArrived
      exact hArrived

/- The two hops together are one network. -/
theorem Passing.delivers
    {args : RouterArgs}
    {x : Relayed}
    {action : Session.Action}
    (hPassing : Passing args x)
    (hDelivers : x.Delivers args (.session action)) :
    x.session.Delivers action := by
  cases action with
  | receive result =>
      cases result with
      | error value => exact hDelivers
      | datagram bytes addr =>
          exact hPassing.toServer hDelivers
  | sender action =>
      cases action with
      | recv result =>
          cases result with
          | error value => exact hDelivers
          | datagram bytes addr =>
              exact hPassing.toClient hDelivers
      | _ => trivial

/- What every relayed session keeps. -/
structure Joined
    (config : SenderConfig)
    (w : Nat)
    (args : RouterArgs)
    (x : Relayed) : Prop where
  reaches :
    Reaches Session.step Session.Connected
      (Session.fresh config w) x.session
  passing : Passing args x

theorem joined_step
    {config : SenderConfig}
    {w : Nat}
    {args : RouterArgs}
    {x x' : Relayed}
    {action : Action}
    (hSize : 1 ≤ w)
    (hJoined : Joined config w args x)
    (hStep : step args x action = some x')
    (hConnected : Connected args x action x') :
    Joined config w args x' := by
  have hPassing := hJoined.passing
  cases action with
  | route result luck =>
      cases hStep
      exact ⟨hJoined.reaches,
        passing_route luck hPassing hConnected.delivers⟩
  | session action =>
      rcases Option.map_eq_some_iff.mp hStep with
        ⟨session, hSession, rfl⟩
      have hDelivers := hPassing.delivers hConnected.delivers
      refine ⟨hJoined.reaches.tail hSession
        (hConnected.regular.connected hDelivers), ?_⟩
      cases action with
      | sender action =>
          rcases Option.map_eq_some_iff.mp hSession with
            ⟨s', hSender, rfl⟩
          exact hPassing.mono (requests_senderStep hSender)
            (List.Subset.refl _)
      | receive result =>
          cases hSession
          have hOriginals :=
            (sustained_of_reaches hSize
              hJoined.reaches).joined.originals
          exact hPassing.mono (List.Subset.refl _)
            (replies_recvStep hOriginals hDelivers)

/-
  A session through the router, whatever it loses and in
  whatever order it is scheduled, is a connected session:
  the output is a prefix of the streams, and all of them
  when the window of the sender is empty.
-/
theorem connected_of_reaches
    {config : SenderConfig}
    {w : Nat}
    {args : RouterArgs}
    {x : Relayed}
    (hSize : 1 ≤ w)
    (hReach :
      Reaches (step args) (Connected args)
        (fresh config w) x) :
    Reaches Session.step Session.Connected
        (Session.fresh config w) x.session ∧
      Event.written x.session.receiver.trace <+:
        x.session.sender.history.streams.flatten ∧
      ∀ s',
        x.session.sender.callerPc = .waitZero →
        x.session.sender.callerStep = some s' →
        s'.callerPc = .throughput →
          Event.written x.session.receiver.trace =
            x.session.sender.history.streams.flatten := by
  have hJoined : Joined config w args x :=
    hReach.invariant
      ⟨.refl, [], Router.relays_main args,
        fun _ hMember => by cases hMember⟩
      (fun _ _ _ hCurrent hNext hAllowed =>
        joined_step hSize hCurrent hNext hAllowed)
  have hSession :=
    (sustained_of_reaches hSize hJoined.reaches).joined
  exact ⟨hJoined.reaches, hSession.written_prefix,
    fun _ hPc hStep hNext =>
      hSession.written_of_waitZero hPc hStep hNext⟩

/-
  A packet goes through the router, which loses a second
  copy of it, and its acknowledgement comes back.
-/
def exchange
    (packet : Packet)
    (kind : PacketKind)
    (seq count : Nat) : List Action :=
  (steps .sendHandler 13).map Action.session ++
    [Action.route (.datagram packet.toBytes ⟨0, 2⟩)
        ⟨false, false⟩,
      Action.route (.datagram packet.toBytes ⟨0, 2⟩)
        ⟨true, false⟩,
      Action.session (arrives packet),
      Action.route
        (.datagram
          (Packet.toBytes ⟨version, kind, seq, []⟩) ⟨0, 9⟩)
        ⟨false, false⟩] ++
    (answer kind seq count).map Action.session

def relaying : List Action :=
  [Action.session (.sender (.call (.connect ⟨0, 1⟩)))] ++
    (steps .caller 10).map Action.session ++
    exchange ((Transfer.request .connect).packet 0)
      .connAck 1 13 ++
    (steps .caller 3).map Action.session ++
    [Action.session
      (.sender (.call (.send (.ofBytes [1, 2, 3]))))] ++
    (steps .caller 10).map Action.session ++
    exchange ((Transfer.request .push).packet 1)
      .dataPushAck 2 13 ++
    (steps .caller 11).map Action.session ++
    exchange ((Transfer.data [1, 2, 3]).packet 2)
      .dataAck 3 9

/- Three bytes through a router that loses half. -/
theorem connected_of_reaches_relaying :
    ∃ x,
      Reaches (step ⟨⟨0, 9⟩, false⟩)
        (Connected ⟨⟨0, 9⟩, false⟩)
        (fresh ⟨1, 0, 1, false, false⟩ 1) x ∧
      (Event.written x.session.receiver.trace = [1, 2, 3] ∧
        x.router.lossCount = 3) ∧
      Event.written x.session.receiver.trace <+:
        x.session.sender.history.streams.flatten := by
  have hRun :
      ∃ x,
        Reaches (step ⟨⟨0, 9⟩, false⟩)
          (Connected ⟨⟨0, 9⟩, false⟩)
          (fresh ⟨1, 0, 1, false, false⟩ 1) x ∧
        (Event.written x.session.receiver.trace =
            [1, 2, 3] ∧
          x.router.lossCount = 3) :=
    exists_reaches_of_runActions relaying
      (by decide +kernel)
  rcases hRun with ⟨x, hReach, hWritten⟩
  exact ⟨x, hReach, hWritten,
    (connected_of_reaches (by decide) hReach).2.1⟩

end Relayed

end Nkurdt
