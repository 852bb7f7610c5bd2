import Nkurdt.Sender.Branches

/-
  What the steps of a thread leave alone.

  Of the data that the threads share, each thread writes a
  part: the caller allocates, `send_handler` transmits and
  cleans up, `recv_handler` moves the lower bound and the
  set of acknowledged numbers, `timeout_handler` and the
  timer move numbers around. The structures of this module
  name the rest.

  Main declarations:
    * `Sender.SameConfig`
    * `Sender.CallerKeeps`
    * `Sender.CallKeeps`
    * `Sender.SendHandlerKeeps`
    * `Sender.RecvHandlerKeeps`
    * `Sender.SocketKeeps`
    * `Sender.TimeoutHandlerKeeps`
    * `Sender.BystanderKeeps`
    * `Sender.CallKept`
-/

------------------------------------------------------------
-- Configuration
------------------------------------------------------------

namespace Nkurdt

namespace Sender

/- The values that only the setters write. -/
structure SameConfig (s s' : Sender) : Prop where
  selectiveRepeat : s'.selectiveRepeat = s.selectiveRepeat
  fastRetransmit : s'.fastRetransmit = s.fastRetransmit
  maxRetryCount : s'.maxRetryCount = s.maxRetryCount
  timeout : s'.timeout = s.timeout
  maxWindowSize :
    s'.window.maxWindowSize = s.window.maxWindowSize

end Sender

end Nkurdt

------------------------------------------------------------
-- Caller
------------------------------------------------------------

namespace Nkurdt

namespace Sender

/- What the thread that makes the calls leaves alone. -/
structure CallerKeeps (s s' : Sender) : Prop
    extends SameConfig s s' where
  lowerBound : s'.window.lowerBound = s.window.lowerBound
  ackedSeqSet : s'.ackedSeqSet = s.ackedSeqSet
  retryCount : s'.retryCount = s.retryCount
  ackDupTimes : s'.ackDupTimes = s.ackDupTimes
  watched : ∀ n, s'.timer.Watched n ↔ s.timer.Watched n
  mentions : ∀ n, s'.timer.Mentions n ↔ s.timer.Mentions n
  sendPc : s'.sendPc = s.sendPc
  recvPc : s'.recvPc = s.recvPc
  timeoutPc : s'.timeoutPc = s.timeoutPc
  wire : s'.history.wire = s.history.wire
  received : s'.history.received = s.history.received
  exhausted : s'.history.exhausted = s.history.exhausted

theorem callerStep_keeps
    {s s' : Sender}
    (hStep : s.callerStep = some s') :
    CallerKeeps s s' := by
  cases callerStep_branch hStep with
  | notifiesTimer =>
      have hFrame := ConcurrentTimer.notifyOne_frame s.timer
      refine ⟨⟨rfl, rfl, rfl, rfl, rfl⟩, rfl, rfl, rfl, rfl,
        ?_, fun _ => ConcurrentTimer.mentions_notifyOne,
        rfl, rfl, rfl, rfl, rfl, rfl⟩
      intro n
      unfold ConcurrentTimer.Watched
      rw [hFrame.2.1, hFrame.2.2.1]
  | _ =>
      exact ⟨⟨rfl, rfl, rfl, rfl, rfl⟩, rfl, rfl, rfl, rfl,
        fun _ => Iff.rfl, fun _ => Iff.rfl, rfl, rfl, rfl,
        rfl, rfl, rfl⟩

/-
  A call that begins writes nothing that another thread
  reads.
-/
structure CallKeeps (s s' : Sender) : Prop
    extends CallerKeeps s s' where
  idle : s.callerPc = .idle
  starts :
    (∃ r, s'.callerPc = .lockState r) ∨
      s'.callerPc = .stopRunning
  upperBound : s'.window.upperBound = s.window.upperBound
  packets : s'.history.packets = s.history.packets
  packetPool : s'.packetPool = s.packetPool
  pendingQueue : s'.pendingQueue = s.pendingQueue
  timer : s'.timer = s.timer
  clock : s'.clock = s.clock
  startTime : s'.startTime = s.startTime
  running : s'.running = s.running
  results : s'.history.results = s.history.results
  callFirst :
    s'.history.callFirst = s.history.packets.length

theorem callStep_keeps
    {s s' : Sender}
    {call : Call}
    (hStep : s.callStep call = some s') :
    CallKeeps s s' := by
  unfold callStep at hStep
  split_ifs at hStep with hIdle
  cases call
  all_goals
    rw [← Option.some.inj hStep]
    refine ⟨⟨⟨rfl, rfl, rfl, rfl, rfl⟩, rfl, rfl, rfl, rfl,
      fun _ => Iff.rfl, fun _ => Iff.rfl, rfl, rfl, rfl, rfl,
      rfl, rfl⟩, hIdle, ?_, rfl, rfl, rfl, rfl, rfl,
      rfl, rfl, rfl, rfl, rfl⟩
  case stop => exact Or.inr rfl
  all_goals exact Or.inl ⟨_, rfl⟩

end Sender

end Nkurdt

------------------------------------------------------------
-- Send Handler
------------------------------------------------------------

namespace Nkurdt

namespace Sender

/- What `send_handler` leaves alone. -/
structure SendHandlerKeeps (s s' : Sender) : Prop
    extends SameConfig s s' where
  window : s'.window = s.window
  ackedSeqSet : s'.ackedSeqSet = s.ackedSeqSet
  ackDupTimes : s'.ackDupTimes = s.ackDupTimes
  callerPc :
    s'.callerPc = s.callerPc ∨
      s'.callerPc = wake s.callerPc
  stream : s'.stream = s.stream
  recvPc : s'.recvPc = s.recvPc
  timeoutPc : s'.timeoutPc = s.timeoutPc
  calls : s'.history.calls = s.history.calls
  results : s'.history.results = s.history.results
  packets : s'.history.packets = s.history.packets
  request : s'.history.request = s.history.request
  callFirst : s'.history.callFirst = s.history.callFirst
  received : s'.history.received = s.history.received

theorem sendHandlerStep_keeps
    {s s' : Sender}
    (hStep : s.sendHandlerStep = some s') :
    SendHandlerKeeps s s' := by
  cases sendHandlerStep_branch hStep with
  | failsTransfer | failsConnection =>
      exact ⟨⟨rfl, rfl, rfl, rfl, rfl⟩, rfl, rfl, rfl,
        Or.inr rfl, rfl, rfl, rfl, rfl, rfl, rfl, rfl, rfl,
        rfl⟩
  | _ =>
      exact ⟨⟨rfl, rfl, rfl, rfl, rfl⟩, rfl, rfl, rfl,
        Or.inl rfl, rfl, rfl, rfl, rfl, rfl, rfl, rfl, rfl,
        rfl⟩

end Sender

end Nkurdt

------------------------------------------------------------
-- Receive Handler
------------------------------------------------------------

namespace Nkurdt

namespace Sender

/- What `recv_handler` leaves alone. -/
structure RecvHandlerKeeps (s s' : Sender) : Prop
    extends SameConfig s s' where
  upperBound : s'.window.upperBound = s.window.upperBound
  timer : s'.timer = s.timer
  packetPool : s'.packetPool = s.packetPool
  retryCount : s'.retryCount = s.retryCount
  callerPc :
    s'.callerPc = s.callerPc ∨
      s'.callerPc = wake s.callerPc
  stream : s'.stream = s.stream
  sendPc : s'.sendPc = s.sendPc
  timeoutPc : s'.timeoutPc = s.timeoutPc
  calls : s'.history.calls = s.history.calls
  results : s'.history.results = s.history.results
  packets : s'.history.packets = s.history.packets
  request : s'.history.request = s.history.request
  callFirst : s'.history.callFirst = s.history.callFirst
  wire : s'.history.wire = s.history.wire
  exhausted : s'.history.exhausted = s.history.exhausted

theorem recvHandlerStep_keeps
    {s s' : Sender}
    (hStep : s.recvHandlerStep = some s') :
    RecvHandlerKeeps s s' := by
  cases recvHandlerStep_branch hStep with
  | notifies =>
      exact ⟨⟨rfl, rfl, rfl, rfl, rfl⟩, rfl, rfl, rfl, rfl,
        Or.inr rfl, rfl, rfl, rfl, rfl, rfl, rfl, rfl, rfl,
        rfl, rfl⟩
  | _ =>
      exact ⟨⟨rfl, rfl, rfl, rfl, rfl⟩, rfl, rfl, rfl, rfl,
        Or.inl rfl, rfl, rfl, rfl, rfl, rfl, rfl, rfl, rfl,
        rfl, rfl⟩

/- Only `pushAll` of the handler queues anything. -/
theorem pendingQueue_recvHandlerStep
    {s s' : Sender}
    (hStep : s.recvHandlerStep = some s')
    (hOther :
      ∀ packet lower upper,
        s.recvPc ≠ .pushAll packet lower upper) :
    s'.pendingQueue = s.pendingQueue := by
  cases recvHandlerStep_branch hStep with
  | pushes hPc => exact absurd hPc (hOther _ _ _)
  | _ => rfl

/-
  What the return of the socket leaves alone. It takes
  `recv_handler` from its wait to the decoder or to the head
  of its loop.
-/
structure SocketKeeps (s s' : Sender) : Prop
    extends RecvHandlerKeeps s s' where
  window : s'.window = s.window
  ackedSeqSet : s'.ackedSeqSet = s.ackedSeqSet
  ackDupTimes : s'.ackDupTimes = s.ackDupTimes
  pendingQueue : s'.pendingQueue = s.pendingQueue
  state : s'.state = s.state
  locks : s'.locks = s.locks
  clock : s'.clock = s.clock
  history : s'.history = s.history
  recvPc : s.recvPc = .recv
  next :
    (∃ bytes, s'.recvPc = .decode bytes) ∨ s'.recvPc = .test

theorem recvStep_keeps
    {s s' : Sender}
    {result : RecvResult}
    (hStep : s.recvStep result = some s') :
    SocketKeeps s s' := by
  unfold recvStep at hStep
  split_ifs at hStep with hPc
  cases result
  all_goals dsimp only at hStep
  all_goals try split_ifs at hStep
  all_goals
    rw [← Option.some.inj hStep]
    refine ⟨⟨⟨rfl, rfl, rfl, rfl, rfl⟩, rfl, rfl, rfl, rfl,
      Or.inl rfl, rfl, rfl, rfl, rfl, rfl, rfl, rfl, rfl,
      rfl, rfl⟩, rfl, rfl, rfl, rfl, rfl, rfl, rfl, rfl,
      hPc, ?_⟩
    first
      | exact Or.inr rfl
      | exact Or.inl ⟨_, rfl⟩

end Sender

end Nkurdt

------------------------------------------------------------
-- Timeout Handler
------------------------------------------------------------

namespace Nkurdt

namespace Sender

/- What `timeout_handler` leaves alone. -/
structure TimeoutHandlerKeeps (s s' : Sender) : Prop
    extends SameConfig s s' where
  window : s'.window = s.window
  packetPool : s'.packetPool = s.packetPool
  retryCount : s'.retryCount = s.retryCount
  ackedSeqSet : s'.ackedSeqSet = s.ackedSeqSet
  state : s'.state = s.state
  running : s'.running = s.running
  callerPc : s'.callerPc = s.callerPc
  stream : s'.stream = s.stream
  sendPc : s'.sendPc = s.sendPc
  recvPc : s'.recvPc = s.recvPc
  history : s'.history = s.history

theorem timeoutHandlerStep_keeps
    {s s' : Sender}
    (hStep : s.timeoutHandlerStep = some s') :
    TimeoutHandlerKeeps s s' := by
  cases timeoutHandlerStep_branch hStep
  all_goals
    exact ⟨⟨rfl, rfl, rfl, rfl, rfl⟩, rfl, rfl, rfl, rfl,
      rfl, rfl, rfl, rfl, rfl, rfl, rfl⟩

end Sender

end Nkurdt

------------------------------------------------------------
-- Every Thread
------------------------------------------------------------

namespace Nkurdt

namespace Sender

/- No step of a run sets what the setters configure. -/
theorem sameConfig_step
    {s s' : Sender}
    {action : Action}
    (hStep : s.step action = some s') :
    SameConfig s s' := by
  cases action with
  | call call => exact (callStep_keeps hStep).toSameConfig
  | thread thread =>
      cases thread with
      | caller => exact (callerStep_keeps hStep).toSameConfig
      | sendHandler =>
          exact (sendHandlerStep_keeps hStep).toSameConfig
      | recvHandler =>
          exact (recvHandlerStep_keeps hStep).toSameConfig
      | timeoutHandler =>
          exact (timeoutHandlerStep_keeps hStep).toSameConfig
  | timer =>
      rcases Option.map_eq_some_iff.mp hStep with
        ⟨timer, _, rfl⟩
      exact ⟨rfl, rfl, rfl, rfl, rfl⟩
  | recv result =>
      exact (recvStep_keeps hStep).toSameConfig
  | tick duration =>
      rw [← Option.some.inj hStep]
      exact ⟨rfl, rfl, rfl, rfl, rfl⟩
  | wakeCaller =>
      rw [← Option.some.inj hStep]
      exact ⟨rfl, rfl, rfl, rfl, rfl⟩
  | wakeTimer =>
      rw [← Option.some.inj hStep]
      exact ⟨rfl, rfl, rfl, rfl, rfl⟩

end Sender

end Nkurdt

------------------------------------------------------------
-- Everyone but the Receive Handler
------------------------------------------------------------

namespace Nkurdt

namespace Sender

/-
  What every step leaves alone that is not one of
  `recv_handler`: the data that it moves the window by.
-/
structure BystanderKeeps (s s' : Sender) : Prop where
  selectiveRepeat : s'.selectiveRepeat = s.selectiveRepeat
  lowerBound : s'.window.lowerBound = s.window.lowerBound
  ackedSeqSet : s'.ackedSeqSet = s.ackedSeqSet
  recvPc :
    s'.recvPc = s.recvPc ∨
      s.recvPc = .recv ∧
        ((∃ bytes, s'.recvPc = .decode bytes) ∨
          s'.recvPc = .test)
  received : s'.history.received = s.history.received

theorem step_keeps
    {s s' : Sender}
    {action : Action}
    (hStep : s.step action = some s')
    (hOther : action ≠ .thread .recvHandler) :
    BystanderKeeps s s' := by
  cases action with
  | call call =>
      have hKeeps := callStep_keeps hStep
      exact ⟨hKeeps.selectiveRepeat, hKeeps.lowerBound,
        hKeeps.ackedSeqSet, Or.inl hKeeps.recvPc,
        hKeeps.received⟩
  | thread thread =>
      cases thread with
      | caller =>
          have hKeeps := callerStep_keeps hStep
          exact ⟨hKeeps.selectiveRepeat, hKeeps.lowerBound,
            hKeeps.ackedSeqSet, Or.inl hKeeps.recvPc,
            hKeeps.received⟩
      | sendHandler =>
          have hKeeps := sendHandlerStep_keeps hStep
          exact ⟨hKeeps.selectiveRepeat,
            by rw [hKeeps.window], hKeeps.ackedSeqSet,
            Or.inl hKeeps.recvPc, hKeeps.received⟩
      | recvHandler => exact absurd rfl hOther
      | timeoutHandler =>
          have hKeeps := timeoutHandlerStep_keeps hStep
          exact ⟨hKeeps.selectiveRepeat,
            by rw [hKeeps.window], hKeeps.ackedSeqSet,
            Or.inl hKeeps.recvPc, by rw [hKeeps.history]⟩
  | timer =>
      rcases Option.map_eq_some_iff.mp hStep with
        ⟨timer, _, rfl⟩
      exact ⟨rfl, rfl, rfl, Or.inl rfl, rfl⟩
  | recv result =>
      have hKeeps := recvStep_keeps hStep
      exact ⟨hKeeps.selectiveRepeat, by rw [hKeeps.window],
        hKeeps.ackedSeqSet,
        Or.inr ⟨hKeeps.recvPc, hKeeps.next⟩,
        by rw [hKeeps.history]⟩
  | tick duration =>
      rw [← Option.some.inj hStep]
      exact ⟨rfl, rfl, rfl, Or.inl rfl, rfl⟩
  | wakeCaller =>
      rw [← Option.some.inj hStep]
      exact ⟨rfl, rfl, rfl, Or.inl rfl, rfl⟩
  | wakeTimer =>
      rw [← Option.some.inj hStep]
      exact ⟨rfl, rfl, rfl, Or.inl rfl, rfl⟩

end Sender

end Nkurdt

namespace Nkurdt

namespace Sender

/- Only its own steps and the socket move `recv_handler`. -/
theorem recvPc_of_other
    {s s' : Sender}
    {action : Action}
    (hStep : s.step action = some s')
    (hOther : action ≠ .thread .recvHandler)
    (hSocket : ∀ result, action ≠ .recv result) :
    s'.recvPc = s.recvPc := by
  cases action with
  | call call => exact (callStep_keeps hStep).recvPc
  | thread thread =>
      cases thread with
      | caller => exact (callerStep_keeps hStep).recvPc
      | sendHandler => exact (sendHandlerStep_keeps hStep).recvPc
      | recvHandler => exact absurd rfl hOther
      | timeoutHandler =>
          exact (timeoutHandlerStep_keeps hStep).recvPc
  | timer =>
      rcases Option.map_eq_some_iff.mp hStep with
        ⟨timer, _, rfl⟩
      rfl
  | recv result => exact absurd rfl (hSocket result)
  | tick duration =>
      rw [← Option.some.inj hStep]
  | wakeCaller =>
      rw [← Option.some.inj hStep]
      rfl
  | wakeTimer =>
      rw [← Option.some.inj hStep]

end Sender

end Nkurdt

------------------------------------------------------------
-- Everyone but the Send Handler
------------------------------------------------------------

namespace Nkurdt

namespace Sender

/- The other threads leave `send_handler` where it is. -/
theorem sendHandler_of_other
    {s s' : Sender}
    {action : Action}
    (hStep : s.step action = some s')
    (hOther : action ≠ .thread .sendHandler) :
    s'.sendPc = s.sendPc ∧
      s'.history.exhausted = s.history.exhausted := by
  cases action with
  | call call =>
      have hKeeps := callStep_keeps hStep
      exact ⟨hKeeps.sendPc, hKeeps.exhausted⟩
  | thread thread =>
      cases thread with
      | caller =>
          have hKeeps := callerStep_keeps hStep
          exact ⟨hKeeps.sendPc, hKeeps.exhausted⟩
      | sendHandler => exact absurd rfl hOther
      | recvHandler =>
          have hKeeps := recvHandlerStep_keeps hStep
          exact ⟨hKeeps.sendPc, hKeeps.exhausted⟩
      | timeoutHandler =>
          have hKeeps := timeoutHandlerStep_keeps hStep
          exact ⟨hKeeps.sendPc, by rw [hKeeps.history]⟩
  | timer =>
      rcases Option.map_eq_some_iff.mp hStep with
        ⟨timer, _, rfl⟩
      exact ⟨rfl, rfl⟩
  | recv result =>
      have hKeeps := recvStep_keeps hStep
      exact ⟨hKeeps.sendPc, by rw [hKeeps.history]⟩
  | tick duration =>
      rw [← Option.some.inj hStep]
      exact ⟨rfl, rfl⟩
  | wakeCaller =>
      rw [← Option.some.inj hStep]
      exact ⟨rfl, rfl⟩
  | wakeTimer =>
      rw [← Option.some.inj hStep]
      exact ⟨rfl, rfl⟩

end Sender

end Nkurdt

------------------------------------------------------------
-- Everyone but the Caller
------------------------------------------------------------

namespace Nkurdt

namespace Sender

/- What the other threads leave alone of a call. -/
structure CallKept (s s' : Sender) : Prop where
  callerPc :
    s'.callerPc = s.callerPc ∨
      s'.callerPc = wake s.callerPc
  upperBound : s'.window.upperBound = s.window.upperBound
  calls : s'.history.calls = s.history.calls
  packets : s'.history.packets = s.history.packets
  request : s'.history.request = s.history.request
  callFirst : s'.history.callFirst = s.history.callFirst
  stream : s'.stream = s.stream

theorem callKept_step
    {s s' : Sender}
    {action : Action}
    (hStep : s.step action = some s')
    (hCall : ∀ call, action ≠ .call call)
    (hCaller : action ≠ .thread .caller) :
    CallKept s s' := by
  cases action with
  | call call => exact absurd rfl (hCall call)
  | thread thread =>
      cases thread with
      | caller => exact absurd rfl hCaller
      | sendHandler =>
          have hKeeps := sendHandlerStep_keeps hStep
          exact ⟨hKeeps.callerPc, by rw [hKeeps.window],
            hKeeps.calls, hKeeps.packets, hKeeps.request,
            hKeeps.callFirst, hKeeps.stream⟩
      | recvHandler =>
          have hKeeps := recvHandlerStep_keeps hStep
          exact ⟨hKeeps.callerPc, hKeeps.upperBound,
            hKeeps.calls, hKeeps.packets, hKeeps.request,
            hKeeps.callFirst, hKeeps.stream⟩
      | timeoutHandler =>
          have hKeeps := timeoutHandlerStep_keeps hStep
          exact ⟨Or.inl hKeeps.callerPc,
            by rw [hKeeps.window], by rw [hKeeps.history],
            by rw [hKeeps.history], by rw [hKeeps.history],
            by rw [hKeeps.history], hKeeps.stream⟩
  | timer =>
      rcases Option.map_eq_some_iff.mp hStep with
        ⟨timer, _, rfl⟩
      exact ⟨Or.inl rfl, rfl, rfl, rfl, rfl, rfl, rfl⟩
  | recv result =>
      have hKeeps := recvStep_keeps hStep
      exact ⟨hKeeps.callerPc, hKeeps.upperBound,
        hKeeps.calls, hKeeps.packets, hKeeps.request,
        hKeeps.callFirst, hKeeps.stream⟩
  | tick duration =>
      rw [← Option.some.inj hStep]
      exact ⟨Or.inl rfl, rfl, rfl, rfl, rfl, rfl, rfl⟩
  | wakeCaller =>
      rw [← Option.some.inj hStep]
      exact ⟨Or.inr rfl, rfl, rfl, rfl, rfl, rfl, rfl⟩
  | wakeTimer =>
      rw [← Option.some.inj hStep]
      exact ⟨Or.inl rfl, rfl, rfl, rfl, rfl, rfl, rfl⟩

end Sender

end Nkurdt
