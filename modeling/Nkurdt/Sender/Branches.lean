import Nkurdt.Sender.Step

/-
  The branches of a step.

  What a step of a thread can do, with one constructor for
  every branch of its code: where the thread is, the guard
  of the branch, and the sender after it. The invariants go
  by cases on these.

  Main declarations:
    * `Sender.CallerBranch`
    * `Sender.callerStep_branch`
    * `Sender.SendBranch`
    * `Sender.sendHandlerStep_branch`
    * `Sender.RecvBranch`
    * `Sender.recvHandlerStep_branch`
    * `Sender.TimeoutBranch`
    * `Sender.timeoutHandlerStep_branch`
-/

------------------------------------------------------------
-- Caller
------------------------------------------------------------

namespace Nkurdt

namespace Sender

inductive CallerBranch (s : Sender) : Sender → Prop
| locksState
    {r : Request}
    (hPc : s.callerPc = .lockState r)
    (hFree : s.locks.state = none) :
    CallerBranch s
      { s with
        locks := { s.locks with state := some .caller }
        callerPc := .enter r }
| skips
    {r : Request}
    (hPc : s.callerPc = .enter r)
    (hIdle : r = .disconnect ∧ s.state = .idle) :
    CallerBranch s { s with callerPc := .finish r }
| enters
    {r : Request}
    (hPc : s.callerPc = .enter r)
    (hBusy : ¬ (r = .disconnect ∧ s.state = .idle)) :
    CallerBranch s
      { s with
        state := r.waiting
        peerAddr :=
          if r = .connect then s.callAddr else s.peerAddr
        history := { s.history with request := none }
        callerPc := .waitWindow (.request r) }
| findsRoom
    {t : Transfer}
    (hPc : s.callerPc = .waitWindow t)
    (hFree : s.locks.window = none)
    (hRoom : s.window.Available) :
    CallerBranch s { s with callerPc := .upperBound t }
| findsFull
    {t : Transfer}
    (hPc : s.callerPc = .waitWindow t)
    (hFree : s.locks.window = none)
    (hFull : ¬ s.window.Available) :
    CallerBranch s { s with callerPc := .testRunning t }
| waitsOn
    {t : Transfer}
    (hPc : s.callerPc = .testRunning t)
    (hRunning : s.running = true) :
    CallerBranch s { s with callerPc := .waitWindow t }
| abandons
    {t : Transfer}
    (hPc : s.callerPc = .testRunning t)
    (hStopped : s.running = false) :
    CallerBranch s { s with callerPc := t.after }
| readsUpper
    {t : Transfer}
    (hPc : s.callerPc = .upperBound t)
    (hFree : s.locks.window = none) :
    CallerBranch s
      { s with
        callerPc := .updateUpper t s.window.upperBound }
| updatesUpper
    {t : Transfer}
    {seq : Nat}
    {request : Option Nat}
    (hPc : s.callerPc = .updateUpper t seq)
    (hFree : s.locks.window = none)
    (hRequest : ∀ r, t = .request r → request = some seq)
    (hData :
      ∀ payload, t = .data payload →
        request = s.history.request) :
    CallerBranch s
      { s with
        window := s.window.updateUpperBound
        history :=
          { s.history with
            packets := s.history.packets ++ [t.packet seq]
            request := request }
        callerPc := .lockPool t seq }
| locksPool
    {t : Transfer}
    {seq : Nat}
    (hPc : s.callerPc = .lockPool t seq)
    (hFree : s.locks.packetPool = none) :
    CallerBranch s
      { s with
        locks := { s.locks with packetPool := some .caller }
        callerPc := .emplace t seq }
| emplaces
    {t : Transfer}
    {seq : Nat}
    (hPc : s.callerPc = .emplace t seq) :
    CallerBranch s
      { s with
        packetPool := s.packetPool.emplace seq (t.packet seq)
        callerPc := .push t seq }
| pushes
    {t : Transfer}
    {seq : Nat}
    (hPc : s.callerPc = .push t seq)
    (hFree : s.locks.queue = none) :
    CallerBranch s
      { s with
        pendingQueue := s.pendingQueue.push seq
        callerPc := .unlockPool t }
| unlocksPool
    {t : Transfer}
    (hPc : s.callerPc = .unlockPool t) :
    CallerBranch s
      { s with
        locks := { s.locks with packetPool := none }
        callerPc := t.after }
| findsDone
    {r : Request}
    (hPc : s.callerPc = .check r)
    (hDone : r.Done s.state) :
    CallerBranch s { s with callerPc := .finish r }
| waits
    {r : Request}
    (hPc : s.callerPc = .check r)
    (hNotDone : ¬ r.Done s.state) :
    CallerBranch s
      { s with
        locks := { s.locks with state := none }
        callerPc := .wait r }
| relocks
    {r : Request}
    (hPc : s.callerPc = .relock r)
    (hFree : s.locks.state = none) :
    CallerBranch s
      { s with
        locks := { s.locks with state := some .caller }
        callerPc := .check r }
| fails
    {r : Request}
    (hPc : s.callerPc = .finish r)
    (hFinish : s.finishStep r = s.unlockReturn .timedOut) :
    CallerBranch s (s.unlockReturn .timedOut)
| succeeds
    {r : Request}
    (hPc : s.callerPc = .finish r)
    (hFinish : s.finishStep r = s.unlockReturn .success) :
    CallerBranch s (s.unlockReturn .success)
| opens
    (hPc : s.callerPc = .finish .push)
    (hState : s.state ≠ .connected) :
    CallerBranch s
      { s with
        locks := { s.locks with state := none }
        startTime := s.clock
        totalBytes := 0
        callerPc := .read }
| reads
    (hPc : s.callerPc = .read)
    (hGood : s.stream.good = true) :
    CallerBranch s
      { s with
        stream := (s.stream.read maxPayloadSize).2
        totalBytes :=
          s.totalBytes +
            (s.stream.read maxPayloadSize).1.length
        callerPc :=
          .waitWindow
            (.data (s.stream.read maxPayloadSize).1) }
| endsReading
    (hPc : s.callerPc = .read)
    (hEnd : ¬ s.stream.good = true) :
    CallerBranch s { s with callerPc := .waitZero }
| drains
    (hPc : s.callerPc = .waitZero)
    (hFree : s.locks.window = none)
    (hZero : s.window.Zero) :
    CallerBranch s { s with callerPc := .throughput }
| findsOutstanding
    (hPc : s.callerPc = .waitZero)
    (hFree : s.locks.window = none)
    (hOpen : ¬ s.window.Zero) :
    CallerBranch s { s with callerPc := .zeroRunning }
| drainsOn
    (hPc : s.callerPc = .zeroRunning)
    (hRunning : s.running = true) :
    CallerBranch s { s with callerPc := .waitZero }
| cancels
    (hPc : s.callerPc = .zeroRunning)
    (hStopped : s.running = false) :
    CallerBranch s (s.return_ .operationCanceled)
| faults
    (hPc : s.callerPc = .throughput)
    (hShort : (s.clock - s.startTime) / 1000000 = 0) :
    CallerBranch s { s with callerPc := .undefined }
| divides
    (hPc : s.callerPc = .throughput)
    (hLong : ¬ (s.clock - s.startTime) / 1000000 = 0) :
    CallerBranch s { s with callerPc := .lockState .stop }
| stopsRunning
    (hPc : s.callerPc = .stopRunning) :
    CallerBranch s
      { s with running := false, callerPc := .stopTimer }
| stopsTimer
    (hPc : s.callerPc = .stopTimer)
    (hFree : s.timer.MutexFree) :
    CallerBranch s
      { s with
        timer := s.timer.stopRunning
        callerPc := .notifyTimer }
| notifiesTimer
    (hPc : s.callerPc = .notifyTimer) :
    CallerBranch s
      { s with
        timer := s.timer.notifyOne
        callerPc := .joinTimer }
| joinsTimer
    (hPc : s.callerPc = .joinTimer)
    (hExit : s.timer.threadPc = .exit) :
    CallerBranch s { s with callerPc := .joinSend }
| joinsSend
    (hPc : s.callerPc = .joinSend)
    (hExit : s.sendPc = .exit) :
    CallerBranch s { s with callerPc := .joinRecv }
| joinsRecv
    (hPc : s.callerPc = .joinRecv)
    (hExit : s.recvPc = .exit) :
    CallerBranch s { s with callerPc := .joinTimeout }
| stops
    (hPc : s.callerPc = .joinTimeout)
    (hExit : s.timeoutPc = .exit) :
    CallerBranch s (s.return_ .success)

theorem finishStep_branch
    {s : Sender}
    {r : Request}
    (hPc : s.callerPc = .finish r) :
    CallerBranch s (s.finishStep r) := by
  cases r with
  | connect =>
      by_cases hIdle : s.state = .idle
      · have hFinish :
            s.finishStep .connect =
              s.unlockReturn .timedOut :=
          if_pos hIdle
        rw [hFinish]
        exact .fails hPc hFinish
      · have hFinish :
            s.finishStep .connect =
              s.unlockReturn .success :=
          if_neg hIdle
        rw [hFinish]
        exact .succeeds hPc hFinish
  | push =>
      by_cases hState : s.state = .connected
      · have hFinish :
            s.finishStep .push =
              s.unlockReturn .timedOut :=
          if_pos hState
        rw [hFinish]
        exact .fails hPc hFinish
      · unfold finishStep
        rw [if_neg hState]
        exact .opens hPc hState
  | stop => exact .succeeds hPc rfl
  | disconnect => exact .succeeds hPc rfl

theorem callerStep_branch
    {s s' : Sender}
    (hStep : s.callerStep = some s') :
    CallerBranch s s' := by
  unfold callerStep at hStep
  cases hPc : s.callerPc
  all_goals
    simp only [hPc, whenFree_eq_some, whenTimerFree_eq_some,
      Option.some.injEq, reduceCtorEq] at hStep
  case lockState r =>
    rcases hStep with ⟨hFree, rfl⟩
    exact .locksState hPc hFree
  case enter r =>
    by_cases hIdle : r = .disconnect ∧ s.state = .idle
    · rw [if_pos hIdle] at hStep
      cases hStep
      exact .skips hPc hIdle
    · rw [if_neg hIdle] at hStep
      cases hStep
      exact .enters hPc hIdle
  case waitWindow t =>
    rcases hStep with ⟨hFree, rfl⟩
    split_ifs with hRoom
    · exact .findsRoom hPc hFree hRoom
    · exact .findsFull hPc hFree hRoom
  case testRunning t =>
    subst hStep
    split_ifs with hRunning
    · exact .waitsOn hPc hRunning
    · exact .abandons hPc (Bool.eq_false_iff.mpr hRunning)
  case upperBound t =>
    rcases hStep with ⟨hFree, rfl⟩
    exact .readsUpper hPc hFree
  case updateUpper t seq =>
    rcases hStep with ⟨hFree, rfl⟩
    cases t with
    | request r =>
        exact .updatesUpper hPc hFree (fun _ _ => rfl)
          (fun _ hData => by cases hData)
    | data payload =>
        exact .updatesUpper hPc hFree
          (fun _ hRequest => by cases hRequest)
          (fun _ _ => rfl)
  case lockPool t seq =>
    rcases hStep with ⟨hFree, rfl⟩
    exact .locksPool hPc hFree
  case emplace t seq =>
    subst hStep
    exact .emplaces hPc
  case push t seq =>
    rcases hStep with ⟨hFree, rfl⟩
    exact .pushes hPc hFree
  case unlockPool t =>
    subst hStep
    exact .unlocksPool hPc
  case check r =>
    split_ifs at hStep with hDone
    · cases hStep
      exact .findsDone hPc hDone
    · cases hStep
      exact .waits hPc hDone
  case relock r =>
    rcases hStep with ⟨hFree, rfl⟩
    exact .relocks hPc hFree
  case finish r =>
    subst hStep
    exact finishStep_branch hPc
  case read =>
    split_ifs at hStep with hGood
    · cases hStep
      exact .reads hPc hGood
    · cases hStep
      exact .endsReading hPc hGood
  case waitZero =>
    rcases hStep with ⟨hFree, rfl⟩
    split_ifs with hZero
    · exact .drains hPc hFree hZero
    · exact .findsOutstanding hPc hFree hZero
  case zeroRunning =>
    split_ifs at hStep with hRunning
    · cases hStep
      exact .drainsOn hPc hRunning
    · cases hStep
      exact .cancels hPc (Bool.eq_false_iff.mpr hRunning)
  case throughput =>
    subst hStep
    unfold throughputStep
    split_ifs with hShort
    · exact .faults hPc hShort
    · exact .divides hPc hShort
  case stopRunning =>
    subst hStep
    exact .stopsRunning hPc
  case stopTimer =>
    rcases hStep with ⟨hFree, rfl⟩
    exact .stopsTimer hPc hFree
  case notifyTimer =>
    subst hStep
    exact .notifiesTimer hPc
  case joinTimer =>
    split_ifs at hStep with hExit
    cases hStep
    exact .joinsTimer hPc hExit
  case joinSend =>
    split_ifs at hStep with hExit
    cases hStep
    exact .joinsSend hPc hExit
  case joinRecv =>
    split_ifs at hStep with hExit
    cases hStep
    exact .joinsRecv hPc hExit
  case joinTimeout =>
    split_ifs at hStep with hExit
    cases hStep
    exact .stops hPc hExit

end Sender

end Nkurdt

------------------------------------------------------------
-- Send Handler
------------------------------------------------------------

namespace Nkurdt

namespace Sender

inductive SendBranch (s : Sender) : Sender → Prop
| runs
    (hPc : s.sendPc = .test)
    (hRunning : s.running = true) :
    SendBranch s { s with sendPc := .pop }
| exits
    (hPc : s.sendPc = .test)
    (hStopped : s.running = false) :
    SendBranch s { s with sendPc := .exit }
| misses
    (hPc : s.sendPc = .pop)
    (hPop : ConcurrentQueue.pop? s.pendingQueue = none) :
    SendBranch s { s with sendPc := .test }
| pops
    {seq : Nat}
    {rest : ConcurrentQueue Nat}
    (hPc : s.sendPc = .pop)
    (hPop :
      ConcurrentQueue.pop? s.pendingQueue =
        some (seq, rest)) :
    SendBranch s
      { s with
        pendingQueue := rest
        sendPc := .lockPool seq }
| locksPool
    {seq : Nat}
    (hPc : s.sendPc = .lockPool seq)
    (hFree : s.locks.packetPool = none) :
    SendBranch s
      { s with
        locks :=
          { s.locks with packetPool := some .sendHandler }
        sendPc := .lockAcked seq }
| locksAcked
    {seq : Nat}
    (hPc : s.sendPc = .lockAcked seq)
    (hFree : s.locks.ackedSeqSet = none) :
    SendBranch s
      { s with
        locks :=
          { s.locks with ackedSeqSet := some .sendHandler }
        sendPc := .checkAcked seq }
| cleansAcked
    {seq : Nat}
    (hPc : s.sendPc = .checkAcked seq)
    (hAcked :
      s.selectiveRepeat = true ∧ seq ∈ s.ackedSeqSet) :
    SendBranch s (s.cleanUp seq)
| findsUnacked
    {seq : Nat}
    (hPc : s.sendPc = .checkAcked seq)
    (hUnacked :
      ¬ (s.selectiveRepeat = true ∧ seq ∈ s.ackedSeqSet)) :
    SendBranch s { s with sendPc := .checkLower seq }
| cleansBelow
    {seq : Nat}
    (hPc : s.sendPc = .checkLower seq)
    (hBelow : seq < s.window.lowerBound) :
    SendBranch s (s.cleanUp seq)
| findsInside
    {seq : Nat}
    (hPc : s.sendPc = .checkLower seq)
    (hNotBelow : ¬ seq < s.window.lowerBound) :
    SendBranch s { s with sendPc := .readLower seq }
| readsLower
    {seq : Nat}
    (hPc : s.sendPc = .readLower seq) :
    SendBranch s
      { s with
        sendPc := .readUpper seq s.window.lowerBound }
| findsEmpty
    {seq lower : Nat}
    (hPc : s.sendPc = .readUpper seq lower)
    (hEmpty : lower = s.window.upperBound) :
    SendBranch s { s with sendPc := .unlockAcked false }
| findsOpen
    {seq lower : Nat}
    (hPc : s.sendPc = .readUpper seq lower)
    (hOpen : lower ≠ s.window.upperBound) :
    SendBranch s { s with sendPc := .retry seq }
| usesUp
    {seq count : Nat}
    (hPc : s.sendPc = .retry seq)
    (hCount : s.retryCount seq = some count)
    (hUsedUp : s.maxRetryCount ≤ count) :
    SendBranch s
      { s with
        history :=
          { s.history with
            exhausted := s.history.exhausted ++ [seq] }
        sendPc := .lockState seq }
| retries
    {seq count : Nat}
    (hPc : s.sendPc = .retry seq)
    (hCount : s.retryCount seq = some count)
    (hLeft : ¬ s.maxRetryCount ≤ count) :
    SendBranch s
      { s with
        retryCount := s.retryCount.assign seq (count + 1)
        sendPc := .transmit seq }
| starts
    {seq : Nat}
    (hPc : s.sendPc = .retry seq)
    (hCount : s.retryCount seq = none) :
    SendBranch s
      { s with
        retryCount := s.retryCount.emplace seq 0
        sendPc := .transmit seq }
| locksState
    {seq : Nat}
    (hPc : s.sendPc = .lockState seq)
    (hFree : s.locks.state = none) :
    SendBranch s
      { s with
        locks := { s.locks with state := some .sendHandler }
        sendPc := .exhausted seq }
| failsTransfer
    {seq : Nat}
    (hPc : s.sendPc = .exhausted seq)
    (hState : s.state = .stopping ∨ s.state = .pushing) :
    SendBranch s
      (notifyState
        { s with
          state := .connected
          sendPc := .unlockState false })
| failsConnection
    {seq : Nat}
    (hPc : s.sendPc = .exhausted seq)
    (hState :
      s.state = .connecting ∨ s.state = .disconnecting) :
    SendBranch s
      (notifyState
        { s with
          state := .idle
          sendPc := .unlockState false })
| breaks
    {seq : Nat}
    (hPc : s.sendPc = .exhausted seq)
    (hState :
      s.state = .idle ∨ s.state = .connected ∨
        s.state = .sending) :
    SendBranch s
      { s with
        running := false
        sendPc := .unlockState true }
| unlocksState
    {leave : Bool}
    (hPc : s.sendPc = .unlockState leave) :
    SendBranch s
      { s with
        locks := { s.locks with state := none }
        sendPc := .unlockAcked leave }
| transmits
    {seq : Nat}
    {packet : Packet}
    (hPc : s.sendPc = .transmit seq)
    (hPacket : s.packetPool seq = some packet) :
    SendBranch s
      { s with
        history :=
          { s.history with
            wire :=
              s.history.wire ++ [(s.peerAddr, packet)] }
        sendPc := .register seq }
| findsNone
    {seq : Nat}
    (hPc : s.sendPc = .transmit seq)
    (hAbsent : s.packetPool seq = none) :
    SendBranch s { s with sendPc := .removeEvent seq }
| registers
    {seq : Nat}
    (hPc : s.sendPc = .register seq)
    (hFree : s.timer.MutexFree) :
    SendBranch s
      { s with
        timer := s.timer.registerEvent seq s.timeout s.clock
        sendPc := .unlockAcked false }
| removes
    {seq : Nat}
    (hPc : s.sendPc = .removeEvent seq)
    (hFree : s.timer.MutexFree) :
    SendBranch s
      { s with
        timer := s.timer.removeEvent seq
        sendPc := .unlockAcked false }
| unlocksAcked
    {leave : Bool}
    (hPc : s.sendPc = .unlockAcked leave) :
    SendBranch s
      { s with
        locks := { s.locks with ackedSeqSet := none }
        sendPc := .unlockPool leave }
| leaves
    (hPc : s.sendPc = .unlockPool true) :
    SendBranch s
      { s with
        locks := { s.locks with packetPool := none }
        sendPc := .exit }
| unlocksPool
    (hPc : s.sendPc = .unlockPool false) :
    SendBranch s
      { s with
        locks := { s.locks with packetPool := none }
        sendPc := .test }

theorem exhaust_branch
    {s : Sender}
    {seq : Nat}
    (hPc : s.sendPc = .exhausted seq) :
    SendBranch s s.exhaust := by
  have hTransfer :
      s.state = .stopping ∨ s.state = .pushing →
        SendBranch s s.exhaust := by
    intro hState
    have hNext := SendBranch.failsTransfer hPc hState
    unfold exhaust
    rcases hState with hState | hState
    · rw [hState]
      exact hNext
    · rw [hState]
      exact hNext
  have hConnection :
      s.state = .connecting ∨ s.state = .disconnecting →
        SendBranch s s.exhaust := by
    intro hState
    have hNext := SendBranch.failsConnection hPc hState
    unfold exhaust
    rcases hState with hState | hState
    · rw [hState]
      exact hNext
    · rw [hState]
      exact hNext
  have hOther :
      s.state = .idle ∨ s.state = .connected ∨
          s.state = .sending →
        SendBranch s s.exhaust := by
    intro hState
    have hNext := SendBranch.breaks hPc hState
    unfold exhaust
    rcases hState with hState | hState | hState
    · rw [hState] at hNext ⊢
      exact hNext
    · rw [hState] at hNext ⊢
      exact hNext
    · rw [hState] at hNext ⊢
      exact hNext
  cases hState : s.state with
  | stopping => exact hTransfer (Or.inl hState)
  | pushing => exact hTransfer (Or.inr hState)
  | connecting => exact hConnection (Or.inl hState)
  | disconnecting => exact hConnection (Or.inr hState)
  | idle => exact hOther (Or.inl hState)
  | connected => exact hOther (Or.inr (Or.inl hState))
  | sending => exact hOther (Or.inr (Or.inr hState))

theorem sendHandlerStep_branch
    {s s' : Sender}
    (hStep : s.sendHandlerStep = some s') :
    SendBranch s s' := by
  unfold sendHandlerStep at hStep
  cases hPc : s.sendPc
  all_goals
    simp only [hPc, whenFree_eq_some, whenTimerFree_eq_some,
      Option.some.injEq, reduceCtorEq] at hStep
  case test =>
    subst hStep
    split_ifs with hRunning
    · exact .runs hPc hRunning
    · exact .exits hPc (Bool.eq_false_iff.mpr hRunning)
  case pop =>
    split at hStep
    next hPop =>
      rcases whenFree_eq_some.mp hStep with ⟨_, rfl⟩
      exact .misses hPc hPop
    next seq rest hPop =>
      rcases whenFree_eq_some.mp hStep with ⟨_, rfl⟩
      exact .pops hPc hPop
  case lockPool seq =>
    rcases hStep with ⟨hFree, rfl⟩
    exact .locksPool hPc hFree
  case lockAcked seq =>
    rcases hStep with ⟨hFree, rfl⟩
    exact .locksAcked hPc hFree
  case checkAcked seq =>
    split_ifs at hStep with hAcked
    · cases hStep
      exact .cleansAcked hPc hAcked
    · cases hStep
      exact .findsUnacked hPc hAcked
  case checkLower seq =>
    rcases hStep with ⟨_, rfl⟩
    split_ifs with hBelow
    · exact .cleansBelow hPc hBelow
    · exact .findsInside hPc hBelow
  case readLower seq =>
    rcases hStep with ⟨_, rfl⟩
    exact .readsLower hPc
  case readUpper seq lower =>
    rcases hStep with ⟨_, rfl⟩
    split_ifs with hEmpty
    · exact .findsEmpty hPc hEmpty
    · exact .findsOpen hPc hEmpty
  case retry seq =>
    split at hStep
    next count hCount =>
      split_ifs at hStep with hUsedUp
      · cases hStep
        exact .usesUp hPc hCount hUsedUp
      · cases hStep
        exact .retries hPc hCount hUsedUp
    next hCount =>
      cases hStep
      exact .starts hPc hCount
  case lockState seq =>
    rcases hStep with ⟨hFree, rfl⟩
    exact .locksState hPc hFree
  case exhausted seq =>
    subst hStep
    exact exhaust_branch hPc
  case unlockState leave =>
    subst hStep
    exact .unlocksState hPc
  case transmit seq =>
    split at hStep
    next packet hPacket =>
      cases hStep
      exact .transmits hPc hPacket
    next hAbsent =>
      cases hStep
      exact .findsNone hPc hAbsent
  case register seq =>
    rcases hStep with ⟨hFree, rfl⟩
    exact .registers hPc hFree
  case removeEvent seq =>
    rcases hStep with ⟨hFree, rfl⟩
    exact .removes hPc hFree
  case unlockAcked leave =>
    subst hStep
    exact .unlocksAcked hPc
  case unlockPool leave =>
    subst hStep
    cases leave with
    | true => exact .leaves hPc
    | false => exact .unlocksPool hPc

end Sender

end Nkurdt

------------------------------------------------------------
-- Receive Handler
------------------------------------------------------------

namespace Nkurdt

namespace Sender

inductive RecvBranch (s : Sender) : Sender → Prop
| runs
    (hPc : s.recvPc = .test)
    (hRunning : s.running = true) :
    RecvBranch s { s with recvPc := .recv }
| exits
    (hPc : s.recvPc = .test)
    (hStopped : s.running = false) :
    RecvBranch s { s with recvPc := .exit }
| overreads
    {bytes : List UInt8}
    (hPc : s.recvPc = .decode bytes)
    (hDecode : Packet.fromBytes bytes = none) :
    RecvBranch s { s with recvPc := .undefined }
| drops
    {bytes : List UInt8}
    (hPc : s.recvPc = .decode bytes)
    (hDecode : Packet.fromBytes bytes = some none) :
    RecvBranch s { s with recvPc := .test }
| decodes
    {bytes : List UInt8}
    {packet : Packet}
    (hPc : s.recvPc = .decode bytes)
    (hDecode :
      Packet.fromBytes bytes = some (some packet)) :
    RecvBranch s
      { s with
        history :=
          { s.history with
            received := s.history.received ++ [packet] }
        recvPc := .dispatch packet }
| takes
    {packet : Packet}
    {target : SenderState}
    (hPc : s.recvPc = .dispatch packet)
    (hTarget : ackTarget s.state packet.kind = some target) :
    RecvBranch s { s with recvPc := .lockState target packet }
| passes
    {packet : Packet}
    (hPc : s.recvPc = .dispatch packet)
    (hTarget : ackTarget s.state packet.kind = none) :
    RecvBranch s { s with recvPc := .lockAcked packet }
| locksState
    {target : SenderState}
    {packet : Packet}
    (hPc : s.recvPc = .lockState target packet)
    (hFree : s.locks.state = none) :
    RecvBranch s
      { s with
        locks := { s.locks with state := some .recvHandler }
        recvPc := .setState target packet }
| setsState
    {target : SenderState}
    {packet : Packet}
    (hPc : s.recvPc = .setState target packet) :
    RecvBranch s
      { s with
        state := target
        recvPc := .unlockState packet }
| unlocksState
    {packet : Packet}
    (hPc : s.recvPc = .unlockState packet) :
    RecvBranch s
      { s with
        locks := { s.locks with state := none }
        recvPc := .notify packet }
| notifies
    {packet : Packet}
    (hPc : s.recvPc = .notify packet) :
    RecvBranch s
      (notifyState { s with recvPc := .lockAcked packet })
| locksAcked
    {packet : Packet}
    (hPc : s.recvPc = .lockAcked packet)
    (hFree : s.locks.ackedSeqSet = none) :
    RecvBranch s
      { s with
        locks :=
          { s.locks with ackedSeqSet := some .recvHandler }
        recvPc := .insertAck packet }
| insertsToSlide
    {packet : Packet}
    (hPc : s.recvPc = .insertAck packet)
    (hMode : s.selectiveRepeat = true) :
    RecvBranch s
      { s with
        ackedSeqSet := insert packet.seq s.ackedSeqSet
        recvPc := .slide }
| insertsToCompare
    {packet : Packet}
    (hPc : s.recvPc = .insertAck packet)
    (hMode : s.selectiveRepeat = false) :
    RecvBranch s
      { s with
        ackedSeqSet := insert packet.seq s.ackedSeqSet
        recvPc := .compare packet }
| repeats
    {packet : Packet}
    {times : Nat}
    (hPc : s.recvPc = .compare packet)
    (hEqual : s.window.lowerBound = packet.seq)
    (hDuplicate :
      s.duplicateStep packet =
        { s with
          ackDupTimes := times
          recvPc := .countDup packet }) :
    RecvBranch s
      { s with
        ackDupTimes := times
        recvPc := .countDup packet }
| repeatsFast
    {packet : Packet}
    (hPc : s.recvPc = .compare packet)
    (hEqual : s.window.lowerBound = packet.seq)
    (hDuplicate :
      s.duplicateStep packet =
        { s with recvPc := .fastLower packet }) :
    RecvBranch s { s with recvPc := .fastLower packet }
| differs
    {packet : Packet}
    (hPc : s.recvPc = .compare packet)
    (hOther : s.window.lowerBound ≠ packet.seq) :
    RecvBranch s { s with recvPc := .less packet }
| readsLower
    {packet : Packet}
    (hPc : s.recvPc = .fastLower packet) :
    RecvBranch s
      { s with
        recvPc := .fastUpper packet s.window.lowerBound }
| readsUpper
    {packet : Packet}
    {lower : Nat}
    (hPc : s.recvPc = .fastUpper packet lower) :
    RecvBranch s
      { s with
        recvPc :=
          .lockQueue packet lower s.window.upperBound }
| locksQueue
    {packet : Packet}
    {lower upper : Nat}
    (hPc : s.recvPc = .lockQueue packet lower upper)
    (hFree : s.locks.queue = none) :
    RecvBranch s
      { s with
        locks := { s.locks with queue := some .recvHandler }
        recvPc := .pushAll packet lower upper }
| pushes
    {packet : Packet}
    {lower upper : Nat}
    (hPc : s.recvPc = .pushAll packet lower upper) :
    RecvBranch s
      { s with
        pendingQueue :=
          ConcurrentQueue.pushAll s.pendingQueue
            (List.range' lower (upper - lower))
        recvPc := .unlockQueue packet }
| unlocksQueue
    {packet : Packet}
    (hPc : s.recvPc = .unlockQueue packet) :
    RecvBranch s
      { s with
        locks := { s.locks with queue := none }
        recvPc := .countDup packet }
| counts
    {packet : Packet}
    (hPc : s.recvPc = .countDup packet) :
    RecvBranch s
      { s with
        ackDupTimes := s.ackDupTimes + 1
        recvPc := .eraseAck packet }
| exceeds
    {packet : Packet}
    (hPc : s.recvPc = .less packet)
    (hLess : s.window.lowerBound < packet.seq) :
    RecvBranch s { s with recvPc := .setLower packet }
| fallsBehind
    {packet : Packet}
    (hPc : s.recvPc = .less packet)
    (hNotLess : ¬ s.window.lowerBound < packet.seq) :
    RecvBranch s { s with recvPc := .eraseAck packet }
| setsLower
    {packet : Packet}
    (hPc : s.recvPc = .setLower packet) :
    RecvBranch s
      { s with
        ackDupTimes := 0
        window := s.window.setLowerBound packet.seq
        recvPc := .eraseAck packet }
| erases
    {packet : Packet}
    (hPc : s.recvPc = .eraseAck packet) :
    RecvBranch s
      { s with
        ackedSeqSet := s.ackedSeqSet.erase packet.seq
        recvPc := .unlockAcked }
| slides
    (hPc : s.recvPc = .slide)
    (hMember : s.window.lowerBound ∈ s.ackedSeqSet) :
    RecvBranch s
      { s with
        ackedSeqSet := s.ackedSeqSet.erase s.window.lowerBound
        window := s.window.updateLowerBound
        recvPc := .slide }
| settles
    (hPc : s.recvPc = .slide)
    (hMissing : s.window.lowerBound ∉ s.ackedSeqSet) :
    RecvBranch s { s with recvPc := .unlockAcked }
| unlocksAcked
    (hPc : s.recvPc = .unlockAcked) :
    RecvBranch s
      { s with
        locks := { s.locks with ackedSeqSet := none }
        recvPc := .test }

/- The two outcomes of a duplicate. -/
theorem duplicateStep_cases
    (s : Sender)
    (packet : Packet) :
    s.duplicateStep packet =
        { s with recvPc := .fastLower packet } ∨
      ∃ times,
        s.duplicateStep packet =
          { s with
            ackDupTimes := times
            recvPc := .countDup packet } := by
  unfold duplicateStep
  split_ifs
  · exact Or.inr ⟨s.ackDupTimes, rfl⟩
  · exact Or.inl rfl
  · exact Or.inr ⟨s.ackDupTimes, rfl⟩
  · exact Or.inr ⟨0, rfl⟩
  · exact Or.inr ⟨s.ackDupTimes, rfl⟩

theorem recvHandlerStep_branch
    {s s' : Sender}
    (hStep : s.recvHandlerStep = some s') :
    RecvBranch s s' := by
  unfold recvHandlerStep at hStep
  cases hPc : s.recvPc
  all_goals
    simp only [hPc, whenFree_eq_some, Option.some.injEq,
      reduceCtorEq] at hStep
  case test =>
    subst hStep
    split_ifs with hRunning
    · exact .runs hPc hRunning
    · exact .exits hPc (Bool.eq_false_iff.mpr hRunning)
  case decode bytes =>
    split at hStep
    next hDecode =>
      cases hStep
      exact .overreads hPc hDecode
    next hDecode =>
      cases hStep
      exact .drops hPc hDecode
    next packet hDecode =>
      cases hStep
      exact .decodes hPc hDecode
  case dispatch packet =>
    split at hStep
    next target hTarget =>
      cases hStep
      exact .takes hPc hTarget
    next hTarget =>
      cases hStep
      exact .passes hPc hTarget
  case lockState target packet =>
    rcases hStep with ⟨hFree, rfl⟩
    exact .locksState hPc hFree
  case setState target packet =>
    subst hStep
    exact .setsState hPc
  case unlockState packet =>
    subst hStep
    exact .unlocksState hPc
  case notify packet =>
    subst hStep
    exact .notifies hPc
  case lockAcked packet =>
    rcases hStep with ⟨hFree, rfl⟩
    exact .locksAcked hPc hFree
  case insertAck packet =>
    subst hStep
    split_ifs with hMode
    · exact .insertsToSlide hPc hMode
    · exact .insertsToCompare hPc
        (Bool.eq_false_iff.mpr hMode)
  case compare packet =>
    rcases hStep with ⟨_, rfl⟩
    split_ifs with hEqual
    · rcases duplicateStep_cases s packet with
        hFast | ⟨times, hCount⟩
      · rw [hFast]
        exact .repeatsFast hPc hEqual hFast
      · rw [hCount]
        exact .repeats hPc hEqual hCount
    · exact .differs hPc hEqual
  case fastLower packet =>
    rcases hStep with ⟨_, rfl⟩
    exact .readsLower hPc
  case fastUpper packet lower =>
    rcases hStep with ⟨_, rfl⟩
    exact .readsUpper hPc
  case lockQueue packet lower upper =>
    rcases hStep with ⟨hFree, rfl⟩
    exact .locksQueue hPc hFree
  case pushAll packet lower upper =>
    subst hStep
    exact .pushes hPc
  case unlockQueue packet =>
    subst hStep
    exact .unlocksQueue hPc
  case countDup packet =>
    subst hStep
    exact .counts hPc
  case less packet =>
    rcases hStep with ⟨_, rfl⟩
    split_ifs with hLess
    · exact .exceeds hPc hLess
    · exact .fallsBehind hPc hLess
  case setLower packet =>
    rcases hStep with ⟨_, rfl⟩
    exact .setsLower hPc
  case eraseAck packet =>
    subst hStep
    exact .erases hPc
  case slide =>
    rcases hStep with ⟨_, rfl⟩
    split_ifs with hMember
    · exact .slides hPc hMember
    · exact .settles hPc hMember
  case unlockAcked =>
    subst hStep
    exact .unlocksAcked hPc

end Sender

end Nkurdt

------------------------------------------------------------
-- Timeout Handler
------------------------------------------------------------

namespace Nkurdt

namespace Sender

inductive TimeoutBranch (s : Sender) : Sender → Prop
| runs
    (hPc : s.timeoutPc = .test)
    (hRunning : s.running = true) :
    TimeoutBranch s { s with timeoutPc := .wait }
| exits
    (hPc : s.timeoutPc = .test)
    (hStopped : s.running = false) :
    TimeoutBranch s { s with timeoutPc := .exit }
| wakes
    (hPc : s.timeoutPc = .wait)
    (hTimedOut : s.timer.HasTimedOut) :
    TimeoutBranch s { s with timeoutPc := .readUpper }
| givesUp
    (hPc : s.timeoutPc = .wait)
    (hNone : ¬ s.timer.HasTimedOut) :
    TimeoutBranch s { s with timeoutPc := .test }
| readsUpper
    (hPc : s.timeoutPc = .readUpper) :
    TimeoutBranch s { s with timeoutPc := .lockQueue }
| locksQueue
    (hPc : s.timeoutPc = .lockQueue)
    (hFree : s.locks.queue = none) :
    TimeoutBranch s
      { s with
        locks :=
          { s.locks with queue := some .timeoutHandler }
        timeoutPc := .lockWindow }
| locksWindow
    (hPc : s.timeoutPc = .lockWindow)
    (hFree : s.locks.window = none) :
    TimeoutBranch s
      { s with
        locks :=
          { s.locks with window := some .timeoutHandler }
        timeoutPc := .map }
| maps
    (hPc : s.timeoutPc = .map)
    (hFree : s.timer.MutexFree) :
    TimeoutBranch s
      { s with
        pendingQueue :=
          ConcurrentQueue.pushAll s.pendingQueue
            s.timer.timedOutEvents
        timer := s.timer.clearTimedOut
        timeoutPc := .unlockWindow }
| unlocksWindow
    (hPc : s.timeoutPc = .unlockWindow) :
    TimeoutBranch s
      { s with
        locks := { s.locks with window := none }
        timeoutPc := .unlockQueue }
| unlocksQueue
    (hPc : s.timeoutPc = .unlockQueue) :
    TimeoutBranch s
      { s with
        locks := { s.locks with queue := none }
        timeoutPc := .test }

theorem timeoutHandlerStep_branch
    {s s' : Sender}
    (hStep : s.timeoutHandlerStep = some s') :
    TimeoutBranch s s' := by
  unfold timeoutHandlerStep at hStep
  cases hPc : s.timeoutPc
  all_goals
    simp only [hPc, whenFree_eq_some, whenTimerFree_eq_some,
      Option.some.injEq, reduceCtorEq] at hStep
  case test =>
    subst hStep
    split_ifs with hRunning
    · exact .runs hPc hRunning
    · exact .exits hPc (Bool.eq_false_iff.mpr hRunning)
  case wait =>
    rcases hStep with ⟨_, rfl⟩
    split_ifs with hTimedOut
    · exact .wakes hPc hTimedOut
    · exact .givesUp hPc hTimedOut
  case readUpper =>
    rcases hStep with ⟨_, rfl⟩
    exact .readsUpper hPc
  case lockQueue =>
    rcases hStep with ⟨hFree, rfl⟩
    exact .locksQueue hPc hFree
  case lockWindow =>
    rcases hStep with ⟨hFree, rfl⟩
    exact .locksWindow hPc hFree
  case map =>
    rcases hStep with ⟨hFree, rfl⟩
    exact .maps hPc hFree
  case unlockWindow =>
    subst hStep
    exact .unlocksWindow hPc
  case unlockQueue =>
    subst hStep
    exact .unlocksQueue hPc

end Sender

end Nkurdt
