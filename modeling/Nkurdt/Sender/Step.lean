import Nkurdt.Sender.State
import Nkurdt.Library.Runs

/-
  The steps of the sender's threads.

  A step is the code between two points at which another
  thread can interfere: the acquisition of a mutex, its
  release, a wait, or an operation of the window, the queue
  or the timer, which is under the mutex of that object. A
  thread that waits for a mutex has no step until the mutex
  is free. A timed wait is one step: it tests its predicate
  and gives up if it fails.

  Main declarations:
    * `Sender.callerStep`
    * `Sender.sendHandlerStep`
    * `Sender.recvHandlerStep`
    * `Sender.timeoutHandlerStep`
    * `Sender.Action`
    * `Sender.step`
    * `Sender.output?`
-/

------------------------------------------------------------
-- Mutexes and Notifications
------------------------------------------------------------

namespace Nkurdt

namespace Sender

/- A step that needs a mutex to be free. -/
def whenFree
    (owner : Option Thread)
    (next : Sender) : Option Sender :=
  if owner = none then some next else none

@[simp] theorem whenFree_eq_some
    {owner : Option Thread}
    {next s : Sender} :
    whenFree owner next = some s ↔
      owner = none ∧ next = s := by
  unfold whenFree
  split_ifs with hFree
  · simp [hFree]
  · simp [hFree]

/- A step that needs the timer's mutex to be free. -/
def whenTimerFree (s next : Sender) : Option Sender :=
  if s.timer.MutexFree then some next else none

@[simp] theorem whenTimerFree_eq_some
    {s next t : Sender} :
    whenTimerFree s next = some t ↔
      s.timer.MutexFree ∧ next = t := by
  unfold whenTimerFree
  split_ifs with hFree
  · simp [hFree]
  · simp [hFree]

/- A waiting caller that is notified wants its mutex back. -/
def wake : CallerPc → CallerPc
| .wait r => .relock r
| pc => pc

/-
  `state_cvar_.notify_all()`: the only thread that waits is
  the caller.
-/
def notifyState (s : Sender) : Sender :=
  { s with callerPc := wake s.callerPc }

end Sender

end Nkurdt

------------------------------------------------------------
-- Caller
------------------------------------------------------------

namespace Nkurdt

namespace Sender

/- Return from a call that holds no mutex. -/
def return_ (s : Sender) (result : CallResult) : Sender :=
  { s with
    callerPc := .idle
    history :=
      { s.history with
        results := s.history.results ++ [result] } }

/- Return from a call; its lock goes out of scope. -/
def unlockReturn
    (s : Sender)
    (result : CallResult) : Sender :=
  return_
    { s with locks := { s.locks with state := none } } result

@[simp] theorem callerPc_return_
    (s : Sender)
    (result : CallResult) :
    (s.return_ result).callerPc = .idle :=
  rfl

/- The state behind a wait whose predicate holds. -/
def finishStep (s : Sender) : Request → Sender
| .connect =>
    if s.state = .idle then
      s.unlockReturn .timedOut
    else
      s.unlockReturn .success
| .push =>
    if s.state = .connected then
      s.unlockReturn .timedOut
    else
      { s with
        locks := { s.locks with state := none }
        startTime := s.clock
        totalBytes := 0
        callerPc := .read }
| .stop => s.unlockReturn .success
| .disconnect => s.unlockReturn .success

/-
  The throughput divides by the milliseconds that passed. A
  division by zero is undefined.
-/
def throughputStep (s : Sender) : Sender :=
  if (s.clock - s.startTime) / 1000000 = 0 then
    { s with callerPc := .undefined }
  else
    { s with callerPc := .lockState .stop }

/-
  A step of the thread that makes the calls. A `join` waits
  until the thread has left. A second `stop` finds that all
  threads have left and succeeds, where `std::thread::join`
  throws, since they are not joinable any more.
-/
def callerStep (s : Sender) : Option Sender :=
  match s.callerPc with
  | .idle => none
  | .lockState r =>
      whenFree s.locks.state
        { s with
          locks := { s.locks with state := some .caller }
          callerPc := .enter r }
  | .enter r =>
      if r = .disconnect ∧ s.state = .idle then
        some { s with callerPc := .finish r }
      else
        some
          { s with
            state := r.waiting
            peerAddr :=
              if r = .connect then s.callAddr else s.peerAddr
            history := { s.history with request := none }
            callerPc := .waitWindow (.request r) }
  | .waitWindow t =>
      whenFree s.locks.window
        { s with
          callerPc :=
            if s.window.Available then
              .upperBound t
            else
              .testRunning t }
  | .testRunning t =>
      some
        { s with
          callerPc :=
            if s.running then .waitWindow t else t.after }
  | .upperBound t =>
      whenFree s.locks.window
        { s with
          callerPc := .updateUpper t s.window.upperBound }
  | .updateUpper t seq =>
      whenFree s.locks.window
        { s with
          window := s.window.updateUpperBound
          history :=
            { s.history with
              packets := s.history.packets ++ [t.packet seq]
              request :=
                match t with
                | .request _ => some seq
                | .data _ => s.history.request }
          callerPc := .lockPool t seq }
  | .lockPool t seq =>
      whenFree s.locks.packetPool
        { s with
          locks :=
            { s.locks with packetPool := some .caller }
          callerPc := .emplace t seq }
  | .emplace t seq =>
      some
        { s with
          packetPool := s.packetPool.emplace seq (t.packet seq)
          callerPc := .push t seq }
  | .push t seq =>
      whenFree s.locks.queue
        { s with
          pendingQueue := s.pendingQueue.push seq
          callerPc := .unlockPool t }
  | .unlockPool t =>
      some
        { s with
          locks := { s.locks with packetPool := none }
          callerPc := t.after }
  | .check r =>
      if r.Done s.state then
        some { s with callerPc := .finish r }
      else
        some
          { s with
            locks := { s.locks with state := none }
            callerPc := .wait r }
  | .wait _ => none
  | .relock r =>
      whenFree s.locks.state
        { s with
          locks := { s.locks with state := some .caller }
          callerPc := .check r }
  | .finish r => some (s.finishStep r)
  | .read =>
      if s.stream.good then
        some
          { s with
            stream := (s.stream.read maxPayloadSize).2
            totalBytes :=
              s.totalBytes +
                (s.stream.read maxPayloadSize).1.length
            callerPc :=
              .waitWindow
                (.data (s.stream.read maxPayloadSize).1) }
      else
        some { s with callerPc := .waitZero }
  | .waitZero =>
      whenFree s.locks.window
        { s with
          callerPc :=
            if s.window.Zero then
              .throughput
            else
              .zeroRunning }
  | .zeroRunning =>
      if s.running then
        some { s with callerPc := .waitZero }
      else
        some (s.return_ .operationCanceled)
  | .throughput => some s.throughputStep
  | .undefined => none
  | .stopRunning =>
      some { s with running := false, callerPc := .stopTimer }
  | .stopTimer =>
      whenTimerFree s
        { s with
          timer := s.timer.stopRunning
          callerPc := .notifyTimer }
  | .notifyTimer =>
      some
        { s with
          timer := s.timer.notifyOne
          callerPc := .joinTimer }
  | .joinTimer =>
      if s.timer.threadPc = .exit then
        some { s with callerPc := .joinSend }
      else
        none
  | .joinSend =>
      if s.sendPc = .exit then
        some { s with callerPc := .joinRecv }
      else
        none
  | .joinRecv =>
      if s.recvPc = .exit then
        some { s with callerPc := .joinTimeout }
      else
        none
  | .joinTimeout =>
      if s.timeoutPc = .exit then
        some (s.return_ .success)
      else
        none

/- The call begins: the history notes it. -/
def beginCall (s : Sender) (call : Call) : Sender :=
  { s with
    history :=
      { s.history with
        calls := s.history.calls ++ [call]
        callFirst := s.history.packets.length } }

/- A call is made when no other is in progress. -/
def callStep (s : Sender) (call : Call) : Option Sender :=
  if s.callerPc = .idle then
    match call with
    | .connect addr =>
        some
          { s.beginCall call with
            callAddr := addr
            callerPc := .lockState .connect }
    | .send is =>
        some
          { s.beginCall call with
            stream := is
            callerPc := .lockState .push }
    | .disconnect =>
        some
          { s.beginCall call with
            callerPc := .lockState .disconnect }
    | .stop =>
        some
          { s.beginCall call with
            callerPc := .stopRunning }
  else
    none

end Sender

end Nkurdt

------------------------------------------------------------
-- Send Handler
------------------------------------------------------------

namespace Nkurdt

namespace Sender

/- Forget a number that needs no transmission any more. -/
def cleanUp (s : Sender) (seq : Nat) : Sender :=
  { s with
    retryCount := s.retryCount.erase seq
    packetPool := s.packetPool.erase seq
    sendPc := .removeEvent seq }

/-
  What the exhaustion of the retries does under the state
  mutex. In the last case the handler leaves its loop.
-/
def exhaust (s : Sender) : Sender :=
  match s.state with
  | .stopping | .pushing =>
      notifyState
        { s with
          state := .connected
          sendPc := .unlockState false }
  | .connecting | .disconnecting =>
      notifyState
        { s with
          state := .idle
          sendPc := .unlockState false }
  | _ =>
      { s with
        running := false
        sendPc := .unlockState true }

/- A step of `send_handler`. -/
def sendHandlerStep (s : Sender) : Option Sender :=
  match s.sendPc with
  | .test =>
      some
        { s with
          sendPc := if s.running then .pop else .exit }
  | .pop =>
      match ConcurrentQueue.pop? s.pendingQueue with
      | none =>
          whenFree s.locks.queue { s with sendPc := .test }
      | some (seq, rest) =>
          whenFree s.locks.queue
            { s with
              pendingQueue := rest
              sendPc := .lockPool seq }
  | .lockPool seq =>
      whenFree s.locks.packetPool
        { s with
          locks :=
            { s.locks with packetPool := some .sendHandler }
          sendPc := .lockAcked seq }
  | .lockAcked seq =>
      whenFree s.locks.ackedSeqSet
        { s with
          locks :=
            { s.locks with ackedSeqSet := some .sendHandler }
          sendPc := .checkAcked seq }
  | .checkAcked seq =>
      if s.selectiveRepeat ∧ seq ∈ s.ackedSeqSet then
        some (s.cleanUp seq)
      else
        some { s with sendPc := .checkLower seq }
  | .checkLower seq =>
      whenFree s.locks.window
        (if seq < s.window.lowerBound then
          s.cleanUp seq
        else
          { s with sendPc := .readLower seq })
  | .readLower seq =>
      whenFree s.locks.window
        { s with
          sendPc := .readUpper seq s.window.lowerBound }
  | .readUpper seq lower =>
      whenFree s.locks.window
        { s with
          sendPc :=
            if lower = s.window.upperBound then
              .unlockAcked false
            else
              .retry seq }
  | .retry seq =>
      match s.retryCount seq with
      | some count =>
          if s.maxRetryCount ≤ count then
            some
              { s with
                history :=
                  { s.history with
                    exhausted :=
                      s.history.exhausted ++ [seq] }
                sendPc := .lockState seq }
          else
            some
              { s with
                retryCount :=
                  s.retryCount.assign seq (count + 1)
                sendPc := .transmit seq }
      | none =>
          some
            { s with
              retryCount := s.retryCount.emplace seq 0
              sendPc := .transmit seq }
  | .lockState seq =>
      whenFree s.locks.state
        { s with
          locks :=
            { s.locks with state := some .sendHandler }
          sendPc := .exhausted seq }
  | .exhausted _ => some s.exhaust
  | .unlockState leave =>
      some
        { s with
          locks := { s.locks with state := none }
          sendPc := .unlockAcked leave }
  | .transmit seq =>
      match s.packetPool seq with
      | some packet =>
          some
            { s with
              history :=
                { s.history with
                  wire :=
                    s.history.wire ++ [(s.peerAddr, packet)] }
              sendPc := .register seq }
      | none => some { s with sendPc := .removeEvent seq }
  | .register seq =>
      whenTimerFree s
        { s with
          timer := s.timer.registerEvent seq s.timeout s.clock
          sendPc := .unlockAcked false }
  | .removeEvent seq =>
      whenTimerFree s
        { s with
          timer := s.timer.removeEvent seq
          sendPc := .unlockAcked false }
  | .unlockAcked leave =>
      some
        { s with
          locks := { s.locks with ackedSeqSet := none }
          sendPc := .unlockPool leave }
  | .unlockPool leave =>
      some
        { s with
          locks := { s.locks with packetPool := none }
          sendPc := if leave then .exit else .test }
  | .exit => none

end Sender

end Nkurdt

------------------------------------------------------------
-- Receive Handler
------------------------------------------------------------

namespace Nkurdt

namespace Sender

/-
  The state that an acknowledgement of the kind leads to, if
  the switch on `state_` takes it.
-/
def ackTarget :
    SenderState → PacketKind → Option SenderState
| .connecting, .connAck => some .connected
| .pushing, .dataPushAck => some .sending
| .stopping, .dataStopAck => some .connected
| .disconnecting, .disconnAck => some .idle
| _, _ => none

/-
  The branch for an acknowledgement of the lower bound, up
  to its last statement, `ack_dup_times += 1`.
-/
def duplicateStep (s : Sender) (packet : Packet) : Sender :=
  if s.ackDupTimes = 0 then
    { s with recvPc := .countDup packet }
  else if s.ackDupTimes = 2 then
    if s.fastRetransmit then
      { s with recvPc := .fastLower packet }
    else
      { s with recvPc := .countDup packet }
  else
    { s with
      ackDupTimes :=
        if s.window.maxWindowSize ≤ s.ackDupTimes then
          0
        else
          s.ackDupTimes
      recvPc := .countDup packet }

/- A step of `recv_handler` that reads no datagram. -/
def recvHandlerStep (s : Sender) : Option Sender :=
  match s.recvPc with
  | .test =>
      some
        { s with
          recvPc := if s.running then .recv else .exit }
  | .recv => none
  | .decode bytes =>
      match Packet.fromBytes bytes with
      | none => some { s with recvPc := .undefined }
      | some none => some { s with recvPc := .test }
      | some (some packet) =>
          some
            { s with
              history :=
                { s.history with
                  received :=
                    s.history.received ++ [packet] }
              recvPc := .dispatch packet }
  | .dispatch packet =>
      match ackTarget s.state packet.kind with
      | some target =>
          some { s with recvPc := .lockState target packet }
      | none => some { s with recvPc := .lockAcked packet }
  | .lockState target packet =>
      whenFree s.locks.state
        { s with
          locks :=
            { s.locks with state := some .recvHandler }
          recvPc := .setState target packet }
  | .setState target packet =>
      some
        { s with
          state := target
          recvPc := .unlockState packet }
  | .unlockState packet =>
      some
        { s with
          locks := { s.locks with state := none }
          recvPc := .notify packet }
  | .notify packet =>
      some
        (notifyState { s with recvPc := .lockAcked packet })
  | .lockAcked packet =>
      whenFree s.locks.ackedSeqSet
        { s with
          locks :=
            { s.locks with ackedSeqSet := some .recvHandler }
          recvPc := .insertAck packet }
  | .insertAck packet =>
      some
        { s with
          ackedSeqSet := insert packet.seq s.ackedSeqSet
          recvPc :=
            if s.selectiveRepeat then
              .slide
            else
              .compare packet }
  | .compare packet =>
      whenFree s.locks.window
        (if s.window.lowerBound = packet.seq then
          s.duplicateStep packet
        else
          { s with recvPc := .less packet })
  | .fastLower packet =>
      whenFree s.locks.window
        { s with
          recvPc := .fastUpper packet s.window.lowerBound }
  | .fastUpper packet lower =>
      whenFree s.locks.window
        { s with
          recvPc :=
            .lockQueue packet lower s.window.upperBound }
  | .lockQueue packet lower upper =>
      whenFree s.locks.queue
        { s with
          locks :=
            { s.locks with queue := some .recvHandler }
          recvPc := .pushAll packet lower upper }
  | .pushAll packet lower upper =>
      some
        { s with
          pendingQueue :=
            ConcurrentQueue.pushAll s.pendingQueue
              (List.range' lower (upper - lower))
          recvPc := .unlockQueue packet }
  | .unlockQueue packet =>
      some
        { s with
          locks := { s.locks with queue := none }
          recvPc := .countDup packet }
  | .countDup packet =>
      some
        { s with
          ackDupTimes := s.ackDupTimes + 1
          recvPc := .eraseAck packet }
  | .less packet =>
      whenFree s.locks.window
        { s with
          recvPc :=
            if s.window.lowerBound < packet.seq then
              .setLower packet
            else
              .eraseAck packet }
  | .setLower packet =>
      whenFree s.locks.window
        { s with
          ackDupTimes := 0
          window := s.window.setLowerBound packet.seq
          recvPc := .eraseAck packet }
  | .eraseAck packet =>
      some
        { s with
          ackedSeqSet := s.ackedSeqSet.erase packet.seq
          recvPc := .unlockAcked }
  | .slide =>
      -- Only this thread moves the lower bound, and the set
      -- is under its mutex: no thread can tell the erasure
      -- from the update that follows it.
      whenFree s.locks.window
        (if s.window.lowerBound ∈ s.ackedSeqSet then
          { s with
            ackedSeqSet :=
              s.ackedSeqSet.erase s.window.lowerBound
            window := s.window.updateLowerBound }
        else
          { s with recvPc := .unlockAcked })
  | .unlockAcked =>
      some
        { s with
          locks := { s.locks with ackedSeqSet := none }
          recvPc := .test }
  | .exit => none
  | .undefined => none

/-
  `channel_.recv()` returns. A fatal error clears `running_`
  and goes on with the empty buffer; any other error starts
  the loop again.
-/
def recvStep
    (s : Sender)
    (result : RecvResult) : Option Sender :=
  if s.recvPc = .recv then
    match result with
    | .error value =>
        if isFatalError value then
          some { s with running := false, recvPc := .decode [] }
        else
          some { s with recvPc := .test }
    | .datagram bytes _ =>
        some { s with recvPc := .decode bytes }
  else
    none

end Sender

end Nkurdt

------------------------------------------------------------
-- Timeout Handler
------------------------------------------------------------

namespace Nkurdt

namespace Sender

/- A step of `timeout_handler`. -/
def timeoutHandlerStep (s : Sender) : Option Sender :=
  match s.timeoutPc with
  | .test =>
      some
        { s with
          timeoutPc := if s.running then .wait else .exit }
  | .wait =>
      whenTimerFree s
        { s with
          timeoutPc :=
            if s.timer.HasTimedOut then
              .readUpper
            else
              .test }
  | .readUpper =>
      whenFree s.locks.window
        { s with timeoutPc := .lockQueue }
  | .lockQueue =>
      whenFree s.locks.queue
        { s with
          locks :=
            { s.locks with queue := some .timeoutHandler }
          timeoutPc := .lockWindow }
  | .lockWindow =>
      whenFree s.locks.window
        { s with
          locks :=
            { s.locks with window := some .timeoutHandler }
          timeoutPc := .map }
  | .map =>
      whenTimerFree s
        { s with
          pendingQueue :=
            ConcurrentQueue.pushAll s.pendingQueue
              s.timer.timedOutEvents
          timer := s.timer.clearTimedOut
          timeoutPc := .unlockWindow }
  | .unlockWindow =>
      some
        { s with
          locks := { s.locks with window := none }
          timeoutPc := .unlockQueue }
  | .unlockQueue =>
      some
        { s with
          locks := { s.locks with queue := none }
          timeoutPc := .test }
  | .exit => none

end Sender

end Nkurdt

------------------------------------------------------------
-- The Sender as a Transition System
------------------------------------------------------------

namespace Nkurdt

namespace Sender

/-
  What can happen next: a call begins, a thread takes its
  next step, the socket returns, time passes, or one of the
  two untimed waits wakes up without a notification.
-/
inductive Action where
| call (call : Call)
| thread (thread : Thread)
| timer
| recv (result : RecvResult)
| tick (duration : Nat)
| wakeCaller
| wakeTimer

/- The step of a thread. -/
def threadStep (s : Sender) : Thread → Option Sender
| .caller => s.callerStep
| .sendHandler => s.sendHandlerStep
| .recvHandler => s.recvHandlerStep
| .timeoutHandler => s.timeoutHandlerStep

def step (s : Sender) : Action → Option Sender
| .call call => s.callStep call
| .thread thread => s.threadStep thread
| .timer =>
    (s.timer.threadStep s.clock).map fun timer =>
      { s with timer := timer }
| .recv result => s.recvStep result
| .tick duration => some { s with clock := s.clock + duration }
| .wakeCaller => some s.notifyState
| .wakeTimer => some { s with timer := s.timer.notifyOne }

/-
  What a step hands to the socket: at its transmission
  `send_handler` calls `channel_.send` with the address of
  the peer and the bytes of `to_bytes()`.
-/
def output?
    (s : Sender) :
    Action → Option (SocketAddr × List UInt8)
| .thread .sendHandler =>
    match s.sendPc with
    | .transmit seq =>
        (s.packetPool seq).map fun packet =>
          (s.peerAddr, packet.toBytes)
    | _ => none
| _ => none

/- A thread that takes some steps in a row. -/
def steps
    (thread : Thread)
    (count : Nat) : List Action :=
  List.replicate count (.thread thread)

end Sender

end Nkurdt
