import Nkurdt.Library.Turns
import Nkurdt.Sender.Calls
import Nkurdt.Sender.LockOrder
import Nkurdt.Timer.Stopping

/-
  The end of the threads once `stop` has cleared the flags.

  Every thread has a number of turns that it can still take
  at most: the rest of its iteration and, for the slide of
  the window, what is in the acknowledged set, for the timer
  what is in its map. A turn of any thread makes the sum
  smaller. As long as `stop` waits for a thread, some thread
  can take a turn, unless the timer has slept through its
  wake-up or the decoder has read outside its bytes.

  Main declarations:
    * `Sender.work`
    * `Sender.Stopped`
    * `Sender.work_step`
    * `Sender.exists_turn`
    * `Sender.stop_returns`
-/

------------------------------------------------------------
-- Turns Left
------------------------------------------------------------

namespace Nkurdt

/- With `running_` false, and so many events in the map. -/
def TimerPc.work (events : Nat) : TimerPc → Nat
| .test => 1
| .body => events + 3
| .waitEvent => 2
| .waitUntil _ => 2
| .expire _ => events + 2
| .exit => 0

/- The calls of `join` and what is in front of them. -/
def CallerPc.work : CallerPc → Nat
| .notifyTimer => 5
| .joinTimer => 4
| .joinSend => 3
| .joinRecv => 2
| .joinTimeout => 1
| _ => 0

/-
  Registering an event may cost the timer one more turn, so
  that it counts for two here.
-/
def SendPc.work : SendPc → Nat
| .test => 1
| .pop => 14
| .lockPool _ => 13
| .lockAcked _ => 12
| .checkAcked _ => 11
| .checkLower _ => 10
| .readLower _ => 9
| .readUpper _ _ => 8
| .retry _ => 7
| .lockState _ => 6
| .exhausted _ => 5
| .unlockState _ => 4
| .transmit _ => 6
| .register _ => 5
| .removeEvent _ => 4
| .unlockAcked _ => 3
| .unlockPool _ => 2
| .exit => 0

/- With so many numbers in the acknowledged set. -/
def RecvPc.work (acked : Nat) : RecvPc → Nat
| .test => 1
| .recv => acked + 20
| .decode _ => acked + 19
| .dispatch _ => acked + 18
| .lockState _ _ => acked + 17
| .setState _ _ => acked + 16
| .unlockState _ => acked + 15
| .notify _ => acked + 14
| .lockAcked _ => acked + 13
| .insertAck _ => acked + 12
| .compare _ => 10
| .fastLower _ => 9
| .fastUpper _ _ => 8
| .lockQueue _ _ _ => 7
| .pushAll _ _ _ => 6
| .unlockQueue _ => 5
| .countDup _ => 4
| .less _ => 5
| .setLower _ => 4
| .eraseAck _ => 3
| .slide => acked + 3
| .unlockAcked => 2
| .exit => 0
| .undefined => 0

def TimeoutPc.work : TimeoutPc → Nat
| .test => 1
| .wait => 8
| .readUpper => 7
| .lockQueue => 6
| .lockWindow => 5
| .map => 4
| .unlockWindow => 3
| .unlockQueue => 2
| .exit => 0

theorem TimerPc.work_mono
    (pc : TimerPc)
    {events events' : Nat}
    (hEvents : events ≤ events') :
    pc.work events ≤ pc.work events' := by
  cases pc
  all_goals
    unfold TimerPc.work
    dsimp only
    omega

/- Each entry in the map is worth one turn at most. -/
theorem TimerPc.work_succ_le
    (pc : TimerPc)
    (events : Nat) :
    pc.work (events + 1) ≤ pc.work events + 1 := by
  cases pc
  all_goals
    unfold TimerPc.work
    dsimp only
    omega

namespace ConcurrentTimer

variable {T : Type} [DecidableEq T]

def work (timer : ConcurrentTimer T) : Nat :=
  timer.threadPc.work timer.events.entries.length

/- A notification can only shorten the way. -/
omit [DecidableEq T] in
theorem work_notifyOne_le
    (timer : ConcurrentTimer T) :
    timer.notifyOne.work ≤ timer.work := by
  unfold work
  rw [(notifyOne_frame timer).1]
  unfold notifyOne
  cases hPc : timer.threadPc with
  | waitEvent => exact (by omega : 1 ≤ 2)
  | waitUntil _ => exact (by omega : 1 ≤ 2)
  | test | body | expire last | exit =>
      dsimp only
      rw [hPc]

theorem work_registerAt_le
    (timer : ConcurrentTimer T)
    (event : T)
    (tp : Nat) :
    (timer.registerAt event tp).work ≤ timer.work + 1 := by
  unfold registerAt registerEvent
  dsimp only
  refine (work_notifyOne_le _).trans ?_
  have hLength
      (events : OrderedMultimap Nat T) :
      (events.emplace (tp + milliseconds 0) event).entries.length =
        events.entries.length + 1 :=
    (OrderedMultimap.perm_emplaceList _ _ _).length_eq
  unfold work
  dsimp only
  rw [hLength]
  refine (TimerPc.work_succ_le _ _).trans ?_
  cases timer.registeredEvents event with
  | none => exact le_rfl
  | some oldTp =>
      exact Nat.add_le_add_right
        (TimerPc.work_mono _
          (List.erase_sublist.length_le)) 1

theorem work_removeEvent_le
    (timer : ConcurrentTimer T)
    (event : T) :
    (timer.removeEvent event).work ≤ timer.work := by
  unfold removeEvent
  cases timer.registeredEvents event with
  | none => exact le_rfl
  | some tp =>
      exact TimerPc.work_mono _ List.erase_sublist.length_le

/- A turn of the thread of a timer that stops. -/
theorem work_threadStep
    {timer timer' : ConcurrentTimer T}
    {now : Nat}
    (hStopped : timer.running = false)
    (hStep : timer.threadStep now = some timer') :
    timer'.work + 1 ≤ timer.work := by
  unfold threadStep at hStep
  cases hPc : timer.threadPc with
  | test =>
      rw [hPc, hStopped] at hStep
      cases hStep
      unfold work
      rw [hPc]
      exact le_rfl
  | body =>
      rw [hPc] at hStep
      dsimp only at hStep
      split at hStep
      · cases hStep
        unfold work
        rw [hPc]
        unfold TimerPc.work
        dsimp only
        omega
      · split_ifs at hStep
        all_goals
          cases hStep
          unfold work
          rw [hPc]
          unfold TimerPc.work
          dsimp only
          omega
  | waitEvent =>
      rw [hPc] at hStep
      cases hStep
  | waitUntil tp =>
      rw [hPc] at hStep
      cases hStep
      unfold work
      rw [hPc]
      exact le_rfl
  | expire last =>
      rw [hPc] at hStep
      dsimp only at hStep
      split at hStep
      · cases hStep
        unfold work
        rw [hPc]
        unfold TimerPc.work
        dsimp only
        omega
      · rename_i tp event hFirst
        split_ifs at hStep
        · cases hStep
          have hLength :
              timer.events.entries.length ≠ 0 := by
            intro hNone
            rw [List.length_eq_zero_iff] at hNone
            unfold OrderedMultimap.first? at hFirst
            rw [hNone] at hFirst
            cases hFirst
          unfold work expireFirst OrderedMultimap.eraseFirst
          rw [hPc]
          unfold TimerPc.work
          dsimp only
          rw [List.length_tail]
          omega
        · cases hStep
          unfold work
          rw [hPc]
          unfold TimerPc.work
          dsimp only
          omega
  | exit =>
      rw [hPc] at hStep
      cases hStep

/- An ended thread stays so. -/
omit [DecidableEq T] in
theorem exit_notifyOne
    {timer : ConcurrentTimer T}
    (hExit : timer.threadPc = .exit) :
    timer.notifyOne.threadPc = .exit := by
  unfold notifyOne
  rw [hExit]
  exact hExit

theorem exit_registerAt
    {timer : ConcurrentTimer T}
    (event : T)
    (tp : Nat)
    (hExit : timer.threadPc = .exit) :
    (timer.registerAt event tp).threadPc = .exit := by
  unfold registerAt registerEvent
  dsimp only
  apply exit_notifyOne
  cases timer.registeredEvents event <;> exact hExit

theorem running_threadStep
    {timer timer' : ConcurrentTimer T}
    {now : Nat}
    (hStep : timer.threadStep now = some timer') :
    timer'.running = timer.running := by
  cases threadMove_threadStep hStep with
  | moves pc hNext _ _ _ =>
      subst hNext
      rfl
  | expires last tp event _ _ _ hNext =>
      subst hNext
      rfl

end ConcurrentTimer

end Nkurdt

------------------------------------------------------------
-- Turns of the Threads
------------------------------------------------------------

namespace Nkurdt

namespace Sender

open ConcurrentTimer

/- What all threads have left. -/
def work (s : Sender) : Nat :=
  s.callerPc.work + s.sendPc.work +
    s.recvPc.work s.ackedSeqSet.card + s.timeoutPc.work +
    s.timer.work

theorem work_sendHandlerStep
    {s s' : Sender}
    (hStopped : s.running = false)
    (hStep : s.sendHandlerStep = some s') :
    s'.sendPc.work + s'.timer.work + 1 ≤
      s.sendPc.work + s.timer.work := by
  cases sendHandlerStep_branch hStep with
  | runs hPc hRunning =>
      rw [hStopped] at hRunning
      cases hRunning
  | @registers seq hPc _ =>
      have hTimer :=
        work_registerAt_le s.timer seq
          (s.clock + milliseconds s.timeout)
      rw [← registerEvent_eq] at hTimer
      simp only [hPc, SendPc.work]
      omega
  | @removes seq hPc _ =>
      have hTimer := work_removeEvent_le s.timer seq
      simp only [hPc, SendPc.work]
      omega
  | _ hPc =>
      simp only [hPc, SendPc.work, cleanUp, notifyState]
      omega

/- The slide takes a number out of the set at every turn. -/
theorem work_recvHandlerStep
    {s s' : Sender}
    (hStopped : s.running = false)
    (hStep : s.recvHandlerStep = some s') :
    s'.recvPc.work s'.ackedSeqSet.card + 1 ≤
      s.recvPc.work s.ackedSeqSet.card := by
  cases recvHandlerStep_branch hStep with
  | runs hPc hRunning =>
      rw [hStopped] at hRunning
      cases hRunning
  | @insertsToSlide packet hPc _ =>
      have hCard :=
        Finset.card_insert_le packet.seq s.ackedSeqSet
      simp only [hPc, RecvPc.work]
      omega
  | slides hPc hMember =>
      have hCard := Finset.card_erase_add_one hMember
      simp only [hPc, RecvPc.work]
      omega
  | _ hPc =>
      simp only [hPc, RecvPc.work, notifyState]
      omega

theorem work_recvStep
    {s s' : Sender}
    {result : RecvResult}
    (hStep : s.recvStep result = some s') :
    s'.recvPc.work s'.ackedSeqSet.card + 1 ≤
      s.recvPc.work s.ackedSeqSet.card := by
  have hKeeps := recvStep_keeps hStep
  rw [hKeeps.ackedSeqSet, hKeeps.recvPc]
  rcases hKeeps.next with ⟨bytes, hNext⟩ | hNext
  · simp only [hNext, RecvPc.work]
    omega
  · simp only [hNext, RecvPc.work]
    omega

theorem work_timeoutHandlerStep
    {s s' : Sender}
    (hStopped : s.running = false)
    (hStep : s.timeoutHandlerStep = some s') :
    s'.timeoutPc.work + 1 ≤ s.timeoutPc.work ∧
      s'.timer.work = s.timer.work := by
  cases timeoutHandlerStep_branch hStep with
  | runs hPc hRunning =>
      rw [hStopped] at hRunning
      cases hRunning
  | _ hPc =>
      refine ⟨?_, rfl⟩
      simp only [hPc, TimeoutPc.work]
      omega

end Sender

end Nkurdt

------------------------------------------------------------
-- A Sender That Stops
------------------------------------------------------------

namespace Nkurdt

/- The part of `stop` behind the two flags, or its end. -/
def CallerPc.Joins : CallerPc → Prop
| .notifyTimer | .joinTimer | .joinSend => True
| .joinRecv | .joinTimeout | .idle => True
| _ => False

instance (pc : CallerPc) : Decidable pc.Joins := by
  unfold CallerPc.Joins
  split <;> infer_instance

namespace Sender

open ConcurrentTimer

/-
  The flags are cleared, and the threads that `stop` has
  joined have ended.
-/
structure Stopped (s : Sender) : Prop where
  joins : s.callerPc.Joins
  running : s.running = false
  timerRunning : s.timer.running = false
  timer : s.callerPc.work ≤ 3 → s.timer.threadPc = .exit
  send : s.callerPc.work ≤ 2 → s.sendPc = .exit
  recv : s.callerPc.work ≤ 1 → s.recvPc = .exit
  timeout : s.callerPc.work = 0 → s.timeoutPc = .exit

/- Nobody but `stop` moves, and what has ended stays so. -/
theorem Stopped.congr
    {s s' : Sender}
    (hStopped : Stopped s)
    (hCaller : s'.callerPc = s.callerPc)
    (hRunning : s'.running = false)
    (hTimerRunning : s'.timer.running = false)
    (hTimer :
      s.timer.threadPc = .exit → s'.timer.threadPc = .exit)
    (hSend : s.sendPc = .exit → s'.sendPc = .exit)
    (hRecv : s.recvPc = .exit → s'.recvPc = .exit)
    (hTimeout :
      s.timeoutPc = .exit → s'.timeoutPc = .exit) :
    Stopped s' where
  joins := by
    rw [hCaller]
    exact hStopped.joins
  running := hRunning
  timerRunning := hTimerRunning
  timer := by
    rw [hCaller]
    exact fun hWork => hTimer (hStopped.timer hWork)
  send := by
    rw [hCaller]
    exact fun hWork => hSend (hStopped.send hWork)
  recv := by
    rw [hCaller]
    exact fun hWork => hRecv (hStopped.recv hWork)
  timeout := by
    rw [hCaller]
    exact fun hWork => hTimeout (hStopped.timeout hWork)

/- `stop` waits for no notification. -/
theorem Stopped.wake_eq
    {s s' : Sender}
    (hStopped : Stopped s)
    (hCaller :
      s'.callerPc = s.callerPc ∨
        s'.callerPc = wake s.callerPc) :
    s'.callerPc = s.callerPc := by
  rcases hCaller with hSame | hWake
  · exact hSame
  · rw [hWake]
    have hJoins := hStopped.joins
    cases hPc : s.callerPc
    case wait r =>
      rw [hPc] at hJoins
      exact hJoins.elim
    all_goals rfl

/- A step of `stop` itself. -/
theorem stopped_callerStep
    {s s' : Sender}
    (hStopped : Stopped s)
    (hStep : s.callerStep = some s') :
    Stopped s' ∧
      s'.callerPc.work + s'.timer.work + 1 ≤
        s.callerPc.work + s.timer.work := by
  have hJoins := hStopped.joins
  cases callerStep_branch hStep with
  | notifiesTimer hPc =>
      have hFrame := notifyOne_frame s.timer
      have hNotify := work_notifyOne_le s.timer
      refine ⟨⟨trivial, hStopped.running,
        hFrame.2.2.2.trans hStopped.timerRunning, ?_, ?_, ?_,
        ?_⟩, ?_⟩
      all_goals simp only [hPc, CallerPc.work]
      all_goals omega
  | joinsTimer hPc hExit =>
      refine ⟨⟨trivial, hStopped.running,
        hStopped.timerRunning, fun _ => hExit, ?_, ?_, ?_⟩,
        ?_⟩
      all_goals simp only [hPc, CallerPc.work]
      all_goals omega
  | joinsSend hPc hExit =>
      have hTimer : s.timer.threadPc = .exit :=
        hStopped.timer (by simp only [hPc, CallerPc.work]; omega)
      refine ⟨⟨trivial, hStopped.running,
        hStopped.timerRunning, fun _ => hTimer,
        fun _ => hExit, ?_, ?_⟩, ?_⟩
      all_goals simp only [hPc, CallerPc.work]
      all_goals omega
  | joinsRecv hPc hExit =>
      have hTimer : s.timer.threadPc = .exit :=
        hStopped.timer (by simp only [hPc, CallerPc.work]; omega)
      have hSend : s.sendPc = .exit :=
        hStopped.send (by simp only [hPc, CallerPc.work]; omega)
      refine ⟨⟨trivial, hStopped.running,
        hStopped.timerRunning, fun _ => hTimer,
        fun _ => hSend, fun _ => hExit, ?_⟩, ?_⟩
      all_goals simp only [hPc, CallerPc.work]
      all_goals omega
  | stops hPc hExit =>
      have hTimer : s.timer.threadPc = .exit :=
        hStopped.timer (by simp only [hPc, CallerPc.work]; omega)
      have hSend : s.sendPc = .exit :=
        hStopped.send (by simp only [hPc, CallerPc.work]; omega)
      have hRecv : s.recvPc = .exit :=
        hStopped.recv (by simp only [hPc, CallerPc.work]; omega)
      refine ⟨⟨trivial, hStopped.running,
        hStopped.timerRunning, fun _ => hTimer,
        fun _ => hSend, fun _ => hRecv, fun _ => hExit⟩, ?_⟩
      simp only [hPc, CallerPc.work, return_]
      omega
  | _ hPc =>
      rw [hPc] at hJoins
      exact hJoins.elim

theorem stopped_sendHandlerStep
    {s s' : Sender}
    (hStopped : Stopped s)
    (hStep : s.sendHandlerStep = some s') :
    Stopped s' := by
  have hCaller :=
    hStopped.wake_eq (sendHandlerStep_keeps hStep).callerPc
  have hKeeps := sendHandlerStep_keeps hStep
  have hRecv : s.recvPc = .exit → s'.recvPc = .exit :=
    hKeeps.recvPc.trans
  have hTimeout :
      s.timeoutPc = .exit → s'.timeoutPc = .exit :=
    hKeeps.timeoutPc.trans
  have hSend : s.sendPc = .exit → s'.sendPc = .exit := by
    intro hExit
    unfold sendHandlerStep at hStep
    rw [hExit] at hStep
    cases hStep
  cases sendHandlerStep_branch hStep with
  | breaks _ _ =>
      exact hStopped.congr hCaller rfl hStopped.timerRunning
        id hSend hRecv hTimeout
  | registers _ _ =>
      exact hStopped.congr hCaller hStopped.running
        ((running_registerAt _ _ _).trans
          hStopped.timerRunning)
        (exit_registerAt _ _) hSend hRecv hTimeout
  | removes _ _ =>
      exact hStopped.congr hCaller hStopped.running
        ((running_removeEvent _ _).trans
          hStopped.timerRunning)
        ((threadPc_removeEvent _ _).trans ·) hSend hRecv
        hTimeout
  | _ =>
      exact hStopped.congr hCaller hStopped.running
        hStopped.timerRunning id hSend hRecv hTimeout

theorem stopped_recvHandlerStep
    {s s' : Sender}
    (hStopped : Stopped s)
    (hStep : s.recvHandlerStep = some s') :
    Stopped s' := by
  have hKeeps := recvHandlerStep_keeps hStep
  have hCaller := hStopped.wake_eq hKeeps.callerPc
  have hRecv : s.recvPc = .exit → s'.recvPc = .exit := by
    intro hExit
    unfold recvHandlerStep at hStep
    rw [hExit] at hStep
    cases hStep
  have hRunning : s'.running = false := by
    cases recvHandlerStep_branch hStep with
    | _ => exact hStopped.running
  refine hStopped.congr hCaller hRunning ?_ ?_
    hKeeps.sendPc.trans hRecv hKeeps.timeoutPc.trans
  · rw [hKeeps.timer]
    exact hStopped.timerRunning
  · rw [hKeeps.timer]
    exact id

theorem stopped_timeoutHandlerStep
    {s s' : Sender}
    (hStopped : Stopped s)
    (hStep : s.timeoutHandlerStep = some s') :
    Stopped s' := by
  have hKeeps := timeoutHandlerStep_keeps hStep
  have hTimeout :
      s.timeoutPc = .exit → s'.timeoutPc = .exit := by
    intro hExit
    unfold timeoutHandlerStep at hStep
    rw [hExit] at hStep
    cases hStep
  have hTimer :
      s'.timer.running = s.timer.running ∧
        s'.timer.threadPc = s.timer.threadPc := by
    cases timeoutHandlerStep_branch hStep with
    | _ => exact ⟨rfl, rfl⟩
  exact hStopped.congr hKeeps.callerPc
    (hKeeps.running.trans hStopped.running)
    (hTimer.1.trans hStopped.timerRunning)
    hTimer.2.trans hKeeps.sendPc.trans hKeeps.recvPc.trans
    hTimeout

/- The socket may return once more. -/
theorem stopped_recvStep
    {s s' : Sender}
    {result : RecvResult}
    (hStopped : Stopped s)
    (hStep : s.recvStep result = some s') :
    Stopped s' := by
  have hKeeps := recvStep_keeps hStep
  have hCaller := hStopped.wake_eq hKeeps.callerPc
  have hRunning : s'.running = false := by
    unfold recvStep at hStep
    split_ifs at hStep
    cases result with
    | error value =>
        dsimp only at hStep
        split_ifs at hStep
        · cases hStep
          rfl
        · cases hStep
          exact hStopped.running
    | datagram bytes source =>
        cases hStep
        exact hStopped.running
  have hRecv : s.recvPc = .exit → s'.recvPc = .exit := by
    intro hExit
    rw [hKeeps.recvPc] at hExit
    cases hExit
  refine hStopped.congr hCaller hRunning ?_ ?_
    hKeeps.sendPc.trans hRecv hKeeps.timeoutPc.trans
  · rw [hKeeps.timer]
    exact hStopped.timerRunning
  · rw [hKeeps.timer]
    exact id

theorem stopped_timerStep
    {s : Sender}
    {timer : ConcurrentTimer Nat}
    (hStopped : Stopped s)
    (hStep : s.timer.threadStep s.clock = some timer) :
    Stopped { s with timer := timer } := by
  have hTimer :
      s.timer.threadPc = .exit → timer.threadPc = .exit := by
    intro hExit
    unfold ConcurrentTimer.threadStep at hStep
    rw [hExit] at hStep
    cases hStep
  exact hStopped.congr rfl hStopped.running
    ((running_threadStep hStep).trans hStopped.timerRunning)
    hTimer id id id

/- The actions that are turns of a thread. -/
def turn : Action → Bool
| .thread _ => true
| .timer => true
| .recv _ => true
| _ => false

/- Nobody makes another call. -/
def Uncalled : Action → Prop
| .call _ => False
| _ => True

instance (action : Action) : Decidable (Uncalled action) := by
  unfold Uncalled
  split <;> infer_instance

/- The step lemma: a turn makes the work less. -/
theorem work_step
    {s s' : Sender}
    {action : Action}
    (hStopped : Stopped s)
    (hStep : s.step action = some s')
    (hUncalled : Uncalled action) :
    Stopped s' ∧
      s'.work + (turn action).toNat ≤ s.work := by
  cases action with
  | call call => exact hUncalled.elim
  | thread thread =>
      cases thread with
      | caller =>
          have hKeeps := callerStep_keeps hStep
          rcases stopped_callerStep hStopped hStep with
            ⟨hNext, hWork⟩
          refine ⟨hNext, ?_⟩
          unfold work turn
          rw [hKeeps.sendPc, hKeeps.recvPc, hKeeps.timeoutPc,
            hKeeps.ackedSeqSet, Bool.toNat_true]
          omega
      | sendHandler =>
          have hKeeps := sendHandlerStep_keeps hStep
          have hWork :=
            work_sendHandlerStep hStopped.running hStep
          refine ⟨stopped_sendHandlerStep hStopped hStep, ?_⟩
          unfold work turn
          rw [hStopped.wake_eq hKeeps.callerPc,
            hKeeps.recvPc, hKeeps.timeoutPc,
            hKeeps.ackedSeqSet, Bool.toNat_true]
          omega
      | recvHandler =>
          have hKeeps := recvHandlerStep_keeps hStep
          have hWork :=
            work_recvHandlerStep hStopped.running hStep
          refine ⟨stopped_recvHandlerStep hStopped hStep, ?_⟩
          unfold work turn
          rw [hStopped.wake_eq hKeeps.callerPc,
            hKeeps.sendPc, hKeeps.timeoutPc, hKeeps.timer,
            Bool.toNat_true]
          omega
      | timeoutHandler =>
          have hKeeps := timeoutHandlerStep_keeps hStep
          rcases work_timeoutHandlerStep hStopped.running
              hStep with
            ⟨hWork, hTimer⟩
          refine
            ⟨stopped_timeoutHandlerStep hStopped hStep, ?_⟩
          unfold work turn
          rw [hKeeps.callerPc, hKeeps.sendPc, hKeeps.recvPc,
            hKeeps.ackedSeqSet, hTimer, Bool.toNat_true]
          omega
  | timer =>
      rcases Option.map_eq_some_iff.mp hStep with
        ⟨timer, hThread, rfl⟩
      have hWork :=
        work_threadStep hStopped.timerRunning hThread
      refine ⟨stopped_timerStep hStopped hThread, ?_⟩
      unfold work turn
      rw [Bool.toNat_true]
      dsimp only
      omega
  | recv result =>
      have hKeeps := recvStep_keeps hStep
      have hWork := work_recvStep hStep
      refine ⟨stopped_recvStep hStopped hStep, ?_⟩
      unfold work turn
      rw [hStopped.wake_eq hKeeps.callerPc, hKeeps.sendPc,
        hKeeps.timeoutPc, hKeeps.timer, Bool.toNat_true]
      omega
  | tick duration =>
      cases hStep
      exact ⟨hStopped.congr rfl hStopped.running
        hStopped.timerRunning id id id id, le_rfl⟩
  | wakeCaller =>
      cases hStep
      have hCaller :
          (notifyState s).callerPc = s.callerPc :=
        hStopped.wake_eq (Or.inr rfl)
      refine ⟨hStopped.congr hCaller hStopped.running
        hStopped.timerRunning id id id id, ?_⟩
      unfold work
      rw [hCaller]
      exact le_rfl
  | wakeTimer =>
      cases hStep
      refine ⟨hStopped.congr rfl hStopped.running
        ((notifyOne_frame s.timer).2.2.2.trans
          hStopped.timerRunning)
        exit_notifyOne id id id, ?_⟩
      exact Nat.add_le_add_left (work_notifyOne_le s.timer) _

end Sender

end Nkurdt

------------------------------------------------------------
-- A Turn for Somebody
------------------------------------------------------------

namespace Nkurdt

namespace Sender

open Mutexes
open Runs

/-
  A handler that is still in its loop, and for which every
  mutex that it wants is free, can go on.
-/
theorem sendHandler_canGoOn
    {s : Sender}
    (hLive : s.sendPc ≠ .exit)
    (hFree :
      ∀ mutex, s.wants .sendHandler = some mutex →
        s.locks.owner mutex = none) :
    s.CanGoOn .sendHandler := by
  by_cases hPool : s.Holds .sendHandler .packetPool
  · exact canGoOn_of_holds hPool hFree
  · left
    unfold wants at hFree
    dsimp only at hFree
    unfold threadStep
    dsimp only
    unfold sendHandlerStep
    cases hPc : s.sendPc with
    | test => rfl
    | pop =>
        rw [hPc] at hFree
        dsimp only
        split
        · exact isSome_whenFree (hFree .queue rfl)
        · exact isSome_whenFree (hFree .queue rfl)
    | lockPool seq =>
        rw [hPc] at hFree
        exact isSome_whenFree (hFree .packetPool rfl)
    | exit => exact absurd hPc hLive
    | _ =>
        unfold Holds held at hPool
        dsimp only at hPool
        rw [hPc] at hPool
        exact absurd (by simp [SendPc.held]) hPool

theorem recvHandler_canGoOn
    {s : Sender}
    (hLive : s.recvPc ≠ .exit)
    (hDefined : s.recvPc ≠ .undefined)
    (hSocket : s.recvPc ≠ .recv)
    (hFree :
      ∀ mutex, s.wants .recvHandler = some mutex →
        s.locks.owner mutex = none) :
    s.CanGoOn .recvHandler := by
  by_cases hHolds : ∃ mutex, s.Holds .recvHandler mutex
  · rcases hHolds with ⟨mutex, hHolds⟩
    exact canGoOn_of_holds hHolds hFree
  · left
    unfold wants at hFree
    dsimp only at hFree
    unfold threadStep
    dsimp only
    unfold recvHandlerStep
    cases hPc : s.recvPc with
    | test | notify packet => rfl
    | decode bytes =>
        dsimp only
        split <;> rfl
    | dispatch packet =>
        dsimp only
        split <;> rfl
    | lockState target packet =>
        rw [hPc] at hFree
        exact isSome_whenFree (hFree .state rfl)
    | lockAcked packet =>
        rw [hPc] at hFree
        exact isSome_whenFree (hFree .ackedSeqSet rfl)
    | recv => exact absurd hPc hSocket
    | exit => exact absurd hPc hLive
    | undefined => exact absurd hPc hDefined
    | setState target packet | unlockState packet =>
        unfold Holds held at hHolds
        dsimp only at hHolds
        rw [hPc] at hHolds
        exact absurd ⟨.state, List.mem_cons_self⟩ hHolds
    | _ =>
        unfold Holds held at hHolds
        dsimp only at hHolds
        rw [hPc] at hHolds
        exact absurd ⟨.ackedSeqSet, by simp [RecvPc.held]⟩
          hHolds

theorem timeoutHandler_canGoOn
    {s : Sender}
    (hLive : s.timeoutPc ≠ .exit)
    (hFree :
      ∀ mutex, s.wants .timeoutHandler = some mutex →
        s.locks.owner mutex = none) :
    s.CanGoOn .timeoutHandler := by
  by_cases hQueue : s.Holds .timeoutHandler .queue
  · exact canGoOn_of_holds hQueue hFree
  · unfold wants at hFree
    dsimp only at hFree
    unfold CanGoOn threadStep
    dsimp only
    unfold timeoutHandlerStep
    cases hPc : s.timeoutPc with
    | test => exact Or.inl rfl
    | wait => exact isSome_whenTimerFree (Or.inl hPc)
    | readUpper =>
        rw [hPc] at hFree
        exact Or.inl (isSome_whenFree (hFree .window rfl))
    | lockQueue =>
        rw [hPc] at hFree
        exact Or.inl (isSome_whenFree (hFree .queue rfl))
    | exit => exact absurd hPc hLive
    | _ =>
        unfold Holds held at hQueue
        dsimp only at hQueue
        rw [hPc] at hQueue
        exact absurd (by simp [TimeoutPc.held]) hQueue

/- Some thread, or the socket, can take a turn. -/
def HasTurn (s : Sender) : Prop :=
  ∃ action, turn action = true ∧ (s.step action).isSome

theorem hasTurn_of_canGoOn
    {s : Sender}
    {thread : Thread}
    (hGoesOn : s.CanGoOn thread) :
    s.HasTurn := by
  rcases hGoesOn with hThread | ⟨_, _, hTimer⟩
  · exact ⟨.thread thread, rfl, hThread⟩
  · refine ⟨.timer, rfl, ?_⟩
    unfold step
    dsimp only
    rw [Option.isSome_map]
    exact hTimer

/-
  A thread that can go on once its mutexes are free, in a
  sender that stops: it can, or whoever it waits for can.
-/
theorem hasTurn_of_free
    {s : Sender}
    {thread : Thread}
    (hOwned : MutexesOwned s)
    (hStopped : Stopped s)
    (hThread :
      (∀ mutex, s.wants thread = some mutex →
        s.locks.owner mutex = none) →
      s.CanGoOn thread) :
    s.HasTurn := by
  by_cases hFree :
      ∀ mutex, s.wants thread = some mutex →
        s.locks.owner mutex = none
  · exact hasTurn_of_canGoOn (hThread hFree)
  · push Not at hFree
    rcases hFree with ⟨mutex, hWants, hTaken⟩
    rcases Option.ne_none_iff_exists'.mp hTaken with
      ⟨other, hOwner⟩
    rcases exists_canGoOn_of_waits hOwned
        ⟨mutex, hWants, hOwner⟩ with
      hDeadlocked | ⟨last, _, hGoesOn⟩
    · -- `stop` holds no mutex
      have hHolds :=
        (hOwned .caller .state).mp hDeadlocked.1
      have hJoins := hStopped.joins
      unfold Holds held at hHolds
      dsimp only at hHolds
      cases hPc : s.callerPc
      all_goals
        rw [hPc] at hHolds hJoins
        first
          | exact hJoins.elim
          | cases hHolds
    · exact hasTurn_of_canGoOn hGoesOn

/-
  The timer waits for a notification, and `stop` for the
  timer.
-/
def Overslept (s : Sender) : Prop :=
  s.callerPc = .joinTimer ∧ s.timer.threadPc = .waitEvent

/- As long as `stop` waits, somebody has a turn. -/
theorem exists_turn
    {s : Sender}
    (hOwned : MutexesOwned s)
    (hStopped : Stopped s)
    (hBusy : s.callerPc ≠ .idle) :
    s.HasTurn ∨ s.Overslept ∨ s.recvPc = .undefined := by
  have hCaller (hStep : s.callerStep.isSome) : s.HasTurn :=
    ⟨.thread .caller, rfl, hStep⟩
  have hJoins := hStopped.joins
  cases hPc : s.callerPc
  case idle => exact absurd hPc hBusy
  case notifyTimer =>
    left
    apply hCaller
    unfold callerStep
    rw [hPc]
    rfl
  case joinTimer =>
    cases hTimer : s.timer.threadPc with
    | waitEvent => exact Or.inr (Or.inl ⟨hPc, hTimer⟩)
    | exit =>
        left
        apply hCaller
        unfold callerStep
        rw [hPc]
        dsimp only
        rw [if_pos hTimer]
        rfl
    | _ =>
        refine Or.inl ⟨.timer, rfl, ?_⟩
        unfold step
        dsimp only
        rw [Option.isSome_map]
        unfold ConcurrentTimer.threadStep
        rw [hTimer]
        dsimp only
        repeat' split
        all_goals rfl
  case joinSend =>
    left
    by_cases hExit : s.sendPc = .exit
    · apply hCaller
      unfold callerStep
      rw [hPc]
      dsimp only
      rw [if_pos hExit]
      rfl
    · exact hasTurn_of_free hOwned hStopped
        (sendHandler_canGoOn hExit)
  case joinRecv =>
    by_cases hExit : s.recvPc = .exit
    · left
      apply hCaller
      unfold callerStep
      rw [hPc]
      dsimp only
      rw [if_pos hExit]
      rfl
    by_cases hUndefined : s.recvPc = .undefined
    · exact Or.inr (Or.inr hUndefined)
    left
    by_cases hSocket : s.recvPc = .recv
    · refine ⟨.recv (.error eAgain), rfl, ?_⟩
      unfold step
      dsimp only
      unfold recvStep
      rw [if_pos hSocket]
      rfl
    · exact hasTurn_of_free hOwned hStopped
        (recvHandler_canGoOn hExit hUndefined hSocket)
  case joinTimeout =>
    left
    by_cases hExit : s.timeoutPc = .exit
    · apply hCaller
      unfold callerStep
      rw [hPc]
      dsimp only
      rw [if_pos hExit]
      rfl
    · exact hasTurn_of_free hOwned hStopped
        (timeoutHandler_canGoOn hExit)
  all_goals
    rw [hPc] at hJoins
    exact hJoins.elim

end Sender

end Nkurdt

------------------------------------------------------------
-- The End of `stop`
------------------------------------------------------------

namespace Nkurdt

namespace Sender

open Runs

/-
  The invariant of all runs: a call of `stop` has cleared
  what it is past clearing.
-/
structure Halting (s : Sender) : Prop where
  flag : s.callerPc = .stopTimer → s.running = false
  stopped :
    s.callerPc.Joins → s.callerPc ≠ .idle → Stopped s

theorem halting_fresh
    (config : SenderConfig) :
    Halting (fresh config) where
  flag := fun hPc => by cases hPc
  stopped := fun _ hBusy => absurd rfl hBusy

theorem halting_callerStep
    {s s' : Sender}
    (hHalting : Halting s)
    (hStep : s.callerStep = some s') :
    Halting s' := by
  by_cases hJoins : s.callerPc.Joins ∧ s.callerPc ≠ .idle
  · have hNext :=
      (stopped_callerStep
        (hHalting.stopped hJoins.1 hJoins.2) hStep).1
    refine ⟨?_, fun _ _ => hNext⟩
    intro hPc
    exact hNext.running
  · cases callerStep_branch hStep with
    | stopsRunning hPc =>
        exact ⟨(fun _ => rfl), (fun hNext => hNext.elim)⟩
    | stopsTimer hPc hFree =>
        refine ⟨(fun hNext => by cases hNext), fun _ _ => ?_⟩
        have hRunning := hHalting.flag hPc
        refine ⟨trivial, hRunning, rfl, ?_, ?_, ?_, ?_⟩
        all_goals simp only [CallerPc.work]
        all_goals omega
    | notifiesTimer hPc | joinsTimer hPc _ =>
        rw [hPc] at hJoins
        exact absurd ⟨trivial, by decide⟩ hJoins
    | joinsSend hPc _ | joinsRecv hPc _ =>
        rw [hPc] at hJoins
        exact absurd ⟨trivial, by decide⟩ hJoins
    | stops hPc _ =>
        rw [hPc] at hJoins
        exact absurd ⟨trivial, by decide⟩ hJoins
    | fails _ _ | succeeds _ _ | cancels _ _ =>
        exact ⟨(fun hNext => by cases hNext),
          (fun _ hBusy => absurd rfl hBusy)⟩
    | @abandons t _ _ =>
        cases t <;>
          exact ⟨(fun hNext => by cases hNext),
            (fun hNext => hNext.elim)⟩
    | @unlocksPool t _ =>
        cases t <;>
          exact ⟨(fun hNext => by cases hNext),
            (fun hNext => hNext.elim)⟩
    | _ =>
        exact ⟨(fun hNext => by cases hNext),
          (fun hNext => hNext.elim)⟩

/- Nobody sets the flag again. -/
theorem running_of_step
    {s s' : Sender}
    {action : Action}
    (hRunning : s.running = false)
    (hStep : s.step action = some s') :
    s'.running = false := by
  cases action with
  | call call =>
      exact (callStep_keeps hStep).running.trans hRunning
  | thread thread =>
      cases thread with
      | caller =>
          cases callerStep_branch hStep with
          | stopsRunning _ => rfl
          | _ => exact hRunning
      | sendHandler =>
          cases sendHandlerStep_branch hStep with
          | breaks _ _ => rfl
          | _ => exact hRunning
      | recvHandler =>
          cases recvHandlerStep_branch hStep with
          | _ => exact hRunning
      | timeoutHandler =>
          exact (timeoutHandlerStep_keeps hStep).running.trans
            hRunning
  | timer =>
      rcases Option.map_eq_some_iff.mp hStep with
        ⟨timer, _, rfl⟩
      exact hRunning
  | recv result =>
      unfold step recvStep at hStep
      dsimp only at hStep
      split_ifs at hStep
      cases result with
      | error value =>
          dsimp only at hStep
          split_ifs at hStep
          · cases hStep
            rfl
          · cases hStep
            exact hRunning
      | datagram bytes source =>
          cases hStep
          exact hRunning
  | tick duration =>
      cases hStep
      exact hRunning
  | wakeCaller =>
      cases hStep
      exact hRunning
  | wakeTimer =>
      cases hStep
      exact hRunning

theorem halting_step
    {s s' : Sender}
    {action : Action}
    (hHalting : Halting s)
    (hStep : s.step action = some s') :
    Halting s' := by
  by_cases hCall : ∃ call, action = .call call
  · rcases hCall with ⟨call, rfl⟩
    rcases (callStep_keeps hStep).starts with ⟨_, hPc⟩ | hPc
    all_goals
      refine ⟨?_, ?_⟩
      all_goals rw [hPc]
      · exact fun hNext => by cases hNext
      · exact fun hNext => hNext.elim
  by_cases hCaller : action = .thread .caller
  · subst hCaller
    exact halting_callerStep hHalting hStep
  push Not at hCall
  have hKept := callKept_step hStep hCall hCaller
  have hSame
      (hWait : ∀ r, s.callerPc ≠ .wait r) :
      s'.callerPc = s.callerPc := by
    rcases hKept.callerPc with hSame | hWake
    · exact hSame
    · rw [hWake]
      cases hPc : s.callerPc
      case wait r => exact absurd hPc (hWait r)
      all_goals rfl
  by_cases hWait : ∃ r, s.callerPc = .wait r
  · rcases hWait with ⟨r, hPc⟩
    rcases hKept.callerPc with hNext | hNext
    · rw [hPc] at hNext
      refine ⟨?_, ?_⟩
      · rw [hNext]
        exact fun hStop => by cases hStop
      · rw [hNext]
        exact fun hJoins => hJoins.elim
    · rw [hPc] at hNext
      refine ⟨?_, ?_⟩
      · rw [hNext]
        exact fun hStop => by cases hStop
      · rw [hNext]
        exact fun hJoins => hJoins.elim
  push Not at hWait
  have hPc := hSame hWait
  refine ⟨?_, ?_⟩
  · rw [hPc]
    intro hStop
    exact running_of_step (hHalting.flag hStop) hStep
  · rw [hPc]
    intro hJoins hBusy
    have hUncalled : Uncalled action := by
      cases action with
      | call call => exact absurd rfl (hCall call)
      | _ => trivial
    exact (work_step (hHalting.stopped hJoins hBusy) hStep
      hUncalled).1

/- Every state of a run that follows. -/
structure Ending (s : Sender) : Prop where
  owned : MutexesOwned s
  stopped : Stopped s

theorem ending_of_runActions
    {s s' : Sender}
    {actions : List Action}
    (hEnding : Ending s)
    (hRun :
      runActions step (fun _ action _ => Uncalled action) s
        actions = some s') :
    Ending s' := by
  have hReach :
      Reaches step (fun _ action _ => Uncalled action) s s' :=
    reaches_of_runActions .refl hRun
  exact hReach.invariant hEnding
    (fun _ _ _ hCurrent hNext hUncalled =>
      ⟨mutexesOwned_step hCurrent.owned hNext,
        (work_step hCurrent.stopped hNext hUncalled).1⟩)

/-
  Once `stop` has cleared the flag of the timer, there are
  at most `work` turns in any run that follows. When a run
  has come to where nobody has a turn, `stop` has returned
  and every thread has ended, unless the timer has slept
  through its notification or the decoder has read outside
  its bytes. While `stop` still waits and neither is the
  case, somebody has a turn.
-/
theorem stop_returns
    {config : SenderConfig}
    {s : Sender}
    (hReach :
      Reaches step (fun _ _ _ => True) (fresh config) s)
    (hStop : s.callerPc.Joins)
    (hBusy : s.callerPc ≠ .idle) :
    ∀ actions s',
      runActions step (fun _ action _ => Uncalled action) s
          actions = some s' →
        actions.countP turn ≤ s.work ∧
          (s'.HasTurn ∨
            s'.callerPc = .idle ∧
                s'.timer.threadPc = .exit ∧
                s'.sendPc = .exit ∧ s'.recvPc = .exit ∧
                s'.timeoutPc = .exit ∨
            s'.Overslept ∨ s'.recvPc = .undefined) := by
  have hHalting : Halting s :=
    hReach.invariant (halting_fresh config)
      (fun _ _ _ hCurrent hNext _ =>
        halting_step hCurrent hNext)
  have hEnding : Ending s :=
    ⟨mutexesOwned_of_reaches hReach,
      hHalting.stopped hStop hBusy⟩
  intro actions s' hRun
  refine ⟨?_, ?_⟩
  · by_contra hMore
    rcases exists_goal_of_turns hEnding.stopped hRun
        (not_le.mp hMore)
        (fun _ _ _ hCurrent hNext hUncalled =>
          Or.inr (work_step hCurrent hNext hUncalled)) with
      ⟨_, _, _, _, _, _, hGoal⟩
    exact hGoal
  · have hNext := ending_of_runActions hEnding hRun
    by_cases hIdle : s'.callerPc = .idle
    · have hWork : s'.callerPc.work = 0 := by
        rw [hIdle]
        rfl
      exact Or.inr (Or.inl ⟨hIdle,
        hNext.stopped.timer (by omega),
        hNext.stopped.send (by omega),
        hNext.stopped.recv (by omega),
        hNext.stopped.timeout hWork⟩)
    · rcases exists_turn hNext.owned hNext.stopped hIdle with
        hTurn | hOverslept | hUndefined
      · exact Or.inl hTurn
      · exact Or.inr (Or.inr (Or.inl hOverslept))
      · exact Or.inr (Or.inr (Or.inr hUndefined))

/- What is left to do in the run below. -/
def joining : List Action :=
  steps .caller 1 ++ [Action.timer] ++ steps .sendHandler 7 ++
    [Action.recv (.error eAgain)] ++ steps .recvHandler 1 ++
    steps .timeoutHandler 2 ++ steps .caller 4

/-
  `stop` while `send_handler` holds the pool and the timer is
  in its untimed wait: the notification reaches it.
-/
theorem stop_returns_joining :
    ∃ s,
      Reaches step (fun _ _ _ => True)
        (fresh ⟨2, 0, 1, false, false⟩) s ∧
      joining.countP turn ≤ s.work ∧
      ∃ s',
        runActions step (fun _ action _ => Uncalled action) s
            joining = some s' ∧
          s'.callerPc = .idle ∧
          (s'.HasTurn ∨
            s'.callerPc = .idle ∧
                s'.timer.threadPc = .exit ∧
                s'.sendPc = .exit ∧ s'.recvPc = .exit ∧
                s'.timeoutPc = .exit ∨
            s'.Overslept ∨ s'.recvPc = .undefined) := by
  have hRun :
      ∃ s,
        Reaches step (fun _ _ _ => True)
          (fresh ⟨2, 0, 1, false, false⟩) s ∧
        (s.callerPc = .notifyTimer ∧
          s.timer.threadPc = .waitEvent ∧
          ((runActions step
              (fun _ action _ => Uncalled action) s
              joining).any fun s' =>
            decide (s'.callerPc = .idle)) = true) :=
    exists_reaches_of_runActions
      ([Action.call (.connect ⟨0, 1⟩)] ++ steps .caller 10 ++
        steps .sendHandler 3 ++ steps .recvHandler 1 ++
        steps .timeoutHandler 1 ++ [Action.timer, .timer] ++
        [Action.recv (.datagram
          (Packet.toBytes ⟨version, .connAck, 1, []⟩)
          ⟨0, 1⟩)] ++
        steps .recvHandler 14 ++ steps .caller 3 ++
        [Action.call .stop] ++ steps .caller 2)
      (by decide +kernel)
  rcases hRun with ⟨s, hReach, hPc, _, hJoining⟩
  rcases (Option.any_eq_true _ _).mp hJoining with
    ⟨s', hRest, hIdle⟩
  have hEnd :=
    stop_returns hReach (by rw [hPc]; trivial)
      (by rw [hPc]; decide) joining s' hRest
  exact ⟨s, hReach, hEnd.1, s', hRest, of_decide_eq_true hIdle,
    hEnd.2⟩

end Sender

end Nkurdt
