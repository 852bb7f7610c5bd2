import Nkurdt.Sender.Deadlock

/-
  The five mutexes of the sender and the order in which they
  are taken.

  Where a thread is says which mutexes it holds and which one
  it wants next. All threads take the mutexes in the order
  state, pool, acknowledged set, queue, window, timer, but
  for one place: `send_handler` wants `state_mutex_` while it
  holds the pool. So a thread that waits for a mutex waits in
  the end for one that can go on, or for that place, and
  there the only circle is the one with a call that wants the
  pool under `state_mutex_`.

  Main declarations:
    * `Mutex`
    * `Sender.Holds`
    * `Sender.wants`
    * `Sender.MutexesOwned`
    * `Sender.mutexesOwned_step`
    * `Sender.CanGoOn`
    * `Sender.waits_end`
-/

------------------------------------------------------------
-- Mutexes Held and Wanted
------------------------------------------------------------

namespace Nkurdt

inductive Mutex where
| state
| packetPool
| ackedSeqSet
| queue
| window
deriving DecidableEq

namespace Mutex

/- The place of a mutex in the order. -/
def rank : Mutex → Nat
| .state => 0
| .packetPool => 1
| .ackedSeqSet => 2
| .queue => 3
| .window => 4

theorem rank_le (mutex : Mutex) :
    mutex.rank ≤ 4 := by
  cases mutex <;> decide

end Mutex

namespace Locks

def owner (locks : Locks) : Mutex → Option Thread
| .state => locks.state
| .packetPool => locks.packetPool
| .ackedSeqSet => locks.ackedSeqSet
| .queue => locks.queue
| .window => locks.window

def assign
    (locks : Locks)
    (thread : Option Thread) : Mutex → Locks
| .state => { locks with state := thread }
| .packetPool => { locks with packetPool := thread }
| .ackedSeqSet => { locks with ackedSeqSet := thread }
| .queue => { locks with queue := thread }
| .window => { locks with window := thread }

theorem owner_assign
    (locks : Locks)
    (thread : Option Thread)
    (mutex : Mutex) :
    (locks.assign thread mutex).owner =
      Function.update locks.owner mutex thread := by
  funext other
  cases mutex <;> cases other <;> rfl

end Locks

/- A request is sent under `state_mutex_`. -/
def Transfer.held : Transfer → List Mutex
| .request _ => [.state]
| .data _ => []

namespace CallerPc

def held : CallerPc → List Mutex
| .enter _ => [.state]
| .waitWindow t => t.held
| .testRunning t => t.held
| .upperBound t => t.held
| .updateUpper t _ => t.held
| .lockPool t _ => t.held
| .emplace t _ => .packetPool :: t.held
| .push t _ => .packetPool :: t.held
| .unlockPool t => .packetPool :: t.held
| .check _ => [.state]
| .finish _ => [.state]
| _ => []

def wants : CallerPc → Option Mutex
| .lockState _ => some .state
| .relock _ => some .state
| .waitWindow _ => some .window
| .upperBound _ => some .window
| .updateUpper _ _ => some .window
| .waitZero => some .window
| .lockPool _ _ => some .packetPool
| .push _ _ => some .queue
| _ => none

end CallerPc

namespace SendPc

def held : SendPc → List Mutex
| .test => []
| .pop => []
| .lockPool _ => []
| .lockAcked _ => [.packetPool]
| .exhausted _ => [.state, .ackedSeqSet, .packetPool]
| .unlockState _ => [.state, .ackedSeqSet, .packetPool]
| .unlockPool _ => [.packetPool]
| .exit => []
| _ => [.ackedSeqSet, .packetPool]

def wants : SendPc → Option Mutex
| .pop => some .queue
| .lockPool _ => some .packetPool
| .lockAcked _ => some .ackedSeqSet
| .checkLower _ => some .window
| .readLower _ => some .window
| .readUpper _ _ => some .window
| .lockState _ => some .state
| _ => none

end SendPc

namespace RecvPc

def held : RecvPc → List Mutex
| .setState _ _ => [.state]
| .unlockState _ => [.state]
| .insertAck _ => [.ackedSeqSet]
| .compare _ => [.ackedSeqSet]
| .fastLower _ => [.ackedSeqSet]
| .fastUpper _ _ => [.ackedSeqSet]
| .lockQueue _ _ _ => [.ackedSeqSet]
| .pushAll _ _ _ => [.queue, .ackedSeqSet]
| .unlockQueue _ => [.queue, .ackedSeqSet]
| .countDup _ => [.ackedSeqSet]
| .less _ => [.ackedSeqSet]
| .setLower _ => [.ackedSeqSet]
| .eraseAck _ => [.ackedSeqSet]
| .slide => [.ackedSeqSet]
| .unlockAcked => [.ackedSeqSet]
| _ => []

def wants : RecvPc → Option Mutex
| .lockState _ _ => some .state
| .lockAcked _ => some .ackedSeqSet
| .compare _ => some .window
| .fastLower _ => some .window
| .fastUpper _ _ => some .window
| .lockQueue _ _ _ => some .queue
| .less _ => some .window
| .setLower _ => some .window
| .slide => some .window
| _ => none

end RecvPc

namespace TimeoutPc

def held : TimeoutPc → List Mutex
| .lockWindow => [.queue]
| .map => [.window, .queue]
| .unlockWindow => [.window, .queue]
| .unlockQueue => [.queue]
| _ => []

def wants : TimeoutPc → Option Mutex
| .readUpper => some .window
| .lockQueue => some .queue
| .lockWindow => some .window
| _ => none

end TimeoutPc

namespace Sender

/- The mutexes that a thread holds where it is. -/
def held (s : Sender) : Thread → List Mutex
| .caller => s.callerPc.held
| .sendHandler => s.sendPc.held
| .recvHandler => s.recvPc.held
| .timeoutHandler => s.timeoutPc.held

def Holds
    (s : Sender)
    (thread : Thread)
    (mutex : Mutex) : Prop :=
  mutex ∈ s.held thread

/- The mutex that its next step needs. -/
def wants (s : Sender) : Thread → Option Mutex
| .caller => s.callerPc.wants
| .sendHandler => s.sendPc.wants
| .recvHandler => s.recvPc.wants
| .timeoutHandler => s.timeoutPc.wants

/- One thread waits for another. -/
def WaitsFor (s : Sender) : Thread → Thread → Prop :=
  Mutexes.WaitsFor s.locks.owner s.wants

/- Every mutex is owned by the thread that holds it. -/
def MutexesOwned (s : Sender) : Prop :=
  Mutexes.Owned s.locks.owner s.Holds

theorem mutexesOwned_fresh
    (config : SenderConfig) :
    MutexesOwned (fresh config) := by
  intro thread mutex
  constructor
  · intro hOwner
    cases mutex <;> cases hOwner
  · intro hHolds
    cases thread <;> cases hHolds

end Sender

end Nkurdt

------------------------------------------------------------
-- Turns of the Threads
------------------------------------------------------------

namespace Nkurdt

namespace Sender

open Mutexes

section Locking

variable {locks : Locks}
variable {thread : Thread}
variable {held held' : List Mutex}

/- A step that locks a mutex, and one that unlocks it. -/
theorem turn_lock
    (mutex : Mutex)
    (hFree : locks.owner mutex = none)
    (hHeld : held' = mutex :: held) :
    Turn locks.owner (locks.assign (some thread) mutex).owner
      thread (· ∈ held) (· ∈ held') :=
  .push hFree (Locks.owner_assign locks _ mutex) hHeld

theorem turn_unlock
    (mutex : Mutex)
    (hHeld : held = mutex :: held')
    (hOnce : mutex ∉ held') :
    Turn locks.owner (locks.assign none mutex).owner thread
      (· ∈ held) (· ∈ held') :=
  .pop (Locks.owner_assign locks none mutex) hHeld hOnce

end Locking

/- `send_packet` returns with what it was called with. -/
theorem held_after
    (t : Transfer) :
    t.after.held = t.held := by
  cases t <;> rfl

theorem packetPool_not_held
    (t : Transfer) :
    .packetPool ∉ t.held := by
  cases t <;> simp [Transfer.held]

theorem turn_callerStep
    {s s' : Sender}
    (hStep : s.callerStep = some s') :
    Turn s.locks.owner s'.locks.owner .caller
      (s.Holds .caller) (s'.Holds .caller) := by
  unfold Holds held
  cases callerStep_branch hStep with
  | locksState hPc hFree | relocks hPc hFree =>
      rw [hPc]
      exact turn_lock .state hFree rfl
  | locksPool hPc hFree =>
      rw [hPc]
      exact turn_lock .packetPool hFree rfl
  | unlocksPool hPc =>
      rw [hPc]
      refine turn_unlock .packetPool
        (congrArg _ (held_after _).symm) ?_
      rw [held_after]
      exact packetPool_not_held _
  | waits hPc | fails hPc | succeeds hPc | opens hPc =>
      rw [hPc]
      exact turn_unlock .state rfl List.not_mem_nil
  | abandons hPc =>
      rw [hPc]
      refine .keep rfl ?_
      rw [held_after]
      exact fun _ => Iff.rfl
  | _ hPc =>
      rw [hPc]
      exact .keep rfl (fun _ => Iff.rfl)

theorem turn_sendHandlerStep
    {s s' : Sender}
    (hStep : s.sendHandlerStep = some s') :
    Turn s.locks.owner s'.locks.owner .sendHandler
      (s.Holds .sendHandler) (s'.Holds .sendHandler) := by
  unfold Holds held
  cases sendHandlerStep_branch hStep with
  | locksPool hPc hFree =>
      rw [hPc]
      exact turn_lock .packetPool hFree rfl
  | locksAcked hPc hFree =>
      rw [hPc]
      exact turn_lock .ackedSeqSet hFree rfl
  | locksState hPc hFree =>
      rw [hPc]
      exact turn_lock .state hFree rfl
  | unlocksState hPc =>
      rw [hPc]
      exact turn_unlock .state rfl (by simp [SendPc.held])
  | unlocksAcked hPc =>
      rw [hPc]
      exact turn_unlock .ackedSeqSet rfl (by simp [SendPc.held])
  | leaves hPc | unlocksPool hPc =>
      rw [hPc]
      exact turn_unlock .packetPool rfl (by simp [SendPc.held])
  | _ hPc =>
      rw [hPc]
      exact .keep rfl (fun _ => Iff.rfl)

theorem turn_recvHandlerStep
    {s s' : Sender}
    (hStep : s.recvHandlerStep = some s') :
    Turn s.locks.owner s'.locks.owner .recvHandler
      (s.Holds .recvHandler) (s'.Holds .recvHandler) := by
  unfold Holds held
  cases recvHandlerStep_branch hStep with
  | locksState hPc hFree =>
      rw [hPc]
      exact turn_lock .state hFree rfl
  | locksAcked hPc hFree =>
      rw [hPc]
      exact turn_lock .ackedSeqSet hFree rfl
  | locksQueue hPc hFree =>
      rw [hPc]
      exact turn_lock .queue hFree rfl
  | unlocksState hPc =>
      rw [hPc]
      exact turn_unlock .state rfl (by simp [RecvPc.held])
  | unlocksQueue hPc =>
      rw [hPc]
      exact turn_unlock .queue rfl (by simp [RecvPc.held])
  | unlocksAcked hPc =>
      rw [hPc]
      exact turn_unlock .ackedSeqSet rfl (by simp [RecvPc.held])
  | _ hPc =>
      rw [hPc]
      exact .keep rfl (fun _ => Iff.rfl)

theorem turn_timeoutHandlerStep
    {s s' : Sender}
    (hStep : s.timeoutHandlerStep = some s') :
    Turn s.locks.owner s'.locks.owner .timeoutHandler
      (s.Holds .timeoutHandler)
      (s'.Holds .timeoutHandler) := by
  unfold Holds held
  cases timeoutHandlerStep_branch hStep with
  | locksQueue hPc hFree =>
      rw [hPc]
      exact turn_lock .queue hFree rfl
  | locksWindow hPc hFree =>
      rw [hPc]
      exact turn_lock .window hFree rfl
  | unlocksWindow hPc =>
      rw [hPc]
      exact turn_unlock .window rfl (by simp [TimeoutPc.held])
  | unlocksQueue hPc =>
      rw [hPc]
      exact turn_unlock .queue rfl (by simp [TimeoutPc.held])
  | _ hPc =>
      rw [hPc]
      exact .keep rfl (fun _ => Iff.rfl)

end Sender

end Nkurdt

------------------------------------------------------------
-- Owners in Every Run
------------------------------------------------------------

namespace Nkurdt

namespace Sender

open Mutexes

/- A waiting caller holds nothing, asleep or awake. -/
theorem held_of_wake
    {pc pc' : CallerPc}
    (hCaller : pc' = pc ∨ pc' = wake pc) :
    pc'.held = pc.held := by
  rcases hCaller with rfl | rfl
  · rfl
  · cases pc <;> rfl

/- The threads hold what they held before. -/
theorem holds_of_same
    {s s' : Sender}
    {thread : Thread}
    (hCaller :
      thread = .caller →
        s'.callerPc.held = s.callerPc.held)
    (hSend :
      thread = .sendHandler → s'.sendPc = s.sendPc)
    (hRecv :
      thread = .recvHandler →
        s'.recvPc.held = s.recvPc.held)
    (hTimeout :
      thread = .timeoutHandler →
        s'.timeoutPc = s.timeoutPc)
    (m : Mutex) :
    s'.Holds thread m ↔ s.Holds thread m := by
  unfold Holds held
  cases thread with
  | caller =>
      dsimp only
      rw [hCaller rfl]
  | sendHandler =>
      dsimp only
      rw [hSend rfl]
  | recvHandler =>
      dsimp only
      rw [hRecv rfl]
  | timeoutHandler =>
      dsimp only
      rw [hTimeout rfl]

/- A step in which no thread moves past a lock. -/
theorem MutexesOwned.congr
    {s s' : Sender}
    (hOwned : MutexesOwned s)
    (hLocks : s'.locks = s.locks)
    (hCaller : s'.callerPc.held = s.callerPc.held)
    (hSend : s'.sendPc = s.sendPc)
    (hRecv : s'.recvPc.held = s.recvPc.held)
    (hTimeout : s'.timeoutPc = s.timeoutPc) :
    MutexesOwned s' := by
  unfold MutexesOwned
  rw [hLocks]
  exact Owned.congr hOwned rfl (fun _ =>
    holds_of_same (fun _ => hCaller) (fun _ => hSend)
      (fun _ => hRecv) (fun _ => hTimeout))

theorem mutexesOwned_threadStep
    {s s' : Sender}
    {thread : Thread}
    (hOwned : MutexesOwned s)
    (hStep : s.threadStep thread = some s') :
    MutexesOwned s' := by
  cases thread with
  | caller =>
      have hKeeps := callerStep_keeps hStep
      apply Owned.turn hOwned (turn_callerStep hStep)
      intro other hOther
      exact holds_of_same (fun hSelf => absurd hSelf hOther)
        (fun _ => hKeeps.sendPc)
        (fun _ => by rw [hKeeps.recvPc])
        (fun _ => hKeeps.timeoutPc)
  | sendHandler =>
      have hKeeps := sendHandlerStep_keeps hStep
      apply Owned.turn hOwned (turn_sendHandlerStep hStep)
      intro other hOther
      exact holds_of_same
        (fun _ => held_of_wake hKeeps.callerPc)
        (fun hSelf => absurd hSelf hOther)
        (fun _ => by rw [hKeeps.recvPc])
        (fun _ => hKeeps.timeoutPc)
  | recvHandler =>
      have hKeeps := recvHandlerStep_keeps hStep
      apply Owned.turn hOwned (turn_recvHandlerStep hStep)
      intro other hOther
      exact holds_of_same
        (fun _ => held_of_wake hKeeps.callerPc)
        (fun _ => hKeeps.sendPc)
        (fun hSelf => absurd hSelf hOther)
        (fun _ => hKeeps.timeoutPc)
  | timeoutHandler =>
      have hKeeps := timeoutHandlerStep_keeps hStep
      apply Owned.turn hOwned (turn_timeoutHandlerStep hStep)
      intro other hOther
      exact holds_of_same
        (fun _ => by rw [hKeeps.callerPc])
        (fun _ => hKeeps.sendPc)
        (fun _ => by rw [hKeeps.recvPc])
        (fun hSelf => absurd hSelf hOther)

/- Every step keeps the owners right. -/
theorem mutexesOwned_step
    {s s' : Sender}
    {action : Action}
    (hOwned : MutexesOwned s)
    (hStep : s.step action = some s') :
    MutexesOwned s' := by
  cases action with
  | call call =>
      unfold step callStep at hStep
      dsimp only at hStep
      split_ifs at hStep with hIdle
      have hNothing : s.callerPc.held = [] := by
        rw [hIdle]
        rfl
      cases call
      all_goals
        rw [← Option.some.inj hStep]
        exact hOwned.congr rfl hNothing.symm rfl rfl rfl
  | thread thread => exact mutexesOwned_threadStep hOwned hStep
  | timer =>
      rcases Option.map_eq_some_iff.mp hStep with
        ⟨timer, _, rfl⟩
      exact hOwned.congr rfl rfl rfl rfl rfl
  | recv result =>
      have hKeeps := recvStep_keeps hStep
      apply hOwned.congr hKeeps.locks
        (held_of_wake hKeeps.callerPc) hKeeps.sendPc ?_
        hKeeps.timeoutPc
      rw [hKeeps.recvPc]
      rcases hKeeps.next with ⟨bytes, hNext⟩ | hNext
      · rw [hNext]
        rfl
      · rw [hNext]
        rfl
  | tick duration =>
      rw [← Option.some.inj hStep]
      exact hOwned.congr rfl rfl rfl rfl rfl
  | wakeCaller =>
      rw [← Option.some.inj hStep]
      exact hOwned.congr rfl (held_of_wake (Or.inr rfl)) rfl
        rfl rfl
  | wakeTimer =>
      rw [← Option.some.inj hStep]
      exact hOwned.congr rfl rfl rfl rfl rfl

end Sender

end Nkurdt

------------------------------------------------------------
-- The Order of the Mutexes
------------------------------------------------------------

namespace Nkurdt

namespace Sender

open Mutexes

/- `send_handler` reports retries that are used up. -/
def Reporting (s : Sender) (thread : Thread) : Prop :=
  thread = .sendHandler ∧ s.sendPc.WaitsForState

theorem rank_lt_caller
    (pc : CallerPc) :
    ∀ mutex ∈ pc.wants, ∀ held ∈ pc.held,
      held.rank < mutex.rank := by
  cases pc
  case waitWindow t | upperBound t | updateUpper t _ =>
    cases t <;>
      simp [CallerPc.wants, CallerPc.held, Transfer.held,
        Mutex.rank]
  case lockPool t _ | push t _ =>
    cases t <;>
      simp [CallerPc.wants, CallerPc.held, Transfer.held,
        Mutex.rank]
  all_goals simp [CallerPc.wants, CallerPc.held]

theorem rank_lt_sendHandler
    {pc : SendPc}
    (hOther : ¬ pc.WaitsForState) :
    ∀ mutex ∈ pc.wants, ∀ held ∈ pc.held,
      held.rank < mutex.rank := by
  cases pc
  case lockState seq => exact absurd trivial hOther
  all_goals simp [SendPc.wants, SendPc.held, Mutex.rank]

theorem rank_lt_recvHandler
    (pc : RecvPc) :
    ∀ mutex ∈ pc.wants, ∀ held ∈ pc.held,
      held.rank < mutex.rank := by
  cases pc
  all_goals simp [RecvPc.wants, RecvPc.held, Mutex.rank]

theorem rank_lt_timeoutHandler
    (pc : TimeoutPc) :
    ∀ mutex ∈ pc.wants, ∀ held ∈ pc.held,
      held.rank < mutex.rank := by
  cases pc
  all_goals
    simp [TimeoutPc.wants, TimeoutPc.held, Mutex.rank]

/- Everywhere else a mutex is taken above all that are held. -/
theorem rank_lt_of_wants
    {s : Sender}
    {thread : Thread}
    {mutex held : Mutex}
    (hOther : ¬ s.Reporting thread)
    (hWants : s.wants thread = some mutex)
    (hHolds : s.Holds thread held) :
    held.rank < mutex.rank := by
  cases thread with
  | caller =>
      exact rank_lt_caller s.callerPc mutex hWants held hHolds
  | sendHandler =>
      have hPc : ¬ s.sendPc.WaitsForState :=
        fun hWaits => hOther ⟨rfl, hWaits⟩
      exact rank_lt_sendHandler hPc mutex hWants held hHolds
  | recvHandler =>
      exact rank_lt_recvHandler s.recvPc mutex hWants held
        hHolds
  | timeoutHandler =>
      exact rank_lt_timeoutHandler s.timeoutPc mutex hWants
        held hHolds

/-
  The next step of the thread takes the timer's mutex: in
  `register_event` or `remove_event`, in the wait for timed
  out events or their `map`, or in `stop` of the timer.
-/
def WantsTimer (s : Sender) : Thread → Prop
| .caller => s.callerPc = .stopTimer
| .sendHandler =>
    ∃ seq, s.sendPc = .register seq ∨
      s.sendPc = .removeEvent seq
| .recvHandler => False
| .timeoutHandler =>
    s.timeoutPc = .wait ∨ s.timeoutPc = .map

/-
  The thread can go on, or it wants the timer's mutex and
  the timer's thread, which is inside, can.
-/
def CanGoOn (s : Sender) (thread : Thread) : Prop :=
  (s.threadStep thread).isSome ∨
    s.WantsTimer thread ∧ ¬ s.timer.MutexFree ∧
      (s.timer.threadStep s.clock).isSome

/- The timer's thread never stops inside its mutex. -/
theorem timer_canGoOn
    {s : Sender}
    (hTaken : ¬ s.timer.MutexFree) :
    (s.timer.threadStep s.clock).isSome := by
  unfold ConcurrentTimer.MutexFree at hTaken
  unfold ConcurrentTimer.threadStep
  cases hPc : s.timer.threadPc with
  | expire last =>
      dsimp only
      split
      · rfl
      · split_ifs <;> rfl
  | _ =>
      rw [hPc] at hTaken
      exact absurd trivial hTaken

theorem isSome_whenFree
    {owner : Option Thread}
    {next : Sender}
    (hFree : owner = none) :
    (whenFree owner next).isSome := by
  unfold whenFree
  rw [if_pos hFree]
  rfl

theorem isSome_whenTimerFree
    {s next : Sender}
    {thread : Thread}
    (hWants : s.WantsTimer thread) :
    (whenTimerFree s next).isSome ∨
      s.WantsTimer thread ∧ ¬ s.timer.MutexFree ∧
        (s.timer.threadStep s.clock).isSome := by
  unfold whenTimerFree
  by_cases hFree : s.timer.MutexFree
  · rw [if_pos hFree]
    exact Or.inl rfl
  · exact Or.inr ⟨hWants, hFree, timer_canGoOn hFree⟩

/-
  A thread that holds a mutex and wants none that is taken
  can go on.
-/
theorem canGoOn_of_holds
    {s : Sender}
    {thread : Thread}
    {held : Mutex}
    (hHolds : s.Holds thread held)
    (hFree :
      ∀ mutex, s.wants thread = some mutex →
        s.locks.owner mutex = none) :
    s.CanGoOn thread := by
  unfold Holds Sender.held at hHolds
  unfold wants at hFree
  unfold CanGoOn threadStep
  cases thread with
  | caller =>
      left
      dsimp only at hHolds hFree ⊢
      unfold callerStep
      cases hPc : s.callerPc with
      | waitWindow t | upperBound t | updateUpper t seq =>
          rw [hPc] at hFree
          exact isSome_whenFree (hFree .window rfl)
      | lockPool t seq =>
          rw [hPc] at hFree
          exact isSome_whenFree (hFree .packetPool rfl)
      | push t seq =>
          rw [hPc] at hFree
          exact isSome_whenFree (hFree .queue rfl)
      | enter r | check r =>
          dsimp only
          split_ifs <;> rfl
      | testRunning t | emplace t seq | unlockPool t => rfl
      | finish r => rfl
      | _ =>
          rw [hPc] at hHolds
          cases hHolds
  | sendHandler =>
      dsimp only at hHolds hFree ⊢
      unfold sendHandlerStep
      cases hPc : s.sendPc with
      | lockAcked seq =>
          rw [hPc] at hFree
          exact Or.inl
            (isSome_whenFree (hFree .ackedSeqSet rfl))
      | checkLower seq | readLower seq | readUpper seq lower =>
          rw [hPc] at hFree
          exact Or.inl (isSome_whenFree (hFree .window rfl))
      | lockState seq =>
          rw [hPc] at hFree
          exact Or.inl (isSome_whenFree (hFree .state rfl))
      | register seq =>
          exact isSome_whenTimerFree ⟨seq, Or.inl hPc⟩
      | removeEvent seq =>
          exact isSome_whenTimerFree ⟨seq, Or.inr hPc⟩
      | checkAcked seq =>
          dsimp only
          split_ifs <;> exact Or.inl rfl
      | retry seq =>
          dsimp only
          cases s.retryCount seq with
          | none => exact Or.inl rfl
          | some count =>
              dsimp only
              split_ifs <;> exact Or.inl rfl
      | transmit seq =>
          dsimp only
          cases s.packetPool seq <;> exact Or.inl rfl
      | exhausted seq | unlockState leave => exact Or.inl rfl
      | unlockAcked leave | unlockPool leave =>
          exact Or.inl rfl
      | _ =>
          rw [hPc] at hHolds
          cases hHolds
  | recvHandler =>
      left
      dsimp only at hHolds hFree ⊢
      unfold recvHandlerStep
      cases hPc : s.recvPc with
      | compare packet | fastLower packet =>
          rw [hPc] at hFree
          exact isSome_whenFree (hFree .window rfl)
      | fastUpper packet lower | less packet =>
          rw [hPc] at hFree
          exact isSome_whenFree (hFree .window rfl)
      | setLower packet | slide =>
          rw [hPc] at hFree
          exact isSome_whenFree (hFree .window rfl)
      | lockQueue packet lower upper =>
          rw [hPc] at hFree
          exact isSome_whenFree (hFree .queue rfl)
      | setState target packet | unlockState packet => rfl
      | insertAck packet | pushAll packet lower upper => rfl
      | unlockQueue packet | countDup packet => rfl
      | eraseAck packet | unlockAcked => rfl
      | _ =>
          rw [hPc] at hHolds
          cases hHolds
  | timeoutHandler =>
      dsimp only at hHolds hFree ⊢
      unfold timeoutHandlerStep
      cases hPc : s.timeoutPc with
      | lockWindow =>
          rw [hPc] at hFree
          exact Or.inl (isSome_whenFree (hFree .window rfl))
      | map => exact isSome_whenTimerFree (Or.inr hPc)
      | unlockWindow | unlockQueue => exact Or.inl rfl
      | _ =>
          rw [hPc] at hHolds
          cases hHolds

end Sender

end Nkurdt

------------------------------------------------------------
-- The End of a Wait
------------------------------------------------------------

namespace Nkurdt

namespace Sender

open Mutexes
open Runs

/- Whoever is waited for holds a mutex. -/
theorem exists_holds_of_chain
    {s : Sender}
    {thread last : Thread}
    {held : Mutex}
    (hOwned : MutexesOwned s)
    (hHolds : s.Holds thread held)
    (hChain : Relation.ReflTransGen s.WaitsFor thread last) :
    ∃ mutex, s.Holds last mutex := by
  cases hChain with
  | refl => exact ⟨held, hHolds⟩
  | tail _ hWaits =>
      rcases hWaits with ⟨mutex, _, hOwner⟩
      exact ⟨mutex, (hOwned last mutex).mp hOwner⟩

/- What each thread ever holds. -/
theorem caller_holds
    {pc : CallerPc}
    {mutex : Mutex}
    (hHeld : mutex ∈ pc.held) :
    mutex = .state ∨ mutex = .packetPool := by
  have hTransfer (t : Transfer) (hRequest : mutex ∈ t.held) :
      mutex = .state := by
    cases t with
    | request r => exact List.mem_singleton.mp hRequest
    | data payload => cases hRequest
  cases pc
  case enter r | check r | finish r =>
    exact Or.inl (List.mem_singleton.mp hHeld)
  case waitWindow t | testRunning t | upperBound t =>
    exact Or.inl (hTransfer t hHeld)
  case updateUpper t _ | lockPool t _ =>
    exact Or.inl (hTransfer t hHeld)
  case emplace t _ | push t _ | unlockPool t =>
    exact (List.mem_cons.mp hHeld).symm.imp_left
      (hTransfer t)
  all_goals cases hHeld

theorem sendHandler_holds
    {pc : SendPc}
    {mutex : Mutex}
    (hHeld : mutex ∈ pc.held) :
    mutex = .state ∨ mutex = .ackedSeqSet ∨
      mutex = .packetPool := by
  cases pc <;> simp_all [SendPc.held]

theorem recvHandler_holds
    {pc : RecvPc}
    {mutex : Mutex}
    (hHeld : mutex ∈ pc.held) :
    mutex = .state ∨ mutex = .ackedSeqSet ∨
      mutex = .queue := by
  cases pc <;> simp_all [RecvPc.held, or_comm]

theorem timeoutHandler_holds
    {pc : TimeoutPc}
    {mutex : Mutex}
    (hHeld : mutex ∈ pc.held) :
    mutex = .queue ∨ mutex = .window := by
  cases pc <;> simp_all [TimeoutPc.held, or_comm]

/- Only `timeout_handler` keeps the window. -/
theorem eq_of_holds_window
    {s : Sender}
    {thread : Thread}
    (hHolds : s.Holds thread .window) :
    thread = .timeoutHandler := by
  cases thread with
  | caller => simpa using caller_holds hHolds
  | sendHandler => simpa using sendHandler_holds hHolds
  | recvHandler => simpa using recvHandler_holds hHolds
  | timeoutHandler => rfl

/-
  A thread that holds the queue or the window waits for
  nobody.
-/
theorem free_of_holds_queue
    {s : Sender}
    {thread : Thread}
    (hOwned : MutexesOwned s)
    (hHolds :
      s.Holds thread .queue ∨ s.Holds thread .window) :
    ∀ mutex, s.wants thread = some mutex →
      s.locks.owner mutex = none := by
  intro mutex hWants
  cases thread with
  | caller =>
      rcases hHolds with hHeld | hHeld
      · simpa using caller_holds hHeld
      · simpa using caller_holds hHeld
  | sendHandler =>
      rcases hHolds with hHeld | hHeld
      · simpa using sendHandler_holds hHeld
      · simpa using sendHandler_holds hHeld
  | recvHandler =>
      have hQueue : .queue ∈ s.recvPc.held := by
        rcases hHolds with hHeld | hHeld
        · exact hHeld
        · simpa using recvHandler_holds hHeld
      change s.recvPc.wants = some mutex at hWants
      cases hPc : s.recvPc
      case pushAll | unlockQueue =>
        rw [hPc] at hWants
        cases hWants
      all_goals simp [hPc, RecvPc.held] at hQueue
  | timeoutHandler =>
      change s.timeoutPc.wants = some mutex at hWants
      by_contra hTaken
      rcases Option.ne_none_iff_exists'.mp hTaken with
        ⟨owner, hOwner⟩
      have hOther := (hOwned owner mutex).mp hOwner
      cases hPc : s.timeoutPc
      case lockWindow =>
        rw [hPc] at hWants
        cases hWants
        have hSelf := eq_of_holds_window hOther
        subst hSelf
        unfold Holds held at hOther
        rw [hPc] at hOther
        simp [TimeoutPc.held] at hOther
      case map | unlockWindow | unlockQueue =>
        rw [hPc] at hWants
        cases hWants
      all_goals
        unfold Holds held at hHolds
        rw [hPc] at hHolds
        simp [TimeoutPc.held] at hHolds

/-
  A call that holds `state_mutex_` and has to wait for a
  mutex wants the pool, or it waits for a thread that can go
  on.
-/
theorem caller_waits
    {s : Sender}
    {other : Thread}
    (hOwned : MutexesOwned s)
    (hState : s.Holds .caller .state)
    (hWaits : s.WaitsFor .caller other) :
    s.callerPc.WaitsForPool ∧
        s.locks.packetPool = some other ∨
      s.CanGoOn other := by
  rcases hWaits with ⟨mutex, hWants, hOwner⟩
  have hHolds := (hOwned other mutex).mp hOwner
  have hRank :=
    rank_lt_caller s.callerPc mutex hWants .state hState
  cases mutex with
  | state => exact absurd hRank (lt_irrefl _)
  | packetPool =>
      left
      refine ⟨?_, hOwner⟩
      change s.callerPc.wants = _ at hWants
      unfold Holds held at hState
      cases hPc : s.callerPc
      case lockPool t seq =>
        rw [hPc] at hState
        cases t with
        | request r => trivial
        | data payload => cases hState
      all_goals
        rw [hPc] at hWants
        cases hWants
  | ackedSeqSet =>
      change s.callerPc.wants = _ at hWants
      cases hPc : s.callerPc
      all_goals
        rw [hPc] at hWants
        cases hWants
  | queue =>
      exact Or.inr (canGoOn_of_holds hHolds
        (free_of_holds_queue hOwned (Or.inl hHolds)))
  | window =>
      exact Or.inr (canGoOn_of_holds hHolds
        (free_of_holds_queue hOwned (Or.inr hHolds)))

/-
  `send_handler` with used-up retries in hand: it can go on,
  or the owner of `state_mutex_` can, or whoever that waits
  for, or it is the deadlock of a call.
-/
theorem reporting_waits
    {s : Sender}
    (hOwned : MutexesOwned s)
    (hWaits : s.sendPc.WaitsForState) :
    s.Deadlocked ∨
      ∃ last,
        Relation.ReflTransGen s.WaitsFor .sendHandler last ∧
          s.CanGoOn last := by
  have hPc : ∃ seq, s.sendPc = .lockState seq := by
    cases hCase : s.sendPc
    case lockState seq => exact ⟨seq, rfl⟩
    all_goals
      rw [hCase] at hWaits
      exact hWaits.elim
  rcases hPc with ⟨seq, hPc⟩
  have hWants : s.wants .sendHandler = some .state := by
    unfold wants
    dsimp only
    rw [hPc]
    rfl
  have hPool : s.Holds .sendHandler .packetPool := by
    unfold Holds held
    dsimp only
    rw [hPc]
    simp [SendPc.held]
  cases hOwner : s.locks.state with
  | none =>
      refine Or.inr ⟨.sendHandler, .refl,
        canGoOn_of_holds hPool ?_⟩
      intro mutex hMutex
      rw [hWants] at hMutex
      cases hMutex
      exact hOwner
  | some owner =>
      have hLink : s.WaitsFor .sendHandler owner :=
        ⟨.state, hWants, hOwner⟩
      have hHolds := (hOwned owner .state).mp hOwner
      by_cases hFree :
          ∀ mutex, s.wants owner = some mutex →
            s.locks.owner mutex = none
      · exact Or.inr ⟨owner, .single hLink,
          canGoOn_of_holds hHolds hFree⟩
      · push Not at hFree
        rcases hFree with ⟨mutex, hMutex, hTaken⟩
        rcases Option.ne_none_iff_exists'.mp hTaken with
          ⟨next, hNext⟩
        have hMore : s.WaitsFor owner next :=
          ⟨mutex, hMutex, hNext⟩
        cases owner with
        | caller =>
            rcases caller_waits hOwned hHolds hMore with
              ⟨hCircle, hPoolOwner⟩ | hGoesOn
            · have hMine :=
                (hOwned .sendHandler .packetPool).mpr hPool
              exact Or.inl ⟨hOwner,
                Or.inr ⟨hCircle, hMine, hWaits⟩⟩
            · exact Or.inr ⟨next,
                (Relation.ReflTransGen.single hLink).tail
                  hMore, hGoesOn⟩
        | sendHandler =>
            unfold Holds held at hHolds
            rw [hPc] at hHolds
            simp [SendPc.held] at hHolds
        | recvHandler =>
            exfalso
            change s.recvPc.wants = _ at hMutex
            unfold Holds held at hHolds
            cases hRecv : s.recvPc
            case setState | unlockState =>
              rw [hRecv] at hMutex
              cases hMutex
            all_goals
              rw [hRecv] at hHolds
              simp [RecvPc.held] at hHolds
        | timeoutHandler =>
            simpa using timeoutHandler_holds hHolds

/-
  Whoever waits for a mutex waits in the end for a thread
  that can go on, or there is the deadlock.
-/
theorem exists_canGoOn_of_waits
    {s : Sender}
    {thread other : Thread}
    (hOwned : MutexesOwned s)
    (hWaits : s.WaitsFor thread other) :
    s.Deadlocked ∨
      ∃ last,
        Relation.ReflTransGen s.WaitsFor other last ∧
          s.CanGoOn last := by
  rcases hWaits with ⟨mutex, _, hOwner⟩
  have hHolds := (hOwned other mutex).mp hOwner
  have hOrder
      (thread : Thread)
      (mutex held : Mutex)
      (hOther : ¬ s.Reporting thread)
      (hWants : s.wants thread = some mutex)
      (hHeld : s.Holds thread held) :
      held.rank < mutex.rank :=
    rank_lt_of_wants hOther hWants hHeld
  rcases Owned.exists_last hOwned Mutex.rank_le hOrder
      other with
    ⟨last, hChain, ⟨rfl, hReports⟩ | hFree⟩
  · rcases reporting_waits hOwned hReports with
      hDeadlocked | ⟨next, hMore, hGoesOn⟩
    · exact Or.inl hDeadlocked
    · exact Or.inr ⟨next, hChain.trans hMore, hGoesOn⟩
  · rcases exists_holds_of_chain hOwned hHolds hChain with
      ⟨held, hHeld⟩
    exact Or.inr
      ⟨last, hChain, canGoOn_of_holds hHeld hFree⟩

theorem mutexesOwned_of_reaches
    {config : SenderConfig}
    {s : Sender}
    (hReach :
      Reaches step (fun _ _ _ => True) (fresh config) s) :
    MutexesOwned s :=
  hReach.invariant (mutexesOwned_fresh config)
    (fun _ _ _ hCurrent hNext _ =>
      mutexesOwned_step hCurrent hNext)

/-
  In every run each mutex is owned by the thread that holds
  it. A thread that waits for a mutex waits in the end for a
  thread that can go on, unless a call and `send_handler`
  are in the deadlock over the pool and `state_mutex_`: the
  sender has no other circle of waiting threads.
-/
theorem waits_end
    {config : SenderConfig}
    {s : Sender}
    (hReach :
      Reaches step (fun _ _ _ => True) (fresh config) s) :
    (∀ thread mutex,
        s.locks.owner mutex = some thread ↔
          s.Holds thread mutex) ∧
      ∀ thread other, s.WaitsFor thread other →
        s.Deadlocked ∨
          ∃ last,
            Relation.ReflTransGen s.WaitsFor other last ∧
              s.CanGoOn last := by
  have hOwned := mutexesOwned_of_reaches hReach
  exact ⟨hOwned, fun _ _ hWaits =>
    exists_canGoOn_of_waits hOwned hWaits⟩

/-
  `recv_handler` waits for `state_mutex_`, which a call of
  `disconnect` holds that waits for the pool, and
  `send_handler` has the pool and can go on.
-/
theorem waits_end_waiting :
    ∃ s,
      Reaches step (fun _ _ _ => True)
        (fresh ⟨2, 0, 1, false, false⟩) s ∧
      s.WaitsFor .recvHandler .caller ∧
      s.WaitsFor .caller .sendHandler ∧
      (∀ thread mutex,
          s.locks.owner mutex = some thread ↔
            s.Holds thread mutex) ∧
        ∃ last,
          Relation.ReflTransGen s.WaitsFor .caller last ∧
            s.CanGoOn last := by
  have hRun :
      ∃ s,
        Reaches step (fun _ _ _ => True)
          (fresh ⟨2, 0, 1, false, false⟩) s ∧
        (s.wants .recvHandler = some .state ∧
          s.locks.owner .state = some .caller ∧
          s.wants .caller = some .packetPool ∧
          s.locks.owner .packetPool = some .sendHandler ∧
          ¬ s.Deadlocked) :=
    exists_reaches_of_runActions
      ([Action.call (.connect ⟨0, 1⟩)] ++ steps .caller 10 ++
        steps .sendHandler 3 ++ steps .recvHandler 1 ++
        [Action.recv (.datagram
          (Packet.toBytes ⟨version, .connAck, 1, []⟩)
          ⟨0, 1⟩)] ++
        steps .recvHandler 14 ++ steps .caller 3 ++
        [Action.call .disconnect] ++ steps .caller 5 ++
        [Action.recv (.datagram
          (Packet.toBytes ⟨version, .disconnAck, 2, []⟩)
          ⟨0, 1⟩)] ++
        steps .recvHandler 2)
      (by decide +kernel)
  rcases hRun with
    ⟨s, hReach, hState, hCaller, hPool, hSender, hLive⟩
  have hRecvWaits : s.WaitsFor .recvHandler .caller :=
    ⟨.state, hState, hCaller⟩
  have hCallerWaits : s.WaitsFor .caller .sendHandler :=
    ⟨.packetPool, hPool, hSender⟩
  have hEnd := waits_end hReach
  exact ⟨s, hReach, hRecvWaits, hCallerWaits, hEnd.1,
    (hEnd.2 .recvHandler .caller hRecvWaits).resolve_left
      hLive⟩

end Sender

end Nkurdt
