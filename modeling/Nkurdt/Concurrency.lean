import Nkurdt.Library.Containers
import Nkurdt.Packet.Codec

/-
  The concurrent window, queue and timer.

  Each operation is what the program does under the mutex of
  the object. Where the mutexes matter, the steps that use
  these operations ask whether the mutex is free; the timer
  thread is the only owner that keeps its mutex from one
  step to the next, while it expires events.

  Main declarations:
    * `ConcurrentWindow`
    * `ConcurrentQueue`
    * `TimerPc`
    * `ConcurrentTimer`
    * `ConcurrentTimer.threadStep`
-/

------------------------------------------------------------
-- Window
------------------------------------------------------------

namespace Nkurdt

/- The used numbers, from a lower up to an upper bound. -/
structure ConcurrentWindow where
  window : Nat × Nat
  maxWindowSize : Nat

namespace ConcurrentWindow

/- `set_window`. -/
def setWindow
    (w : ConcurrentWindow)
    (lower upper : Nat) : ConcurrentWindow :=
  { w with window := (lower, upper) }

def lowerBound (w : ConcurrentWindow) : Nat :=
  w.window.1

def upperBound (w : ConcurrentWindow) : Nat :=
  w.window.2

def setLowerBound
    (w : ConcurrentWindow)
    (lower : Nat) : ConcurrentWindow :=
  { w with window := (lower, w.window.2) }

def updateLowerBound
    (w : ConcurrentWindow) : ConcurrentWindow :=
  { w with
    window := (SequenceNumber.update w.window.1, w.window.2) }

def updateUpperBound
    (w : ConcurrentWindow) : ConcurrentWindow :=
  { w with
    window := (w.window.1, SequenceNumber.update w.window.2) }

/- The predicate of `wait_window_available`. -/
def Available (w : ConcurrentWindow) : Prop :=
  SequenceNumber.sub w.window.2 w.window.1 <
    w.maxWindowSize % 2 ^ 32

instance (w : ConcurrentWindow) : Decidable w.Available :=
  inferInstanceAs (Decidable (_ < _))

/- The predicate of `wait_window_zero`. -/
def Zero (w : ConcurrentWindow) : Prop :=
  w.window.2 = w.window.1

instance (w : ConcurrentWindow) : Decidable w.Zero :=
  inferInstanceAs (Decidable (_ = _))

section Bounds

variable (w : ConcurrentWindow) (n : Nat)

@[simp] theorem lowerBound_setLowerBound :
    (w.setLowerBound n).lowerBound = n :=
  rfl

@[simp] theorem upperBound_setLowerBound :
    (w.setLowerBound n).upperBound = w.upperBound :=
  rfl

@[simp] theorem lowerBound_updateLowerBound :
    w.updateLowerBound.lowerBound =
      SequenceNumber.update w.lowerBound :=
  rfl

@[simp] theorem upperBound_updateLowerBound :
    w.updateLowerBound.upperBound = w.upperBound :=
  rfl

@[simp] theorem lowerBound_updateUpperBound :
    w.updateUpperBound.lowerBound = w.lowerBound :=
  rfl

@[simp] theorem upperBound_updateUpperBound :
    w.updateUpperBound.upperBound =
      SequenceNumber.update w.upperBound :=
  rfl

@[simp] theorem maxWindowSize_setLowerBound :
    (w.setLowerBound n).maxWindowSize = w.maxWindowSize :=
  rfl

@[simp] theorem maxWindowSize_updateLowerBound :
    w.updateLowerBound.maxWindowSize = w.maxWindowSize :=
  rfl

@[simp] theorem maxWindowSize_updateUpperBound :
    w.updateUpperBound.maxWindowSize = w.maxWindowSize :=
  rfl

end Bounds

end ConcurrentWindow

end Nkurdt

------------------------------------------------------------
-- Queue
------------------------------------------------------------

namespace Nkurdt

/- A queue is an ordered set: the least element goes first. -/
abbrev ConcurrentQueue (T : Type) [LinearOrder T] :=
  OrderedSet T id

namespace ConcurrentQueue

variable {T : Type} [LinearOrder T]

/- `push`, and `unsafe_push` under a lock taken before. -/
def push
    (queue : ConcurrentQueue T)
    (elem : T) : ConcurrentQueue T :=
  OrderedSet.insert queue elem

/- A loop of `unsafe_push`. -/
def pushAll
    (queue : ConcurrentQueue T)
    (elems : List T) : ConcurrentQueue T :=
  elems.foldl push queue

/- The element that `wait_pop` takes, and the rest. -/
def pop?
    (queue : ConcurrentQueue T) :
    Option (T × ConcurrentQueue T) :=
  (OrderedSet.first? queue).map fun elem =>
    (elem, OrderedSet.eraseFirst queue)

@[simp] theorem mem_push
    {queue : ConcurrentQueue T}
    {a b : T} :
    b ∈ queue.push a ↔ b ∈ queue ∨ b = a := by
  unfold push
  rw [OrderedSet.mem_insert_iff]
  constructor
  · exact Or.imp_right And.left
  · intro hCase
    by_cases hOld : a ∈ queue
    · rcases hCase with hMember | rfl
      · exact Or.inl hMember
      · exact Or.inl hOld
    · refine hCase.imp_right (fun hEqual => ⟨hEqual, ?_⟩)
      intro c hMember hKey
      have hSame : c = a := hKey
      exact hOld (hSame ▸ hMember)

@[simp] theorem mem_pushAll
    {queue : ConcurrentQueue T}
    {elems : List T}
    {b : T} :
    b ∈ queue.pushAll elems ↔ b ∈ queue ∨ b ∈ elems := by
  unfold pushAll
  induction elems generalizing queue with
  | nil =>
      simp
  | cons elem elems ih =>
      rw [List.foldl_cons, ih, mem_push, List.mem_cons,
        or_assoc]

/- What popping leaves is everything but the element. -/
theorem mem_of_pop?
    {queue rest : ConcurrentQueue T}
    {a b : T}
    (hPop : queue.pop? = some (a, rest)) :
    b ∈ queue ↔ b = a ∨ b ∈ rest := by
  unfold pop? at hPop
  rcases Option.map_eq_some_iff.mp hPop with
    ⟨first, hFirst, hPair⟩
  simp only [Prod.mk.injEq] at hPair
  rcases hPair with ⟨rfl, rfl⟩
  rw [OrderedSet.mem_eraseFirst_iff hFirst]
  constructor
  · intro hMember
    by_cases hEqual : b = first
    · exact Or.inl hEqual
    · exact Or.inr ⟨hMember, hEqual⟩
  · intro hCase
    rcases hCase with rfl | hRest
    · exact (OrderedSet.first?_eq_some hFirst).1
    · exact hRest.1

end ConcurrentQueue

end Nkurdt

------------------------------------------------------------
-- Timer
------------------------------------------------------------

namespace Nkurdt

/-
  Where the timer thread is: at the test of `running_`, at
  the locking of the mutex, in one of the two waits of
  `event_cvar_`, in the loop that expires events, or ended.
  The expiry loop carries `now` and holds the mutex.
-/
inductive TimerPc where
| test
| body
| waitEvent
| waitUntil (tp : Nat)
| expire (now : Nat)
| exit
deriving DecidableEq

/- A timer; time points are nanoseconds of a steady clock. -/
structure ConcurrentTimer (T : Type) where
  events : OrderedMultimap Nat T
  registeredEvents : UnorderedMap T Nat
  timedOutEvents : List T
  running : Bool
  threadPc : TimerPc

namespace ConcurrentTimer

variable {T : Type} [DecidableEq T]

/- A timer whose thread has not been started. -/
def make : ConcurrentTimer T where
  events := .empty
  registeredEvents := .empty
  timedOutEvents := []
  running := false
  threadPc := .exit

/- `start`. -/
def start (_timer : ConcurrentTimer T) :
    ConcurrentTimer T where
  events := .empty
  registeredEvents := .empty
  timedOutEvents := []
  running := true
  threadPc := .test

/- No step in progress holds the mutex. -/
def MutexFree (timer : ConcurrentTimer T) : Prop :=
  match timer.threadPc with
  | .expire _ => False
  | _ => True

instance (timer : ConcurrentTimer T) :
    Decidable timer.MutexFree := by
  unfold MutexFree
  split <;> infer_instance

/-
  `event_cvar_.notify_one()`: the only thread that waits is
  the timer thread. It goes back to the head of its loop.
-/
def notifyOne
    (timer : ConcurrentTimer T) : ConcurrentTimer T :=
  match timer.threadPc with
  | .waitEvent => { timer with threadPc := .test }
  | .waitUntil _ => { timer with threadPc := .test }
  | _ => timer

/- Milliseconds as nanoseconds. -/
def milliseconds (n : Nat) : Nat :=
  1000000 * n

/- `register_event`, at clock value `now`. -/
def registerEvent
    (timer : ConcurrentTimer T)
    (event : T)
    (timeout now : Nat) : ConcurrentTimer T :=
  let cleared :=
    match timer.registeredEvents event with
    | some oldTp =>
        { timer with
          events := timer.events.eraseEntry oldTp event
          registeredEvents :=
            timer.registeredEvents.erase event }
    | none => timer
  let tp := now + milliseconds timeout
  notifyOne
    { cleared with
      events := cleared.events.emplace tp event
      registeredEvents :=
        cleared.registeredEvents.emplace event tp }

/- `remove_event`. -/
def removeEvent
    (timer : ConcurrentTimer T)
    (event : T) : ConcurrentTimer T :=
  match timer.registeredEvents event with
  | none => timer
  | some tp =>
      { timer with
        registeredEvents :=
          timer.registeredEvents.erase event
        events := timer.events.eraseEntry tp event
        timedOutEvents := timer.timedOutEvents.erase event }

/- The part of `stop` under the mutex. -/
def stopRunning
    (timer : ConcurrentTimer T) : ConcurrentTimer T :=
  { timer with running := false }

/- The predicate of `wait_for_timed_out`. -/
def HasTimedOut (timer : ConcurrentTimer T) : Prop :=
  timer.timedOutEvents ≠ []

instance (timer : ConcurrentTimer T) :
    Decidable timer.HasTimedOut :=
  inferInstanceAs (Decidable (_ ≠ _))

/- The clearing at the end of `map_timed_out_events`. -/
def clearTimedOut
    (timer : ConcurrentTimer T) : ConcurrentTimer T :=
  { timer with timedOutEvents := [] }

/- One element of the range that the thread times out. -/
def expireFirst
    (timer : ConcurrentTimer T)
    (event : T)
    (now : Nat) : ConcurrentTimer T :=
  { timer with
    timedOutEvents := timer.timedOutEvents.insert event
    registeredEvents := timer.registeredEvents.erase event
    events := timer.events.eraseFirst
    threadPc := .expire now }

/-
  A step of `thread_func` at clock value `now`. The untimed
  wait is left by a notification only, the timed one at any
  moment; either way the loop starts again.
-/
def threadStep
    (timer : ConcurrentTimer T)
    (now : Nat) : Option (ConcurrentTimer T) :=
  match timer.threadPc with
  | .test =>
      if timer.running then
        some { timer with threadPc := .body }
      else
        some { timer with threadPc := .exit }
  | .body =>
      match timer.events.first? with
      | none => some { timer with threadPc := .waitEvent }
      | some (tp, _) =>
          if now < tp then
            some { timer with threadPc := .waitUntil tp }
          else
            some { timer with threadPc := .expire now }
  | .waitEvent => none
  | .waitUntil _ => some { timer with threadPc := .test }
  | .expire last =>
      match timer.events.first? with
      | none => some { timer with threadPc := .test }
      | some (tp, event) =>
          if tp ≤ milliseconds 100 + last then
            some (timer.expireFirst event now)
          else
            some { timer with threadPc := .test }
  | .exit => none

/- The event waits for its deadline or has passed it. -/
def Watched (timer : ConcurrentTimer T) (event : T) : Prop :=
  timer.registeredEvents event ≠ none ∨
    event ∈ timer.timedOutEvents

/- Notifying changes where the thread is, nothing else. -/
omit [DecidableEq T] in
theorem notifyOne_frame
    (timer : ConcurrentTimer T) :
    timer.notifyOne.events = timer.events ∧
      timer.notifyOne.registeredEvents =
        timer.registeredEvents ∧
      timer.notifyOne.timedOutEvents =
        timer.timedOutEvents ∧
      timer.notifyOne.running = timer.running := by
  unfold notifyOne
  split <;> exact ⟨rfl, rfl, rfl, rfl⟩

/- Registering watches the event and forgets no other. -/
theorem watched_registerEvent
    {timer : ConcurrentTimer T}
    {event other : T}
    {timeout now : Nat} :
    (timer.registerEvent event timeout now).Watched other ↔
      timer.Watched other ∨ other = event := by
  unfold Watched registerEvent
  dsimp only
  rw [(notifyOne_frame _).2.1, (notifyOne_frame _).2.2.1]
  dsimp only
  cases hOld : timer.registeredEvents event with
  | none =>
      dsimp only
      rw [UnorderedMap.emplace_apply]
      by_cases hEqual : other = event
      · simp [hEqual]
      · simp [hEqual]
  | some oldTp =>
      dsimp only
      rw [UnorderedMap.emplace_apply]
      by_cases hEqual : other = event
      · simp [hEqual]
      · simp [hEqual]

/- Removing an event forgets no other. -/
theorem watched_removeEvent
    {timer : ConcurrentTimer T}
    {event other : T}
    (hOther : other ≠ event)
    (hWatched : timer.Watched other) :
    (timer.removeEvent event).Watched other := by
  unfold removeEvent
  cases hOld : timer.registeredEvents event with
  | none => exact hWatched
  | some tp =>
      unfold Watched at hWatched ⊢
      dsimp only
      rw [UnorderedMap.erase_apply, if_neg hOther,
        List.mem_erase_of_ne hOther]
      exact hWatched

/- The timer thread forgets nothing. -/
theorem watched_threadStep
    {timer next : ConcurrentTimer T}
    {event : T}
    {now : Nat}
    (hStep : timer.threadStep now = some next)
    (hWatched : timer.Watched event) :
    next.Watched event := by
  unfold threadStep at hStep
  split at hStep
  · split_ifs at hStep <;> cases hStep <;> exact hWatched
  · split at hStep
    · cases hStep
      exact hWatched
    · split_ifs at hStep <;> cases hStep <;> exact hWatched
  · cases hStep
  · cases hStep
    exact hWatched
  · split at hStep
    · cases hStep
      exact hWatched
    · rename_i tp expired _
      split_ifs at hStep
      · cases hStep
        unfold Watched expireFirst at *
        dsimp only
        rw [UnorderedMap.erase_apply, List.mem_insert_iff]
        by_cases hEqual : event = expired
        · exact Or.inr (Or.inl hEqual)
        · rw [if_neg hEqual]
          exact hWatched.imp_right Or.inr
      · cases hStep
        exact hWatched
  · cases hStep

/- The event is in a deadline or has passed one. -/
def Mentions (timer : ConcurrentTimer T) (event : T) : Prop :=
  (∃ tp, (tp, event) ∈ timer.events.entries) ∨
    event ∈ timer.timedOutEvents

omit [DecidableEq T] in
theorem mentions_notifyOne
    {timer : ConcurrentTimer T}
    {event : T} :
    timer.notifyOne.Mentions event ↔ timer.Mentions event := by
  unfold Mentions
  rw [(notifyOne_frame timer).1,
    (notifyOne_frame timer).2.2.1]

/- Registering mentions no other event anew. -/
theorem mentions_of_registerEvent
    {timer : ConcurrentTimer T}
    {event other : T}
    {timeout now : Nat}
    (hMentions :
      (timer.registerEvent event timeout now).Mentions
        other) :
    timer.Mentions other ∨ other = event := by
  unfold registerEvent at hMentions
  dsimp only at hMentions
  rw [mentions_notifyOne] at hMentions
  rcases hMentions with ⟨tp, hEntry⟩ | hTimedOut
  · rcases OrderedMultimap.mem_emplaceList.mp hEntry with
      hNew | hOld
    · exact Or.inr (Prod.mk.inj hNew).2
    · refine Or.inl (Or.inl ⟨tp, ?_⟩)
      cases hTp : timer.registeredEvents event with
      | none =>
          rw [hTp] at hOld
          exact hOld
      | some oldTp =>
          rw [hTp] at hOld
          exact List.mem_of_mem_erase hOld
  · refine Or.inl (Or.inr ?_)
    cases hTp : timer.registeredEvents event with
    | none =>
        rw [hTp] at hTimedOut
        exact hTimedOut
    | some oldTp =>
        rw [hTp] at hTimedOut
        exact hTimedOut

theorem mentions_of_removeEvent
    {timer : ConcurrentTimer T}
    {event other : T}
    (hMentions : (timer.removeEvent event).Mentions other) :
    timer.Mentions other := by
  unfold removeEvent at hMentions
  cases hOld : timer.registeredEvents event with
  | none =>
      rw [hOld] at hMentions
      exact hMentions
  | some tp =>
      rw [hOld] at hMentions
      rcases hMentions with ⟨tp', hEntry⟩ | hTimedOut
      · exact Or.inl ⟨tp', List.mem_of_mem_erase hEntry⟩
      · exact Or.inr (List.mem_of_mem_erase hTimedOut)

/- The timer thread makes up no event. -/
theorem mentions_of_threadStep
    {timer next : ConcurrentTimer T}
    {event : T}
    {now : Nat}
    (hStep : timer.threadStep now = some next)
    (hMentions : next.Mentions event) :
    timer.Mentions event := by
  unfold threadStep at hStep
  split at hStep
  · split_ifs at hStep <;> cases hStep <;> exact hMentions
  · split at hStep
    · cases hStep
      exact hMentions
    · split_ifs at hStep <;> cases hStep <;> exact hMentions
  · cases hStep
  · cases hStep
    exact hMentions
  · split at hStep
    · cases hStep
      exact hMentions
    · rename_i tp expired hFirst
      split_ifs at hStep
      · cases hStep
        rcases hMentions with ⟨tp', hEntry⟩ | hTimedOut
        · exact Or.inl ⟨tp', List.mem_of_mem_tail hEntry⟩
        · rcases List.mem_insert_iff.mp hTimedOut with
            rfl | hOld
          · exact Or.inl ⟨tp, List.mem_of_mem_head? hFirst⟩
          · exact Or.inr hOld
      · cases hStep
        exact hMentions
  · cases hStep

end ConcurrentTimer

end Nkurdt
