import Nkurdt.Library.Turns
import Nkurdt.Timer.Stopping

/-
  The timer does not oversleep.

  Every registration notifies the thread, so the thread is in
  its untimed wait only when there is no event, and in its
  timed wait only for a deadline that no event precedes. A
  deadline that has passed is acted on within a bounded
  number of turns of the thread, whatever the other threads
  do in between: what they register with timeouts of zero or
  more goes behind it.

  Main declarations:
    * `TimerSystem.Awake`
    * `TimerSystem.awake_step`
    * `TimerSystem.left`
    * `TimerSystem.left_step`
    * `TimerSystem.expires_in_time`
-/

------------------------------------------------------------
-- The Waits of the Thread
------------------------------------------------------------

namespace Nkurdt

namespace ConcurrentTimer

variable {T : Type} [DecidableEq T]

/-
  What the waits of the thread say about the events, and its
  end about `running_`.
-/
structure Awake (timer : ConcurrentTimer T) : Prop where
  empty :
    timer.threadPc = .waitEvent → timer.events.entries = []
  first :
    ∀ tp, timer.threadPc = .waitUntil tp →
      ∀ entry ∈ timer.events.entries, tp ≤ entry.1
  exit : timer.threadPc = .exit → timer.running = false

omit [DecidableEq T] in
theorem awake_start
    (timer : ConcurrentTimer T) :
    timer.start.Awake where
  empty := fun _ => rfl
  first := fun _ _ _ hEntry => by cases hEntry
  exit := fun hExit => by cases hExit

/- A thread that is on its way waits for nothing. -/
omit [DecidableEq T] in
theorem awake_of_moving
    {timer : ConcurrentTimer T}
    (hPc :
      timer.threadPc = .test ∨ timer.threadPc = .body ∨
        ∃ last, timer.threadPc = .expire last) :
    timer.Awake := by
  rcases hPc with hPc | hPc | ⟨last, hPc⟩
  all_goals
    refine ⟨?_, ?_, ?_⟩
    · intro hWait
      rw [hPc] at hWait
      cases hWait
    · intro tp hWait
      rw [hPc] at hWait
      cases hWait
    · intro hExit
      rw [hPc] at hExit
      cases hExit

/- Nor does one that is notified. -/
omit [DecidableEq T] in
theorem awake_notifyOne
    {timer : ConcurrentTimer T}
    (hExit : timer.threadPc = .exit → timer.running = false) :
    timer.notifyOne.Awake := by
  unfold notifyOne
  split
  · exact awake_of_moving (Or.inl rfl)
  · exact awake_of_moving (Or.inl rfl)
  · rename_i hEvent hUntil
    exact ⟨fun hPc => absurd hPc hEvent,
      fun tp hPc => absurd hPc (hUntil tp), hExit⟩

/- Fewer events, and the same thread. -/
omit [DecidableEq T] in
theorem Awake.of_subset
    {timer timer' : ConcurrentTimer T}
    (hAwake : timer.Awake)
    (hEvents :
      timer'.events.entries ⊆ timer.events.entries)
    (hPc : timer'.threadPc = timer.threadPc)
    (hRunning :
      timer.running = false → timer'.running = false) :
    timer'.Awake where
  empty := by
    intro hWait
    have hNone := hAwake.empty (hPc.symm.trans hWait)
    rw [hNone] at hEvents
    exact List.subset_nil.mp hEvents
  first := by
    intro tp hWait entry hEntry
    exact hAwake.first tp (hPc.symm.trans hWait) entry
      (hEvents hEntry)
  exit := by
    intro hExit
    exact hRunning (hAwake.exit (hPc.symm.trans hExit))

theorem awake_registerAt
    {timer : ConcurrentTimer T}
    (event : T)
    (tp : Nat)
    (hAwake : timer.Awake) :
    (timer.registerAt event tp).Awake := by
  unfold registerAt registerEvent
  dsimp only
  apply awake_notifyOne
  dsimp only
  cases timer.registeredEvents event with
  | none => exact hAwake.exit
  | some oldTp => exact hAwake.exit

theorem awake_removeEvent
    {timer : ConcurrentTimer T}
    (event : T)
    (hAwake : timer.Awake) :
    (timer.removeEvent event).Awake := by
  unfold removeEvent
  cases timer.registeredEvents event with
  | none => exact hAwake
  | some tp =>
      exact hAwake.of_subset List.erase_subset rfl id

/- The thread waits for what it has found first. -/
theorem awake_threadStep
    {timer timer' : ConcurrentTimer T}
    {now : Nat}
    (hStep : timer.threadStep now = some timer') :
    timer'.Awake := by
  unfold threadStep at hStep
  cases hPc : timer.threadPc with
  | test =>
      rw [hPc] at hStep
      dsimp only at hStep
      split_ifs at hStep with hRunning
      · cases hStep
        exact awake_of_moving (Or.inr (Or.inl rfl))
      · cases hStep
        exact ⟨(fun hWait => by cases hWait),
          (fun _ hWait => by cases hWait),
          (fun _ => by simpa using hRunning)⟩
  | body =>
      rw [hPc] at hStep
      dsimp only at hStep
      cases hFirst : timer.events.first? with
      | none =>
          rw [hFirst] at hStep
          cases hStep
          exact ⟨(fun _ => List.head?_eq_none_iff.mp hFirst),
            (fun _ hWait => by cases hWait),
            (fun hExit => by cases hExit)⟩
      | some first =>
          rw [hFirst] at hStep
          dsimp only at hStep
          split_ifs at hStep
          · cases hStep
            refine ⟨(fun hWait => by cases hWait), ?_,
              (fun hExit => by cases hExit)⟩
            intro tp hWait entry hEntry
            cases hWait
            exact OrderedMultimap.first?_le hFirst hEntry
          · cases hStep
            exact awake_of_moving (Or.inr (Or.inr ⟨now, rfl⟩))
  | waitEvent =>
      rw [hPc] at hStep
      cases hStep
  | waitUntil tp =>
      rw [hPc] at hStep
      cases hStep
      exact awake_of_moving (Or.inl rfl)
  | expire last =>
      rw [hPc] at hStep
      dsimp only at hStep
      split at hStep
      · cases hStep
        exact awake_of_moving (Or.inl rfl)
      · split_ifs at hStep
        · cases hStep
          exact awake_of_moving (Or.inr (Or.inr ⟨now, rfl⟩))
        · cases hStep
          exact awake_of_moving (Or.inl rfl)
  | exit =>
      rw [hPc] at hStep
      cases hStep

end ConcurrentTimer

namespace TimerSystem

open ConcurrentTimer
open Runs

variable {T : Type} [DecidableEq T]

/- The thread of the timer is not asleep over an event. -/
def Awake (s : TimerSystem T) : Prop :=
  s.timer.Awake

theorem awake_step
    {s s' : TimerSystem T}
    {action : Action T}
    (hAwake : Awake s)
    (hStep : s.step action = some s') :
    Awake s' := by
  cases action with
  | register event timeout =>
      rcases whenFree_eq_some.mp hStep with ⟨_, rfl⟩
      exact awake_registerAt event _ hAwake
  | remove event =>
      rcases whenFree_eq_some.mp hStep with ⟨_, rfl⟩
      exact awake_removeEvent event hAwake
  | map clear =>
      rcases whenFree_eq_some.mp hStep with ⟨_, rfl⟩
      cases clear
      · exact hAwake
      · exact hAwake.of_subset (List.Subset.refl _) rfl id
  | thread =>
      rcases Option.map_eq_some_iff.mp hStep with
        ⟨timer, hThread, rfl⟩
      exact awake_threadStep hThread
  | stop =>
      change s.stopStep = some s' at hStep
      unfold stopStep at hStep
      split at hStep
      · rcases whenFree_eq_some.mp hStep with ⟨_, rfl⟩
        exact hAwake.of_subset (List.Subset.refl _) rfl
          (fun _ => rfl)
      · cases hStep
        exact awake_notifyOne hAwake.exit
      · split_ifs at hStep
        cases hStep
        exact hAwake
      · cases hStep
  | tick duration =>
      cases hStep
      exact hAwake
  | wake =>
      cases hStep
      exact awake_notifyOne hAwake.exit

theorem awake_of_reaches
    {now : Nat}
    {s : TimerSystem T}
    (hReach :
      Reaches step (fun _ _ _ => True) (fresh T now) s) :
    Awake s :=
  hReach.invariant
    (show Awake (fresh T now) from
      awake_start ConcurrentTimer.make)
    (fun _ _ _ hAwake hStep _ => awake_step hAwake hStep)

end TimerSystem

end Nkurdt

------------------------------------------------------------
-- Overdue Events
------------------------------------------------------------

namespace Nkurdt

namespace TimerSystem

open ConcurrentTimer
open Runs

variable {T : Type} [DecidableEq T]

/-
  What the other threads may do: anything but to stop the
  timer, to touch the event, and to register another with a
  negative timeout.
-/
def Undisturbed (event : T) : Action T → Prop
| .register other timeout => other ≠ event ∧ 0 ≤ timeout
| .remove other => other ≠ event
| .stop => False
| _ => True

instance (event : T) (action : Action T) :
    Decidable (Undisturbed event action) := by
  unfold Undisturbed
  split <;> infer_instance

/- The event is registered and its deadline has passed. -/
structure Overdue
    (event : T)
    (tp : Nat)
    (s : TimerSystem T) : Prop where
  kept : Kept s
  awake : Awake s
  registered : s.timer.registeredEvents event = some tp
  due : tp ≤ s.clock
  running : s.timer.running = true

/-
  The turns of the thread that it takes to come to the loop
  that expires the deadline.
-/
def turnsTo (tp : Nat) : TimerPc → Nat
| .expire last => if tp ≤ milliseconds 100 + last then 0 else 3
| .body => 1
| .test => 2
| _ => 3

theorem turnsTo_le
    (tp : Nat)
    (pc : TimerPc) :
    turnsTo tp pc ≤ 3 := by
  unfold turnsTo
  split
  · split_ifs <;> omega
  all_goals omega

/- Notifying brings the thread no further away. -/
omit [DecidableEq T] in
theorem turnsTo_notifyOne_le
    (tp : Nat)
    (timer : ConcurrentTimer T) :
    turnsTo tp timer.notifyOne.threadPc ≤
      turnsTo tp timer.threadPc := by
  unfold notifyOne
  cases hPc : timer.threadPc with
  | waitEvent => exact (by omega : 2 ≤ 3)
  | waitUntil _ => exact (by omega : 2 ≤ 3)
  | test => exact (congrArg (turnsTo tp) hPc).le
  | body => exact (congrArg (turnsTo tp) hPc).le
  | expire last => exact (congrArg (turnsTo tp) hPc).le
  | exit => exact (congrArg (turnsTo tp) hPc).le

/-
  A bound on the turns of the thread in front of the one that
  expires the event.
-/
def left
    (event : T)
    (tp : Nat)
    (s : TimerSystem T) : Nat :=
  s.timer.events.place tp event +
    turnsTo tp s.timer.threadPc

theorem Overdue.mem
    {event : T}
    {tp : Nat}
    {s : TimerSystem T}
    (hOverdue : Overdue event tp s) :
    (tp, event) ∈ s.timer.events.entries :=
  hOverdue.kept.consistent.mem_iff.mpr hOverdue.registered

/-
  The thread is on its way, or in a wait for a deadline that
  has passed, and what comes first is due.
-/
theorem Overdue.first
    {event : T}
    {tp : Nat}
    {s : TimerSystem T}
    (hOverdue : Overdue event tp s) :
    ∃ first,
      s.timer.events.first? = some first ∧ first.1 ≤ tp := by
  have hMember := hOverdue.mem
  cases hFirst : s.timer.events.first? with
  | none =>
      have hNil := List.head?_eq_none_iff.mp hFirst
      rw [hNil] at hMember
      cases hMember
  | some first =>
      exact ⟨first, rfl,
        OrderedMultimap.first?_le hFirst hMember⟩

/- A turn that expires the event, or another one. -/
theorem left_expire
    {event : T}
    {tp last : Nat}
    {s s' : TimerSystem T}
    (hOverdue : Overdue event tp s)
    (hPc : s.timer.threadPc = .expire last)
    (hStep : s.step .thread = some s') :
    s.Expires .thread event ∨
      s'.timer.registeredEvents event = some tp ∧
        left event tp s' + 1 ≤ left event tp s := by
  rcases hOverdue.first with ⟨⟨tp', other⟩, hFirst, hFront⟩
  dsimp only at hFront
  change (s.timer.threadStep s.clock).map _ = some s' at hStep
  unfold threadStep at hStep
  rw [hPc] at hStep
  dsimp only at hStep
  rw [hFirst] at hStep
  dsimp only at hStep
  split_ifs at hStep with hDue
  · by_cases hOther : other = event
    · subst hOther
      exact Or.inl ⟨rfl, last, tp', hPc, hFirst, hDue⟩
    · right
      cases hStep
      refine ⟨?_, ?_⟩
      · exact (UnorderedMap.erase_apply _ other event).trans
          ((if_neg (Ne.symm hOther)).trans hOverdue.registered)
      · have hMoved :=
          OrderedMultimap.place_eraseFirst
            (k := tp) (v := event) hFirst
            (fun hEqual => hOther (Prod.mk.inj hEqual).2)
        have hLate : tp ≤ milliseconds 100 + s.clock :=
          hOverdue.due.trans (Nat.le_add_left _ _)
        have hHere : turnsTo tp (.expire s.clock) = 0 :=
          if_pos hLate
        unfold left expireFirst
        dsimp only
        rw [hHere]
        omega
  · right
    cases hStep
    refine ⟨hOverdue.registered, ?_⟩
    have hEarly : ¬ tp ≤ milliseconds 100 + last := by omega
    have hHere : turnsTo tp (.expire last) = 3 :=
      if_neg hEarly
    unfold left
    dsimp only
    rw [hPc, hHere]
    exact le_rfl

/- A turn of the thread. -/
theorem left_thread
    {event : T}
    {tp : Nat}
    {s s' : TimerSystem T}
    (hOverdue : Overdue event tp s)
    (hStep : s.step .thread = some s') :
    s.Expires .thread event ∨
      s'.timer.registeredEvents event = some tp ∧
        left event tp s' + 1 ≤ left event tp s := by
  cases hPc : s.timer.threadPc with
  | expire last => exact left_expire hOverdue hPc hStep
  | test =>
      change (s.timer.threadStep s.clock).map _ = some s'
        at hStep
      unfold threadStep at hStep
      rw [hPc] at hStep
      dsimp only at hStep
      rw [if_pos hOverdue.running] at hStep
      cases hStep
      refine Or.inr ⟨hOverdue.registered, ?_⟩
      unfold left
      dsimp only
      rw [hPc]
      exact le_rfl
  | body =>
      rcases hOverdue.first with ⟨first, hFirst, hFront⟩
      change (s.timer.threadStep s.clock).map _ = some s'
        at hStep
      unfold threadStep at hStep
      rw [hPc] at hStep
      dsimp only at hStep
      rw [hFirst] at hStep
      dsimp only at hStep
      rw [if_neg (not_lt.mpr (hFront.trans hOverdue.due))]
        at hStep
      cases hStep
      refine Or.inr ⟨hOverdue.registered, ?_⟩
      have hHere : turnsTo tp (.expire s.clock) = 0 :=
        if_pos (hOverdue.due.trans (Nat.le_add_left _ _))
      unfold left
      dsimp only
      rw [hPc, hHere]
      exact le_rfl
  | waitUntil _ =>
      change (s.timer.threadStep s.clock).map _ = some s'
        at hStep
      unfold threadStep at hStep
      rw [hPc] at hStep
      cases hStep
      refine Or.inr ⟨hOverdue.registered, ?_⟩
      unfold left
      dsimp only
      rw [hPc]
      exact le_rfl
  | waitEvent =>
      have hMember := hOverdue.mem
      rw [hOverdue.awake.empty hPc] at hMember
      cases hMember
  | exit =>
      have hStopped := hOverdue.awake.exit hPc
      rw [hOverdue.running] at hStopped
      cases hStopped

/- A later deadline goes behind the event. -/
theorem place_registerAt_le
    {timer : ConcurrentTimer T}
    {event other : T}
    {tp tp' : Nat}
    (hMember : (tp, event) ∈ timer.events.entries)
    (hOther : other ≠ event)
    (hLater : tp ≤ tp') :
    (timer.registerAt other tp').events.place tp event ≤
      timer.events.place tp event := by
  unfold registerAt registerEvent
  dsimp only
  rw [(notifyOne_frame _).1]
  dsimp only
  cases timer.registeredEvents other with
  | none =>
      exact (OrderedMultimap.place_emplace other hMember
        hLater).le
  | some oldTp =>
      have hKept :
          (tp, event) ∈
            (timer.events.eraseEntry oldTp other).entries :=
        (List.mem_erase_of_ne (fun hEqual =>
          hOther (Prod.mk.inj hEqual).2.symm)).mpr hMember
      exact (OrderedMultimap.place_emplace other hKept
        hLater).le.trans
          (OrderedMultimap.place_eraseEntry_le timer.events
            hOther)

theorem place_removeEvent_le
    {timer : ConcurrentTimer T}
    {event other : T}
    (tp : Nat)
    (hOther : other ≠ event) :
    (timer.removeEvent other).events.place tp event ≤
      timer.events.place tp event := by
  unfold removeEvent
  cases timer.registeredEvents other with
  | none => exact le_rfl
  | some oldTp =>
      exact OrderedMultimap.place_eraseEntry_le timer.events
        hOther

/- A step of another thread. -/
theorem left_other
    {event : T}
    {tp : Nat}
    {s s' : TimerSystem T}
    {action : Action T}
    (hOverdue : Overdue event tp s)
    (hStep : s.step action = some s')
    (hAction : Undisturbed event action)
    (hOther : action ≠ .thread) :
    s'.timer.registeredEvents event = some tp ∧
      s'.timer.running = true ∧ tp ≤ s'.clock ∧
      left event tp s' ≤ left event tp s := by
  cases action with
  | register other timeout =>
      rcases whenFree_eq_some.mp hStep with ⟨_, rfl⟩
      rcases hAction with ⟨hEvent, hTimeout⟩
      have hLater : tp ≤ deadline s.clock timeout := by
        have hDue := hOverdue.due
        unfold deadline
        omega
      refine ⟨?_, ?_, hOverdue.due, Nat.add_le_add ?_ ?_⟩
      · dsimp only
        rw [registeredEvents_registerAt,
          if_neg (Ne.symm hEvent)]
        exact hOverdue.registered
      · exact (running_registerAt _ _ _).trans
          hOverdue.running
      · exact place_registerAt_le hOverdue.mem hEvent hLater
      · dsimp only
        unfold registerAt registerEvent
        dsimp only
        refine (turnsTo_notifyOne_le tp _).trans ?_
        dsimp only
        cases s.timer.registeredEvents other with
        | none => exact le_rfl
        | some oldTp => exact le_rfl
  | remove other =>
      rcases whenFree_eq_some.mp hStep with ⟨_, rfl⟩
      refine ⟨?_, ?_, hOverdue.due, Nat.add_le_add ?_ ?_⟩
      · dsimp only
        rw [registeredEvents_removeEvent,
          if_neg (Ne.symm hAction)]
        exact hOverdue.registered
      · exact (running_removeEvent _ _).trans hOverdue.running
      · exact place_removeEvent_le tp hAction
      · exact (congrArg (turnsTo tp)
          (threadPc_removeEvent s.timer other)).le
  | map clear =>
      rcases whenFree_eq_some.mp hStep with ⟨_, rfl⟩
      cases clear
      · exact ⟨hOverdue.registered, hOverdue.running,
          hOverdue.due, le_rfl⟩
      · exact ⟨hOverdue.registered, hOverdue.running,
          hOverdue.due, le_rfl⟩
  | thread => exact absurd rfl hOther
  | stop => exact hAction.elim
  | tick duration =>
      cases hStep
      exact ⟨hOverdue.registered, hOverdue.running,
        hOverdue.due.trans (Nat.le_add_right _ _), le_rfl⟩
  | wake =>
      cases hStep
      have hFrame := notifyOne_frame s.timer
      refine ⟨?_, ?_, hOverdue.due, Nat.add_le_add ?_ ?_⟩
      · exact (congrFun hFrame.2.1 event).trans
          hOverdue.registered
      · exact hFrame.2.2.2.trans hOverdue.running
      · dsimp only
        rw [hFrame.1]
      · exact turnsTo_notifyOne_le tp s.timer

end TimerSystem

end Nkurdt

------------------------------------------------------------
-- Expiry in Time
------------------------------------------------------------

namespace Nkurdt

namespace TimerSystem

open ConcurrentTimer
open Runs

variable {T : Type} [DecidableEq T]

theorem running_thread
    {s s' : TimerSystem T}
    (hStep : s.step .thread = some s') :
    s'.timer.running = s.timer.running ∧
      s'.clock = s.clock := by
  rcases Option.map_eq_some_iff.mp hStep with
    ⟨timer, hThread, rfl⟩
  cases threadMove_threadStep hThread with
  | moves pc hNext _ _ _ =>
      subst hNext
      exact ⟨rfl, rfl⟩
  | expires last tp event _ _ _ hNext =>
      subst hNext
      exact ⟨rfl, rfl⟩

/- The step lemma: expired, or overdue and no further away. -/
theorem left_step
    {event : T}
    {tp : Nat}
    {s s' : TimerSystem T}
    {action : Action T}
    (hOverdue : Overdue event tp s)
    (hStep : s.step action = some s')
    (hAction : Undisturbed event action) :
    s.Expires action event ∨
      Overdue event tp s' ∧
        left event tp s' +
            (decide (action = .thread)).toNat ≤
          left event tp s := by
  have hKept := kept_step hOverdue.kept hStep
  have hAwake := awake_step hOverdue.awake hStep
  by_cases hThread : action = .thread
  · subst hThread
    have hSame := running_thread hStep
    rcases left_thread hOverdue hStep with
      hExpires | ⟨hRegistered, hLess⟩
    · exact Or.inl hExpires
    · refine Or.inr ⟨⟨hKept, hAwake, hRegistered, ?_, ?_⟩, ?_⟩
      · rw [hSame.2]
        exact hOverdue.due
      · exact hSame.1.trans hOverdue.running
      · simpa using hLess
  · rcases left_other hOverdue hStep hAction hThread with
      ⟨hRegistered, hRunning, hDue, hLess⟩
    refine Or.inr
      ⟨⟨hKept, hAwake, hRegistered, hDue, hRunning⟩, ?_⟩
    simpa [hThread] using hLess

/-
  In every state reached after `start`, a thread in its
  untimed wait has no event, and one in its timed wait waits
  for the earliest deadline. If the deadline of an event has
  passed, every run in which the thread takes three turns
  more than there are events contains the step that expires
  it, as long as nobody stops the timer or touches the event
  and no other timeout is negative.
-/
theorem expires_in_time
    {now : Nat}
    {s : TimerSystem T}
    (hReach :
      Reaches step (fun _ _ _ => True) (fresh T now) s) :
    (s.timer.threadPc = .waitEvent →
        s.timer.events.entries = []) ∧
      (∀ tp, s.timer.threadPc = .waitUntil tp →
        ∀ entry ∈ s.timer.events.entries, tp ≤ entry.1) ∧
      ∀ event tp actions s',
        s.timer.registeredEvents event = some tp →
        tp ≤ s.clock →
        s.timer.running = true →
        runActions step
            (fun _ action _ => Undisturbed event action)
            s actions = some s' →
        s.timer.events.entries.length + 3 ≤
          actions.count .thread →
        ∃ taken rest reached,
          actions = taken ++ .thread :: rest ∧
            runActions step
                (fun _ action _ => Undisturbed event action)
                s taken = some reached ∧
            reached.Expires .thread event := by
  have hAwake := awake_of_reaches hReach
  refine ⟨hAwake.empty, hAwake.first, ?_⟩
  intro event tp actions s' hRegistered hDue hRunning hRun
    hEnough
  have hOverdue : Overdue event tp s :=
    ⟨kept_of_reaches hReach, hAwake, hRegistered, hDue,
      hRunning⟩
  have hLeft :
      left event tp s <
        actions.countP (fun action =>
          decide (action = .thread)) := by
    have hPlace :=
      OrderedMultimap.place_lt_length hOverdue.mem
    have hTurns := turnsTo_le tp s.timer.threadPc
    have hCount :
        actions.countP (fun action =>
            decide (action = .thread)) =
          actions.count .thread := rfl
    rw [hCount]
    unfold left
    omega
  rcases exists_goal_of_turns hOverdue hRun hLeft
      (fun _ _ _ hCurrent hStep hAllowed =>
        left_step hCurrent hStep hAllowed) with
    ⟨taken, action, rest, reached, hActions, hTaken, hGoal⟩
  have hThread := hGoal.1
  subst hThread
  exact ⟨taken, rest, reached, hActions, hTaken, hGoal⟩

/-
  Two events are registered, the deadline of the first one
  passes, and a third event is registered in front of the
  thread.
-/
theorem expires_in_time_overdue :
    ∃ s : TimerSystem Nat,
      Reaches step (fun _ _ _ => True) (fresh Nat 0) s ∧
      ∃ taken rest reached,
        [Action.register 3 0, .thread, .thread, .thread,
            .thread, .thread] = taken ++ .thread :: rest ∧
          runActions step
              (fun _ action _ => Undisturbed 7 action)
              s taken = some reached ∧
          reached.Expires .thread 7 := by
  have hRun :
      ∃ s : TimerSystem Nat,
        Reaches step (fun _ _ _ => True) (fresh Nat 0) s ∧
        (s.timer.registeredEvents 7 = some 5000000 ∧
          5000000 ≤ s.clock ∧
          s.timer.running = true ∧
          s.timer.events.entries.length = 2 ∧
          (runActions step
            (fun _ action _ => Undisturbed 7 action) s
            [Action.register 3 0, .thread, .thread, .thread,
              .thread, .thread]).isSome = true) :=
    exists_reaches_of_runActions
      [.thread, .thread, .register 7 5, .register 9 1000,
        .tick 6000000]
      (by decide +kernel)
  rcases hRun with
    ⟨s, hReach, hRegistered, hDue, hRunning, hLength, hSome⟩
  rcases Option.isSome_iff_exists.mp hSome with ⟨s', hRest⟩
  have hEnough :
      s.timer.events.entries.length + 3 ≤
        [Action.register 3 0, .thread, .thread, .thread,
          .thread, .thread].count .thread := by
    rw [hLength]
    decide
  exact ⟨s, hReach,
    (expires_in_time hReach).2.2 7 5000000 _ s' hRegistered
      hDue hRunning hRest hEnough⟩

end TimerSystem

end Nkurdt
