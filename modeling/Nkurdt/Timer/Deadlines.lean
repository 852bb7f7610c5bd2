import Nkurdt.Timer.System

/-
  The two indexes of the timer and the deadlines it keeps.

  `registered_events_` gives the deadline of an event and
  `events_` the events of a deadline. The four operations
  that change them change both: each of them erases a
  binding, or enters one for an event that has none.

  Main declarations:
    * `ConcurrentTimer.Consistent`
    * `ConcurrentTimer.Consistent.erase`
    * `ConcurrentTimer.Consistent.emplace`
    * `TimerSystem.Kept`
    * `TimerSystem.Expired`
    * `TimerSystem.consistent_of_reaches`
-/

------------------------------------------------------------
-- One Entry for Each Binding
------------------------------------------------------------

namespace Nkurdt

namespace ConcurrentTimer

variable {T : Type} [DecidableEq T]

/-
  The multimap holds every binding once, the deadline as the
  key, and nothing else.
-/
def Consistent
    (events : OrderedMultimap Nat T)
    (registered : UnorderedMap T Nat) : Prop :=
  ∀ tp event,
    events.entries.count (tp, event) =
      if registered event = some tp then 1 else 0

theorem consistent_empty :
    Consistent (.empty : OrderedMultimap Nat T) .empty :=
  fun _ _ => rfl

/- An entry is a binding. -/
theorem Consistent.mem_iff
    {events : OrderedMultimap Nat T}
    {registered : UnorderedMap T Nat}
    {tp : Nat}
    {event : T}
    (hConsistent : Consistent events registered) :
    (tp, event) ∈ events.entries ↔
      registered event = some tp := by
  rw [← List.count_pos_iff, hConsistent]
  split_ifs with hBinding
  · simp [hBinding]
  · simp [hBinding]

/- A binding and its entry are erased together. -/
theorem Consistent.erase
    {events : OrderedMultimap Nat T}
    {registered : UnorderedMap T Nat}
    {tp : Nat}
    {event : T}
    (hConsistent : Consistent events registered)
    (hBinding : registered event = some tp) :
    Consistent (events.eraseEntry tp event)
      (registered.erase event) := by
  intro tp' event'
  have hOld := hConsistent tp' event'
  unfold OrderedMultimap.eraseEntry
  dsimp only
  rw [List.count_erase, hOld, UnorderedMap.erase_apply]
  by_cases hEvent : event' = event
  · subst hEvent
    rw [if_pos rfl, hBinding]
    by_cases hTp : tp' = tp
    · subst hTp
      simp
    · simp [Ne.symm hTp]
  · simp [hEvent, Ne.symm hEvent]

/- An event without a binding gets one, and an entry. -/
theorem Consistent.emplace
    {events : OrderedMultimap Nat T}
    {registered : UnorderedMap T Nat}
    {event : T}
    (tp : Nat)
    (hConsistent : Consistent events registered)
    (hNone : registered event = none) :
    Consistent (events.emplace tp event)
      (registered.emplace event tp) := by
  intro tp' event'
  unfold OrderedMultimap.emplace
  dsimp only
  rw [(OrderedMultimap.perm_emplaceList tp event
      events.entries).count_eq, List.count_cons,
    hConsistent tp' event', UnorderedMap.emplace_apply,
    hNone]
  by_cases hEvent : event' = event
  · subst hEvent
    rw [hNone]
    by_cases hTp : tp' = tp
    · subst hTp
      simp
    · simp [Ne.symm hTp]
  · simp [hEvent, Ne.symm hEvent]

/- The entry at the head of the multimap is erased. -/
theorem Consistent.eraseFirst
    {events : OrderedMultimap Nat T}
    {registered : UnorderedMap T Nat}
    {tp : Nat}
    {event : T}
    (hConsistent : Consistent events registered)
    (hFirst : events.first? = some (tp, event)) :
    registered event = some tp ∧
      Consistent events.eraseFirst
        (registered.erase event) := by
  have hBinding : registered event = some tp :=
    hConsistent.mem_iff.mp (List.mem_of_mem_head? hFirst)
  rw [OrderedMultimap.eraseFirst_eq_eraseEntry hFirst]
  exact ⟨hBinding, hConsistent.erase hBinding⟩

/- Registering replaces the binding of the event. -/
theorem Consistent.registerAt
    {timer : ConcurrentTimer T}
    (event : T)
    (tp : Nat)
    (hConsistent :
      Consistent timer.events timer.registeredEvents) :
    Consistent (timer.registerAt event tp).events
      (timer.registerAt event tp).registeredEvents := by
  unfold ConcurrentTimer.registerAt registerEvent
  dsimp only
  rw [(notifyOne_frame _).1, (notifyOne_frame _).2.1]
  dsimp only
  cases hOld : timer.registeredEvents event with
  | none => exact hConsistent.emplace _ hOld
  | some oldTp =>
      refine (hConsistent.erase hOld).emplace _ ?_
      rw [UnorderedMap.erase_apply, if_pos rfl]

theorem Consistent.removeEvent
    {timer : ConcurrentTimer T}
    (event : T)
    (hConsistent :
      Consistent timer.events timer.registeredEvents) :
    Consistent (timer.removeEvent event).events
      (timer.removeEvent event).registeredEvents := by
  unfold ConcurrentTimer.removeEvent
  cases hOld : timer.registeredEvents event with
  | none => exact hConsistent
  | some tp => exact hConsistent.erase hOld

/- What `register_event` does to the bindings. -/
theorem registeredEvents_registerAt
    (timer : ConcurrentTimer T)
    (event other : T)
    (tp : Nat) :
    (timer.registerAt event tp).registeredEvents other =
      if other = event then
        some tp
      else
        timer.registeredEvents other := by
  unfold registerAt registerEvent
  dsimp only
  rw [(notifyOne_frame _).2.1]
  dsimp only
  have hZero : tp + milliseconds 0 = tp := rfl
  rw [hZero, UnorderedMap.emplace_apply]
  cases hOld : timer.registeredEvents event with
  | none =>
      dsimp only
      rw [hOld]
      rfl
  | some oldTp =>
      dsimp only
      rw [UnorderedMap.erase_apply, if_pos rfl,
        UnorderedMap.erase_apply]
      by_cases hOther : other = event
      · rw [if_pos hOther, if_pos hOther]
        rfl
      · rw [if_neg hOther, if_neg hOther, if_neg hOther]

theorem registeredEvents_removeEvent
    (timer : ConcurrentTimer T)
    (event other : T) :
    (timer.removeEvent event).registeredEvents other =
      if other = event then
        none
      else
        timer.registeredEvents other := by
  unfold removeEvent
  cases hOld : timer.registeredEvents event with
  | none =>
      dsimp only
      by_cases hOther : other = event
      · rw [if_pos hOther, hOther, hOld]
      · rw [if_neg hOther]
  | some tp => exact UnorderedMap.erase_apply _ event other

/- Registering times nothing out, and forgets nothing. -/
theorem timedOutEvents_registerAt
    (timer : ConcurrentTimer T)
    (event : T)
    (tp : Nat) :
    (timer.registerAt event tp).timedOutEvents =
      timer.timedOutEvents := by
  unfold registerAt registerEvent
  dsimp only
  rw [(notifyOne_frame _).2.2.1]
  dsimp only
  split <;> rfl

/- Removing forgets an event that has not expired. -/
theorem timedOutEvents_removeEvent
    (timer : ConcurrentTimer T)
    (event : T) :
    (timer.removeEvent event).timedOutEvents =
      if timer.registeredEvents event = none then
        timer.timedOutEvents
      else
        timer.timedOutEvents.erase event := by
  unfold removeEvent
  cases hOld : timer.registeredEvents event with
  | none => rfl
  | some tp => rfl

end ConcurrentTimer

end Nkurdt

------------------------------------------------------------
-- Steps of the System
------------------------------------------------------------

namespace Nkurdt

namespace ConcurrentTimer

variable {T : Type} [DecidableEq T]

theorem threadPc_registerAt
    (timer : ConcurrentTimer T)
    (event : T)
    (tp : Nat) :
    (timer.registerAt event tp).threadPc = timer.threadPc ∨
      (timer.registerAt event tp).threadPc = .test := by
  unfold registerAt registerEvent
  dsimp only
  cases hOld : timer.registeredEvents event with
  | none => exact threadPc_notifyOne _
  | some oldTp => exact threadPc_notifyOne _

theorem threadPc_removeEvent
    (timer : ConcurrentTimer T)
    (event : T) :
    (timer.removeEvent event).threadPc = timer.threadPc := by
  unfold removeEvent
  split <;> rfl

end ConcurrentTimer

namespace TimerSystem

open ConcurrentTimer

variable {T : Type} [DecidableEq T]

/-
  A step that does not register, remove, map or expire. The
  thread may begin to expire events, with the clock as it is.
-/
structure Quiet (s s' : TimerSystem T) : Prop where
  events : s'.timer.events = s.timer.events
  registeredEvents :
    s'.timer.registeredEvents = s.timer.registeredEvents
  timedOutEvents :
    s'.timer.timedOutEvents = s.timer.timedOutEvents
  latest : s'.latest = s.latest
  clock : s.clock ≤ s'.clock
  threadPc :
    s'.timer.threadPc = s.timer.threadPc ∨
      ∀ last, s'.timer.threadPc = .expire last →
        last = s.clock

/- What a step can do. -/
inductive Move
    (s s' : TimerSystem T) : Action T → Prop
| registers
    (event : T)
    (timeout : Int)
    (hNext :
      s' =
        { s with
          timer :=
            s.timer.registerAt event
              (deadline s.clock timeout)
          latest :=
            s.latest.assign event
              (deadline s.clock timeout) }) :
    Move s s' (.register event timeout)
| removes
    (event : T)
    (hNext :
      s' =
        { s with
          timer := s.timer.removeEvent event
          latest := s.latest.erase event }) :
    Move s s' (.remove event)
| maps
    (clear : Bool)
    (hNext :
      s' =
        { s with
          timer :=
            if clear then
              s.timer.clearTimedOut
            else
              s.timer }) :
    Move s s' (.map clear)
| expires
    (last tp : Nat)
    (event : T)
    (hPc : s.timer.threadPc = .expire last)
    (hFirst : s.timer.events.first? = some (tp, event))
    (hDue : tp ≤ milliseconds 100 + last)
    (hNext :
      s' =
        { s with
          timer := s.timer.expireFirst event s.clock }) :
    Move s s' .thread
| quiet
    (action : Action T)
    (hQuiet : Quiet s s') :
    Move s s' action

omit [DecidableEq T] in
theorem quiet_notifyOne
    (s : TimerSystem T)
    (pc : StopPc) :
    Quiet s
      { s with timer := s.timer.notifyOne, stopPc := pc } := by
  have hFrame := notifyOne_frame s.timer
  refine ⟨hFrame.1, hFrame.2.1, hFrame.2.2.1, rfl,
    le_rfl, ?_⟩
  rcases threadPc_notifyOne s.timer with hSame | hTest
  · exact Or.inl hSame
  · refine Or.inr (fun last hExpire => ?_)
    exact absurd (hTest.symm.trans hExpire)
      (fun hPc => by cases hPc)

omit [DecidableEq T] in
theorem quiet_stopStep
    {s s' : TimerSystem T}
    (hStep : s.stopStep = some s') :
    Quiet s s' := by
  unfold stopStep at hStep
  split at hStep
  · rcases whenFree_eq_some.mp hStep with ⟨_, rfl⟩
    exact ⟨rfl, rfl, rfl, rfl, le_rfl, Or.inl rfl⟩
  · cases hStep
    exact quiet_notifyOne s .join
  · split_ifs at hStep
    cases hStep
    exact ⟨rfl, rfl, rfl, rfl, le_rfl, Or.inl rfl⟩
  · cases hStep

theorem move_step
    {s s' : TimerSystem T}
    {action : Action T}
    (hStep : s.step action = some s') :
    Move s s' action := by
  cases action with
  | register event timeout =>
      rcases whenFree_eq_some.mp hStep with ⟨_, hNext⟩
      exact .registers event timeout hNext.symm
  | remove event =>
      rcases whenFree_eq_some.mp hStep with ⟨_, hNext⟩
      exact .removes event hNext.symm
  | map clear =>
      rcases whenFree_eq_some.mp hStep with ⟨_, hNext⟩
      exact .maps clear hNext.symm
  | thread =>
      rcases Option.map_eq_some_iff.mp hStep with
        ⟨timer, hThread, hNext⟩
      subst hNext
      cases threadMove_threadStep hThread with
      | moves pc hNext hPc _ _ =>
          subst hNext
          exact .quiet .thread
            ⟨rfl, rfl, rfl, rfl, le_rfl, Or.inr hPc⟩
      | expires last tp event hPc hFirst hDue hNext =>
          subst hNext
          exact .expires last tp event hPc hFirst hDue rfl
  | stop => exact .quiet .stop (quiet_stopStep hStep)
  | tick duration =>
      cases hStep
      exact .quiet (.tick duration)
        ⟨rfl, rfl, rfl, rfl, Nat.le_add_right _ _,
          Or.inl rfl⟩
  | wake =>
      cases hStep
      exact .quiet .wake (quiet_notifyOne s s.stopPc)

end TimerSystem

end Nkurdt

------------------------------------------------------------
-- The Invariant
------------------------------------------------------------

namespace Nkurdt

namespace TimerSystem

open ConcurrentTimer
open Runs

variable {T : Type} [DecidableEq T]

/-
  The indexes agree, a bound deadline is that of the latest
  registration, and the expiry goes by the clock.
-/
structure Kept (s : TimerSystem T) : Prop where
  consistent :
    Consistent s.timer.events s.timer.registeredEvents
  latest :
    ∀ event tp,
      s.timer.registeredEvents event = some tp →
        s.latest event = some tp
  clock :
    ∀ last, s.timer.threadPc = .expire last →
      last ≤ s.clock
  nodup : s.timer.timedOutEvents.Nodup

theorem kept_fresh
    (now : Nat) :
    Kept (fresh T now) where
  consistent := consistent_empty
  latest := fun _ _ hNone => by cases hNone
  clock := fun _ hTest => by cases hTest
  nodup := List.nodup_nil

theorem kept_step
    {s s' : TimerSystem T}
    {action : Action T}
    (hKept : Kept s)
    (hStep : s.step action = some s') :
    Kept s' := by
  cases move_step hStep with
  | registers event timeout hNext =>
      subst hNext
      refine ⟨hKept.consistent.registerAt event _, ?_, ?_, ?_⟩
      · intro other tp hBinding
        dsimp only at hBinding ⊢
        rw [registeredEvents_registerAt] at hBinding
        rw [UnorderedMap.assign_apply]
        split_ifs at hBinding ⊢
        · exact hBinding
        · exact hKept.latest other tp hBinding
      · intro last hExpire
        dsimp only at hExpire
        rcases threadPc_registerAt s.timer event
            (deadline s.clock timeout) with hSame | hTest
        · exact hKept.clock last (hSame.symm.trans hExpire)
        · rw [hTest] at hExpire
          cases hExpire
      · dsimp only
        rw [timedOutEvents_registerAt]
        exact hKept.nodup
  | removes event hNext =>
      subst hNext
      refine ⟨hKept.consistent.removeEvent event, ?_, ?_, ?_⟩
      · intro other tp hBinding
        dsimp only at hBinding ⊢
        rw [registeredEvents_removeEvent] at hBinding
        rw [UnorderedMap.erase_apply]
        split_ifs at hBinding ⊢
        exact hKept.latest other tp hBinding
      · intro last hExpire
        dsimp only at hExpire
        rw [threadPc_removeEvent] at hExpire
        exact hKept.clock last hExpire
      · dsimp only
        rw [timedOutEvents_removeEvent]
        split_ifs
        · exact hKept.nodup
        · exact hKept.nodup.erase event
  | maps clear hNext =>
      subst hNext
      cases clear
      · exact hKept
      · exact ⟨hKept.consistent, hKept.latest, hKept.clock,
          List.nodup_nil⟩
  | expires last tp event hPc hFirst hDue hNext =>
      subst hNext
      refine ⟨(hKept.consistent.eraseFirst hFirst).2,
        ?_, ?_, hKept.nodup.insert⟩
      · intro other tp' hBinding
        unfold expireFirst at hBinding
        dsimp only at hBinding ⊢
        rw [UnorderedMap.erase_apply] at hBinding
        split_ifs at hBinding
        exact hKept.latest other tp' hBinding
      · intro last' hExpire
        cases hExpire
        exact le_rfl
  | quiet _ hQuiet =>
      refine ⟨?_, ?_, ?_, ?_⟩
      · rw [hQuiet.events, hQuiet.registeredEvents]
        exact hKept.consistent
      · rw [hQuiet.registeredEvents, hQuiet.latest]
        exact hKept.latest
      · intro last hExpire
        rcases hQuiet.threadPc with hSame | hNow
        · exact (hKept.clock last
            (hSame.symm.trans hExpire)).trans hQuiet.clock
        · exact (hNow last hExpire).le.trans hQuiet.clock
      · rw [hQuiet.timedOutEvents]
        exact hKept.nodup

theorem kept_of_reaches
    {now : Nat}
    {allowed :
      TimerSystem T → Action T → TimerSystem T → Prop}
    {s : TimerSystem T}
    (hReaches : Reaches step allowed (fresh T now) s) :
    Kept s :=
  hReaches.invariant (kept_fresh now)
    (fun _ _ _ hKept hStep _ => kept_step hKept hStep)

/-
  The event leaves the maps of its latest registration, the
  deadline of which is at most 100 ms ahead of the clock, and
  is timed out.
-/
structure Expired
    (s s' : TimerSystem T)
    (event : T)
    (tp : Nat) : Prop where
  registered : s.timer.registeredEvents event = some tp
  latest : s.latest event = some tp
  due : tp ≤ s.clock + milliseconds 100
  unregistered : s'.timer.registeredEvents event = none
  timedOut : event ∈ s'.timer.timedOutEvents

theorem expired_expireFirst
    {s : TimerSystem T}
    {last tp : Nat}
    {event : T}
    (hKept : Kept s)
    (hPc : s.timer.threadPc = .expire last)
    (hFirst : s.timer.events.first? = some (tp, event))
    (hDue : tp ≤ milliseconds 100 + last) :
    Expired s
      { s with timer := s.timer.expireFirst event s.clock }
      event tp := by
  have hBinding := (hKept.consistent.eraseFirst hFirst).1
  have hClock := hKept.clock last hPc
  refine ⟨hBinding, hKept.latest event tp hBinding,
    by omega, ?_, List.mem_insert_self⟩
  unfold expireFirst
  dsimp only
  rw [UnorderedMap.erase_apply, if_pos rfl]

/- Events enter the timed out set by expiring only. -/
theorem expires_of_move
    {s s' : TimerSystem T}
    {action : Action T}
    {event : T}
    (hMove : Move s s' action)
    (hAfter : event ∈ s'.timer.timedOutEvents)
    (hBefore : event ∉ s.timer.timedOutEvents) :
    s.Expires action event ∧
      s' =
        { s with
          timer := s.timer.expireFirst event s.clock } := by
  cases hMove with
  | registers other timeout hNext =>
      subst hNext
      dsimp only at hAfter
      rw [timedOutEvents_registerAt] at hAfter
      exact absurd hAfter hBefore
  | removes other hNext =>
      subst hNext
      dsimp only at hAfter
      rw [timedOutEvents_removeEvent] at hAfter
      split_ifs at hAfter
      · exact absurd hAfter hBefore
      · exact absurd (List.mem_of_mem_erase hAfter) hBefore
  | maps clear hNext =>
      subst hNext
      cases clear
      · exact absurd hAfter hBefore
      · cases hAfter
  | expires last tp other hPc hFirst hDue hNext =>
      subst hNext
      rcases List.mem_insert_iff.mp hAfter with rfl | hOld
      · exact ⟨⟨rfl, last, tp, hPc, hFirst, hDue⟩, rfl⟩
      · exact absurd hOld hBefore
  | quiet _ hQuiet =>
      rw [hQuiet.timedOutEvents] at hAfter
      exact absurd hAfter hBefore

theorem timedOut_of_move
    {s s' : TimerSystem T}
    {action : Action T}
    {event : T}
    (hKept : Kept s)
    (hMove : Move s s' action)
    (hAfter : event ∈ s'.timer.timedOutEvents)
    (hBefore : event ∉ s.timer.timedOutEvents) :
    action = .thread ∧ ∃ tp, Expired s s' event tp := by
  obtain ⟨hExpires, hNext⟩ :=
    expires_of_move hMove hAfter hBefore
  obtain ⟨hThread, last, tp, hPc, hFirst, hDue⟩ := hExpires
  subst hNext
  exact ⟨hThread, tp,
    expired_expireFirst hKept hPc hFirst hDue⟩

/- Registered events leave the maps in three ways. -/
theorem leaves_of_move
    {s s' : TimerSystem T}
    {action : Action T}
    {event : T}
    {tp : Nat}
    (hKept : Kept s)
    (hMove : Move s s' action)
    (hBefore : s.timer.registeredEvents event = some tp)
    (hAfter : s'.timer.registeredEvents event ≠ some tp) :
    action = .remove event ∨
      (∃ timeout, action = .register event timeout) ∨
      action = .thread ∧ Expired s s' event tp := by
  cases hMove with
  | registers other timeout hNext =>
      subst hNext
      dsimp only at hAfter
      rw [registeredEvents_registerAt] at hAfter
      by_cases hEqual : event = other
      · subst hEqual
        exact Or.inr (Or.inl ⟨timeout, rfl⟩)
      · rw [if_neg hEqual] at hAfter
        exact absurd hBefore hAfter
  | removes other hNext =>
      subst hNext
      dsimp only at hAfter
      rw [registeredEvents_removeEvent] at hAfter
      by_cases hEqual : event = other
      · exact Or.inl (by rw [hEqual])
      · rw [if_neg hEqual] at hAfter
        exact absurd hBefore hAfter
  | maps clear hNext =>
      subst hNext
      cases clear <;> exact absurd hBefore hAfter
  | expires last tp' other hPc hFirst hDue hNext =>
      subst hNext
      have hExpired :=
        expired_expireFirst hKept hPc hFirst hDue
      by_cases hEqual : event = other
      · subst hEqual
        have hSame : tp' = tp :=
          Option.some.inj
            (hExpired.registered.symm.trans hBefore)
        subst hSame
        exact Or.inr (Or.inr ⟨rfl, hExpired⟩)
      · unfold expireFirst at hAfter
        dsimp only at hAfter
        rw [UnorderedMap.erase_apply, if_neg hEqual] at hAfter
        exact absurd hBefore hAfter
  | quiet _ hQuiet =>
      rw [hQuiet.registeredEvents] at hAfter
      exact absurd hBefore hAfter

/-
  In every state reached after `start` the two indexes agree.
  An event is timed out by the expiry of its latest
  registration only, at most 100 ms early, and a registered
  event is removed, registered again or expired.
-/
theorem consistent_of_reaches
    {now : Nat}
    {s : TimerSystem T}
    (hReaches :
      Reaches step (fun _ _ _ => True) (fresh T now) s) :
    Consistent s.timer.events s.timer.registeredEvents ∧
      ∀ action s' event,
        s.step action = some s' →
        (event ∈ s'.timer.timedOutEvents →
          event ∉ s.timer.timedOutEvents →
          action = .thread ∧
            ∃ tp, Expired s s' event tp) ∧
        (∀ tp,
          s.timer.registeredEvents event = some tp →
          s'.timer.registeredEvents event ≠ some tp →
          action = .remove event ∨
            (∃ timeout, action = .register event timeout) ∨
            action = .thread ∧ Expired s s' event tp) := by
  have hKept := kept_of_reaches hReaches
  refine ⟨hKept.consistent, ?_⟩
  intro action s' event hStep
  have hMove := move_step hStep
  exact ⟨timedOut_of_move hKept hMove,
    fun _ => leaves_of_move hKept hMove⟩

/- An event that is registered and expires. -/
theorem consistent_of_reaches_expired :
    ∃ s s' : TimerSystem Nat,
      Reaches step (fun _ _ _ => True) (fresh Nat 0) s ∧
      s.step .thread = some s' ∧
      ∃ tp, Expired s s' 7 tp := by
  have hRun :
      ∃ s : TimerSystem Nat,
        Reaches step (fun _ _ _ => True) (fresh Nat 0) s ∧
        (7 ∉ s.timer.timedOutEvents ∧
          (s.step .thread).any
            (fun s' =>
              decide (7 ∈ s'.timer.timedOutEvents)) =
            true) :=
    exists_reaches_of_runActions
      [.register 7 1, .thread, .tick 1000000, .thread]
      (by decide +kernel)
  obtain ⟨s, hReaches, hBefore, hAny⟩ := hRun
  cases hStep : s.step .thread with
  | none =>
      rw [hStep] at hAny
      cases hAny
  | some s' =>
      rw [hStep] at hAny
      have hAfter := of_decide_eq_true hAny
      have hBoth := (consistent_of_reaches hReaches).2
      exact ⟨s, s', hReaches, hStep,
        ((hBoth .thread s' 7 hStep).1 hAfter hBefore).2⟩

end TimerSystem

end Nkurdt
