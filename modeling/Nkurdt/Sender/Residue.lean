import Nkurdt.Sender.Retry

/-
  What a call that timed out leaves behind.

  `send_handler` drops a number whose retries are used up,
  and `connect` and `send` then return. The number keeps its
  slot in the window. Nothing but an acknowledgement frees
  the slot, so that the calls behind have the whole window
  exactly when it has been received before the return.

  Main declarations:
    * `Sender.Opens`
    * `Sender.LeftBehind`
    * `Sender.SlotsFree`
    * `Sender.LeavesNothing`
    * `Sender.AckedInTime`
    * `Sender.leavesNothing_iff`
    * `Sender.exists_leftBehind`
-/

------------------------------------------------------------
-- Requests Left Behind
------------------------------------------------------------

namespace Nkurdt

/- The request that is sent, up to the return of its call. -/
def CallerPc.awaited? : CallerPc → Option Request
| .finish r => some r
| pc => pc.sent?

namespace Sender

open Runs

/-
  The number of the `ConnReq` or `DataPush` of the call in
  progress.
-/
def Opens (s : Sender) (n : Nat) : Prop :=
  s.history.request = some n ∧
    ∃ r ∈ s.callerPc.awaited?, r = .connect ∨ r = .push

instance (s : Sender) (n : Nat) : Decidable (s.Opens n) :=
  inferInstanceAs (Decidable (_ ∧ ∃ _ ∈ _, _))

instance (s : Sender) (n : Nat) :
    Decidable (s.timer.Watched n) :=
  inferInstanceAs (Decidable (_ ∨ _))

/- In the window, and not scheduled for a transmission. -/
def LeftBehind (s : Sender) (n : Nat) : Prop :=
  s.window.lowerBound ≤ n ∧ n < s.window.upperBound ∧
    n ∉ s.pendingQueue ∧ ¬ s.timer.Watched n

instance (s : Sender) (n : Nat) :
    Decidable (s.LeftBehind n) :=
  inferInstanceAs (Decidable (_ ∧ _ ∧ _ ∧ _))

/- The window has been moved past the number, or will be. -/
def Acked (s : Sender) (n : Nat) : Prop :=
  n < s.window.lowerBound ∨
    s.selectiveRepeat = true ∧ n ∈ s.ackedSeqSet

/-
  The whole window is there for the numbers from `first` on.
  They alone have slots, and they alone are transmitted or
  found used up. With less than `max_window_size_` of them
  in the window a slot is available, and once they are all
  acknowledged the window is empty. An acknowledgement of a
  number that was never built takes the lower bound past the
  upper one: that is no question of slots.
-/
structure SlotsFree (first : Nat) (s : Sender) : Prop where
  own :
    ∀ n, s.window.lowerBound ≤ n →
      n < s.window.upperBound → first ≤ n
  sending :
    ∀ n, s.sendPc.inWindow? = some n → first ≤ n
  full :
    s.window.lowerBound ≤ s.window.upperBound →
    ((Finset.Ico s.window.lowerBound
        s.window.upperBound).filter (first ≤ ·)).card <
      s.window.maxWindowSize % 2 ^ 32 →
    s.window.Available
  zero :
    s.window.lowerBound ≤ s.window.upperBound →
    ¬ s.recvPc.AtWork →
    (∀ n, first ≤ n → n < s.window.upperBound → s.Acked n) →
    s.window.Zero

/-
  A call that has returned leaves nothing of the number
  behind: it is out of the window or scheduled, and at every
  moment of the calls behind the window is there for what
  these calls build.
-/
def LeavesNothing (s : Sender) (n : Nat) : Prop :=
  ¬ s.LeftBehind n ∧
    ∀ t,
      Reaches step
        (fun current _ next => NoWrap current next) s t →
      s.history.calls.length < t.history.calls.length →
      SlotsFree s.history.packets.length t

/-
  Packets that cover the number and every number before it
  have been received, and `recv_handler` is not on its way
  to the move of the lower bound past the number.
-/
def AckedInTime (s : Sender) (n : Nat) : Prop :=
  (∀ m ≤ n, s.Covered m) ∧
    ¬ (s.recvPc.AtWork ∧ s.window.lowerBound ≤ n)

instance (s : Sender) (n : Nat) :
    Decidable (s.AckedInTime n) :=
  inferInstanceAs (Decidable ((∀ _ ≤ _, _) ∧ ¬ (_ ∧ _)))

end Sender

end Nkurdt

------------------------------------------------------------
-- The Request of a Call
------------------------------------------------------------

namespace Nkurdt

/- The request whose packet the call has not built yet. -/
def CallerPc.unbuilt? : CallerPc → Option Request
| .waitWindow t => t.request?
| .testRunning t => t.request?
| .upperBound t => t.request?
| .updateUpper t _ => t.request?
| _ => none

namespace Sender

theorem awaited?_of_wake
    {pc pc' : CallerPc}
    (hCaller : pc' = pc ∨ pc' = wake pc) :
    pc'.awaited? = pc.awaited? ∧
      pc'.unbuilt? = pc.unbuilt? := by
  rcases hCaller with rfl | rfl
  · exact ⟨rfl, rfl⟩
  · cases pc <;> exact ⟨rfl, rfl⟩

/-
  The packet that opens a call is the last that was built,
  up to the return from its wait.
-/
structure RequestLast (s : Sender) : Prop where
  unbuilt :
    ∀ r, s.callerPc.unbuilt? = some r →
      s.history.request = none
  opened :
    ∀ n, s.Opens n → n + 1 = s.history.packets.length

theorem requestLast_fresh
    (config : SenderConfig) :
    RequestLast (fresh config) where
  unbuilt _ hUnbuilt := by cases hUnbuilt
  opened _ hOpens := by cases hOpens.1

/- No packet is built, and no other request waited for. -/
theorem RequestLast.congr
    {s s' : Sender}
    (hLast : RequestLast s)
    (hRequest : s'.history.request = s.history.request)
    (hPackets : s'.history.packets = s.history.packets)
    (hUnbuilt :
      ∀ r, s'.callerPc.unbuilt? = some r →
        s.callerPc.unbuilt? = some r)
    (hAwaited :
      ∀ r, s'.callerPc.awaited? = some r →
        s.callerPc.awaited? = some r) :
    RequestLast s' where
  unbuilt r hNext := by
    rw [hRequest]
    exact hLast.unbuilt r (hUnbuilt r hNext)
  opened n hOpens := by
    rcases hOpens with ⟨hNumber, r, hNext, hOpening⟩
    rw [hRequest] at hNumber
    rw [hPackets]
    exact hLast.opened n
      ⟨hNumber, r, hAwaited r hNext, hOpening⟩

theorem requestLast_callerStep
    {s s' : Sender}
    (hLast : RequestLast s)
    (hOriginals : Originals s)
    (hStep : s.callerStep = some s') :
    RequestLast s' := by
  cases callerStep_branch hStep with
  | enters =>
      exact ⟨fun _ _ => rfl, fun _ hOpens => by cases hOpens.1⟩
  | skips hPc hIdle =>
      refine ⟨fun _ hUnbuilt => ?_, ?_⟩
      · cases hUnbuilt
      intro n hOpens
      rcases hOpens with ⟨_, r, hAwaited, hOpening⟩
      cases hAwaited
      rw [hIdle.1] at hOpening
      rcases hOpening with hConnect | hPush
      · cases hConnect
      · cases hPush
  | @updatesUpper t seq request hPc _ hRequest _ =>
      refine ⟨fun _ hUnbuilt => ?_, ?_⟩
      · cases hUnbuilt
      intro n hOpens
      rcases hOpens with ⟨hNumber, r, hAwaited, _⟩
      cases t with
      | request r' =>
          have hSame : request = some n := hNumber
          rw [hRequest r' rfl] at hSame
          rw [List.length_append, List.length_singleton,
            hOriginals.length, ← Option.some.inj hSame,
            hOriginals.reserved _ _ hPc]
      | data payload => cases hAwaited
  | findsRoom hPc | findsFull hPc | waitsOn hPc =>
      refine hLast.congr rfl rfl ?_ ?_
      all_goals
        rw [hPc]
        exact fun _ hSame => hSame
  | readsUpper hPc =>
      refine hLast.congr rfl rfl ?_ ?_
      all_goals
        rw [hPc]
        exact fun _ hSame => hSame
  | @abandons t hPc | @unlocksPool t hPc =>
      refine hLast.congr rfl rfl ?_ ?_
      all_goals
        rw [hPc]
        intro r hNext
        cases t with
        | request r' => first | exact hNext | cases hNext
        | data payload => cases hNext
  | locksPool hPc | emplaces hPc | pushes hPc =>
      refine hLast.congr rfl rfl
        (fun _ hUnbuilt => by cases hUnbuilt) ?_
      rw [hPc]
      exact fun _ hSame => hSame
  | findsDone hPc | waits hPc | relocks hPc =>
      refine hLast.congr rfl rfl
        (fun _ hUnbuilt => by cases hUnbuilt) ?_
      rw [hPc]
      exact fun _ hSame => hSame
  | _ =>
      exact hLast.congr rfl rfl
        (fun _ hUnbuilt => by cases hUnbuilt)
        (fun _ hAwaited => by cases hAwaited)

theorem requestLast_step
    {s s' : Sender}
    {action : Action}
    (hLast : RequestLast s)
    (hOriginals : Originals s)
    (hStep : s.step action = some s') :
    RequestLast s' := by
  by_cases hCaller : action = .thread .caller
  · subst hCaller
    exact requestLast_callerStep hLast hOriginals hStep
  by_cases hCall : ∃ call, action = .call call
  · rcases hCall with ⟨call, rfl⟩
    rcases (callStep_keeps hStep).starts with ⟨_, hPc⟩ | hPc
    all_goals
      refine ⟨?_, ?_⟩
      · rw [hPc]
        exact fun _ hUnbuilt => by cases hUnbuilt
      · intro n hOpens
        rcases hOpens with ⟨_, r, hAwaited, _⟩
        rw [hPc] at hAwaited
        cases hAwaited
  · push Not at hCall
    have hKept := callKept_step hStep hCall hCaller
    have hSame := awaited?_of_wake hKept.callerPc
    refine hLast.congr hKept.request hKept.packets ?_ ?_
    · rw [hSame.2]
      exact fun _ hUnbuilt => hUnbuilt
    · rw [hSame.1]
      exact fun _ hAwaited => hAwaited

end Sender

end Nkurdt

------------------------------------------------------------
-- Slots
------------------------------------------------------------

namespace Nkurdt

namespace Sender

open Runs

/- What a run without a wrap knows of its window. -/
structure SlotsTracked (s : Sender) : Prop where
  originals : Originals s
  guarded : MutexesGuarded s
  cleared : Cleared s
  acks : AcksTaken s
  last : RequestLast s

theorem slotsTracked_fresh
    (config : SenderConfig) :
    SlotsTracked (fresh config) :=
  ⟨originals_fresh config, mutexesGuarded_fresh config,
    cleared_fresh config, acksTaken_fresh config,
    requestLast_fresh config⟩

theorem slotsTracked_step
    {s s' : Sender}
    {action : Action}
    (hTracked : SlotsTracked s)
    (hStep : s.step action = some s')
    (hWrap : NoWrap s s') :
    SlotsTracked s' :=
  ⟨originals_step hTracked.originals hStep hWrap,
    mutexesGuarded_step hTracked.guarded hStep,
    cleared_step hTracked.guarded hTracked.cleared hStep,
    acksTaken_step hTracked.acks hStep hWrap,
    requestLast_step hTracked.last hTracked.originals hStep⟩

/- A run without a wrap does not move the bound back. -/
theorem lowerBound_le_of_reaches
    {s t : Sender}
    (hReach :
      Reaches step (fun current _ next => NoWrap current next)
        s t) :
    s.window.lowerBound ≤ t.window.lowerBound := by
  induction hReach with
  | refl => exact le_rfl
  | tail _ _ hWrap hLower => exact hLower.trans hWrap.lower

/-
  A window whose lower bound is past all the numbers of the
  earlier calls has all its slots.
-/
theorem slotsFree_of_le
    {s : Sender}
    {first : Nat}
    (hTracked : SlotsTracked s)
    (hPassed : first ≤ s.window.lowerBound) :
    SlotsFree first s where
  own _ hLower _ := hPassed.trans hLower
  sending n hInWindow :=
    hPassed.trans (hTracked.cleared.lower n hInWindow)
  full hBounds hFew := by
    have hOwn :
        (Finset.Ico s.window.lowerBound
            s.window.upperBound).filter (first ≤ ·) =
          Finset.Ico s.window.lowerBound
            s.window.upperBound :=
      Finset.filter_true_of_mem (fun n hMember =>
        hPassed.trans (Finset.mem_Ico.mp hMember).1)
    rw [hOwn, Nat.card_Ico] at hFew
    have hCount :=
      SequenceNumber.sub_of_le hBounds
        hTracked.originals.bounded
    exact hCount.trans_lt hFew
  zero hBounds hRest hAcked := by
    by_contra hOpen
    have hLess :
        s.window.lowerBound < s.window.upperBound :=
      lt_of_le_of_ne hBounds (fun hSame => hOpen hSame.symm)
    rcases hAcked s.window.lowerBound hPassed hLess with
      hBelow | ⟨hMode, hMember⟩
    · exact absurd hBelow (lt_irrefl _)
    · exact hTracked.acks.ready.clear hMode
        (fun hSlide => hRest (Or.inr hSlide)) hMember

/-
  The lower bound is past a number exactly when the number
  has been acknowledged in time.
-/
theorem ackedInTime_iff
    {s : Sender}
    {n : Nat}
    (hAcks : AcksTaken s) :
    s.AckedInTime n ↔ n < s.window.lowerBound := by
  constructor
  · rintro ⟨hCovered, hNotOnTheWay⟩
    by_contra hAhead
    have hRest : ¬ s.recvPc.AtWork :=
      fun hWork => hNotOnTheWay ⟨hWork, not_lt.mp hAhead⟩
    apply hAhead
    apply lt_lowerBound_of_taken hAcks.ready hRest
    intro m hLe
    rcases hCovered m hLe with ⟨packet, hMember, hCovers⟩
    rcases hAcks.taken packet hMember with hUntaken | hTaken
    · exact absurd
        (RecvPc.atWork_of_untaken? hUntaken) hRest
    · exact hTaken m hCovers
  · intro hPassed
    refine ⟨?_, fun hBoth => absurd hPassed
      (not_lt.mpr hBoth.2)⟩
    intro m hLe
    exact hAcks.covered m (Or.inl (hLe.trans_lt hPassed))

end Sender

end Nkurdt

------------------------------------------------------------
-- Returns
------------------------------------------------------------

namespace Nkurdt

namespace Sender

open Runs

/- Only a wait that has failed returns `timed_out`. -/
theorem eq_of_returnsTimedOut
    {s s' : Sender}
    {action : Action}
    (hStep : s.step action = some s')
    (hReturns :
      s'.history.results =
        s.history.results ++ [.timedOut]) :
    s' = s.unlockReturn .timedOut := by
  have hCaller : action = .thread .caller := by
    by_contra hOther
    rw [results_of_other hStep hOther] at hReturns
    exact results_ne_append _ _ hReturns
  subst hCaller
  cases callerStep_branch hStep with
  | fails => rfl
  | succeeds | cancels | stops =>
      have hLast := List.append_cancel_left hReturns
      cases hLast
  | _ => exact absurd hReturns (results_ne_append _ _)

/-
  When `connect` or `send` returns `timed_out`, it leaves
  nothing of its `ConnReq` or `DataPush` behind exactly when
  the number and every number before it have been covered by
  packets that `recv_handler` is done with.
-/
theorem leavesNothing_iff
    {config : SenderConfig}
    {s s' : Sender}
    {action : Action}
    {n : Nat}
    (hReach :
      Reaches step (fun current _ next => NoWrap current next)
        (fresh config) s)
    (hStep : s.step action = some s')
    (hReturns :
      s'.history.results =
        s.history.results ++ [.timedOut])
    (hOpens : s.Opens n) :
    s'.LeavesNothing n ↔ s.AckedInTime n := by
  have hTracked : SlotsTracked s :=
    hReach.invariant (slotsTracked_fresh config)
      (fun _ _ _ hCurrent hNext hWrap =>
        slotsTracked_step hCurrent hNext hWrap)
  have hLength := hTracked.last.opened n hOpens
  have hUpper := hTracked.originals.length
  rw [ackedInTime_iff hTracked.acks]
  have hReturned := eq_of_returnsTimedOut hStep hReturns
  have hNext : SlotsTracked s' :=
    slotsTracked_step hTracked hStep
      (by rw [hReturned]; exact ⟨le_rfl, le_rfl⟩)
  subst hReturned
  constructor
  · rintro ⟨_, hLater⟩
    -- A call that begins at once finds the window as it is.
    have hCall :
        (s.unlockReturn .timedOut).step (.call .disconnect) =
          some
            { (s.unlockReturn .timedOut).beginCall
                .disconnect with
              callerPc := .lockState .disconnect } :=
      rfl
    have hFree :=
      hLater _ (Reaches.refl.tail hCall ⟨le_rfl, le_rfl⟩)
        (by
          show s.history.calls.length <
            (s.history.calls ++ [Call.disconnect]).length
          rw [List.length_append]
          exact Nat.lt_succ_self _)
    by_contra hAhead
    have hOwn := hFree.own n (not_lt.mp hAhead) (by
      show n < s.window.upperBound
      omega)
    have hFirst : s.history.packets.length ≤ n := hOwn
    omega
  · intro hPassed
    refine ⟨fun hLeft => absurd hPassed
      (not_lt.mpr hLeft.1), ?_⟩
    intro t hRun _
    have hThere : SlotsTracked t :=
      hRun.invariant hNext
        (fun _ _ _ hCurrent hAfter hWrap =>
          slotsTracked_step hCurrent hAfter hWrap)
    apply slotsFree_of_le hThere
    have hLower := lowerBound_le_of_reaches hRun
    have hFirst :
        (s.unlockReturn .timedOut).history.packets.length =
          n + 1 :=
      hLength.symm
    rw [hFirst]
    exact hPassed.trans_le hLower

/-
  The retries of a connection request are used up, and its
  acknowledgement arrives before the call has returned. The
  window is empty again.
-/
theorem leavesNothing_iff_connect :
    ∃ s s' : Sender,
      s.step (.thread .caller) = some s' ∧
      s'.history.results =
        s.history.results ++ [.timedOut] ∧
      s.Opens 0 ∧ 0 ∈ s.history.exhausted ∧
      s'.LeavesNothing 0 := by
  have hRun :
      ∃ s,
        Reaches step
          (fun current _ next => NoWrap current next)
          (fresh ⟨1, 0, 1, false, false⟩) s ∧
        (s.Opens 0 ∧ 0 ∈ s.history.exhausted ∧
          s.AckedInTime 0) ∧
        ∃ s' ∈ s.step (.thread .caller),
          s'.history.results =
            s.history.results ++ [.timedOut] :=
    exists_reaches_of_runActions
      ([Action.call (.connect ⟨0, 1⟩)] ++ steps .caller 10 ++
        steps .sendHandler 13 ++
        [Action.tick 1000000, .timer, .timer, .timer, .timer] ++
        steps .timeoutHandler 8 ++ steps .sendHandler 14 ++
        steps .recvHandler 1 ++
        [Action.recv (.datagram
          (Packet.toBytes ⟨version, .connAck, 1, []⟩)
          ⟨0, 1⟩)] ++
        steps .recvHandler 9 ++ steps .caller 2)
      (by decide +kernel)
  obtain ⟨s, hReach, ⟨hOpens, hUsedUp, hInTime⟩, s', hStep,
    hReturns⟩ := hRun
  exact ⟨s, s', hStep, hReturns, hOpens, hUsedUp,
    (leavesNothing_iff hReach hStep hReturns hOpens).mpr
      hInTime⟩

/-
  A connection that nobody answers, with a window of one
  packet. Its request keeps the only slot: the next call
  waits for a slot, and nothing is left that could free it.
-/
theorem exists_leftBehind :
    ∃ s s' : Sender,
      Reaches step (fun _ _ _ => True)
        (fresh ⟨1, 0, 1, false, false⟩) s ∧
      s.step (.thread .caller) = some s' ∧
      s'.history.results =
        s.history.results ++ [.timedOut] ∧
      s.Opens 0 ∧ 0 ∈ s.history.exhausted ∧
      s'.LeftBehind 0 ∧
      ∃ t,
        runActions step (fun _ _ _ => True) s'
            ([.call (.connect ⟨0, 1⟩)] ++
              steps .caller 4) = some t ∧
          t.callerPc = .waitWindow (.request .connect) ∧
          ¬ t.window.Available ∧
          t.pendingQueue.elems = [] ∧
          t.timer.events.entries = [] ∧
          t.timer.timedOutEvents = [] := by
  have hRun :
      ∃ s,
        Reaches step (fun _ _ _ => True)
          (fresh ⟨1, 0, 1, false, false⟩) s ∧
        (s.Opens 0 ∧ 0 ∈ s.history.exhausted) ∧
        ∃ s' ∈ s.step (.thread .caller),
          s'.history.results =
              s.history.results ++ [.timedOut] ∧
            s'.LeftBehind 0 ∧
            ∃ t ∈ runActions step (fun _ _ _ => True) s'
                ([.call (.connect ⟨0, 1⟩)] ++
                  steps .caller 4),
              t.callerPc =
                  .waitWindow (.request .connect) ∧
                ¬ t.window.Available ∧
                t.pendingQueue.elems = [] ∧
                t.timer.events.entries = [] ∧
                t.timer.timedOutEvents = [] :=
    exists_reaches_of_runActions
      ([Action.call (.connect ⟨0, 1⟩)] ++ steps .caller 10 ++
        steps .sendHandler 13 ++
        [Action.tick 1000000, .timer, .timer, .timer, .timer] ++
        steps .timeoutHandler 8 ++ steps .sendHandler 14 ++
        steps .caller 2)
      (by decide +kernel)
  obtain ⟨s, hReach, ⟨hOpens, hUsedUp⟩, s', hStep, hReturns,
    hLeft, t, hState, hPc, hFull, hQueue, hEvents,
    hTimedOut⟩ := hRun
  exact ⟨s, s', hReach, hStep, hReturns, hOpens, hUsedUp,
    hLeft, t, hState, hPc, hFull, hQueue, hEvents,
    hTimedOut⟩

end Sender

end Nkurdt
