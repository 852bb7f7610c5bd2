import Nkurdt.Sender.Calls
import Nkurdt.Sender.WindowMoves

/-
  What `send_handler` sends, and how often.

  The handler checks a number against the window and the set
  of acknowledged numbers, and sends it, in one section of
  the mutex of the set, which `recv_handler` needs in order
  to move either. The count of the retries covers all the
  transmissions of a number up to its cleaning up; behind
  that the number is below the window, or its packet has
  left the pool for good.

  Main declarations:
    * `Sender.Stored`
    * `Sender.Circulates`
    * `Sender.Gone`
    * `Sender.Counted`
    * `Sender.transmits_inDiscipline`
-/

------------------------------------------------------------
-- Stored Numbers
------------------------------------------------------------

namespace Nkurdt

/- The number that `send_packet` will put in the pool. -/
def CallerPc.storing? : CallerPc → Option Nat
| .lockPool _ seq => some seq
| .emplace _ seq => some seq
| _ => none

theorem CallerPc.storing?_of_wake
    {pc pc' : CallerPc}
    (hCaller : pc' = pc ∨ pc' = Sender.wake pc) :
    pc'.storing? = pc.storing? := by
  rcases hCaller with rfl | rfl
  · rfl
  · cases pc <;> rfl

namespace Sender

/- The packet of the number has been put in the pool. -/
structure Stored (s : Sender) (n : Nat) : Prop where
  allocated : n < s.window.upperBound
  emplaced : s.callerPc.storing? ≠ some n

/- A number is to be stored when it has been taken. -/
theorem storing?_callerStep
    {s s' : Sender}
    {n : Nat}
    (hStep : s.callerStep = some s')
    (hNext : s'.callerPc.storing? = some n) :
    s.callerPc.storing? = some n ∨
      ∃ t, s.callerPc = .updateUpper t n := by
  cases callerStep_branch hStep with
  | updatesUpper hPc =>
      cases hNext
      exact Or.inr ⟨_, hPc⟩
  | locksPool hPc =>
      rw [hPc]
      exact Or.inl hNext
  | @abandons t | @unlocksPool t =>
      cases t <;> cases hNext
  | _ => cases hNext

/- A stored number is not stored again. -/
theorem stored_step
    {s s' : Sender}
    {action : Action}
    {n : Nat}
    (hOriginals : Originals s)
    (hStored : s.Stored n)
    (hStep : s.step action = some s')
    (hWrap : NoWrap s s') :
    s'.Stored n := by
  refine ⟨hStored.allocated.trans_le hWrap.upper, ?_⟩
  intro hNext
  by_cases hCaller : action = .thread .caller
  · subst hCaller
    rcases storing?_callerStep hStep hNext with
      hOld | ⟨t, hPc⟩
    · exact hStored.emplaced hOld
    · exact hStored.allocated.ne
        (hOriginals.reserved t n hPc)
  by_cases hCall : ∃ call, action = .call call
  · obtain ⟨call, rfl⟩ := hCall
    have hPhase := (callBegins_callStep hStep).phase
    cases hPc : s'.callerPc
    all_goals rw [hPc] at hNext hPhase
    case lockPool t seq =>
      cases t <;> cases call <;> cases hPhase
    case emplace t seq =>
      cases t <;> cases call <;> cases hPhase
    all_goals cases hNext
  · have hKept :=
      callKept_step hStep
        (fun call hAction => hCall ⟨call, hAction⟩) hCaller
    rw [CallerPc.storing?_of_wake hKept.callerPc] at hNext
    exact hStored.emplaced hNext

theorem packetPool_callerStep
    {s s' : Sender}
    {n : Nat}
    {packet : Packet}
    (hStep : s.callerStep = some s')
    (hPool : s'.packetPool n = some packet) :
    s.packetPool n = some packet ∨
      s.callerPc.storing? = some n := by
  cases callerStep_branch hStep with
  | emplaces hPc =>
      dsimp only at hPool
      rw [UnorderedMap.emplace_apply] at hPool
      split_ifs at hPool with hEqual
      · right
        rw [hPc, hEqual]
        rfl
      · exact Or.inl hPool
  | _ => exact Or.inl hPool

/- The pool gains a packet where it is emplaced. -/
theorem packetPool_step
    {s s' : Sender}
    {action : Action}
    {n : Nat}
    {packet : Packet}
    (hStep : s.step action = some s')
    (hPool : s'.packetPool n = some packet) :
    s.packetPool n = some packet ∨
      s.callerPc.storing? = some n := by
  cases action with
  | call call =>
      rw [(callStep_keeps hStep).packetPool] at hPool
      exact Or.inl hPool
  | thread thread =>
      cases thread with
      | caller => exact packetPool_callerStep hStep hPool
      | sendHandler =>
          exact Or.inl (packetPool_sendHandlerStep hStep hPool)
      | recvHandler =>
          rw [(recvHandlerStep_keeps hStep).packetPool] at hPool
          exact Or.inl hPool
      | timeoutHandler =>
          rw [(timeoutHandlerStep_keeps hStep).packetPool]
            at hPool
          exact Or.inl hPool
  | timer =>
      rcases Option.map_eq_some_iff.mp hStep with
        ⟨timer, _, rfl⟩
      exact Or.inl hPool
  | recv result =>
      rw [(recvStep_keeps hStep).packetPool] at hPool
      exact Or.inl hPool
  | tick duration =>
      rw [← Option.some.inj hStep] at hPool
      exact Or.inl hPool
  | wakeCaller =>
      rw [← Option.some.inj hStep] at hPool
      exact Or.inl hPool
  | wakeTimer =>
      rw [← Option.some.inj hStep] at hPool
      exact Or.inl hPool

end Sender

end Nkurdt

------------------------------------------------------------
-- Numbers in Circulation
------------------------------------------------------------

namespace Nkurdt

namespace Sender

/- The number is queued, timed or in hand. -/
def Circulates (s : Sender) (n : Nat) : Prop :=
  n ∈ s.pendingQueue ∨ s.timer.Mentions n ∨
    s.sendPc.number? = some n

/- `timeout_handler` takes its numbers from the timer. -/
theorem origin_timeoutHandlerStep
    {s s' : Sender}
    {n : Nat}
    (hStep : s.timeoutHandlerStep = some s') :
    (n ∈ s'.pendingQueue →
        n ∈ s.pendingQueue ∨ s.timer.Mentions n) ∧
      (s'.timer.Mentions n → s.timer.Mentions n) := by
  cases timeoutHandlerStep_branch hStep with
  | maps =>
      constructor
      · intro hQueued
        exact (ConcurrentQueue.mem_pushAll.mp
          hQueued).imp_right Or.inr
      · rintro (hEntry | hTimedOut)
        · exact Or.inl hEntry
        · cases hTimedOut
  | _ => exact ⟨Or.inl, id⟩

/-
  In selective repeat a number comes into circulation by the
  `push` of `send_packet`.
-/
theorem circulates_step
    {s s' : Sender}
    {action : Action}
    {n : Nat}
    (hMode : s.selectiveRepeat = true)
    (hReady : WindowReady s)
    (hStep : s.step action = some s')
    (hNext : s'.Circulates n) :
    s.Circulates n ∨ ∃ t, s.callerPc = .push t n := by
  unfold Circulates at hNext ⊢
  cases action with
  | call call =>
      have hKeeps := callStep_keeps hStep
      rw [hKeeps.mentions, hKeeps.sendPc, hKeeps.pendingQueue]
        at hNext
      exact Or.inl hNext
  | thread thread =>
      cases thread with
      | caller =>
          have hKeeps := callerStep_keeps hStep
          rw [hKeeps.mentions, hKeeps.sendPc] at hNext
          by_cases hPush : ∃ t seq, s.callerPc = .push t seq
          · rcases hPush with ⟨t, seq, hPc⟩
            change s.callerStep = some s' at hStep
            unfold callerStep at hStep
            simp only [hPc, whenFree_eq_some] at hStep
            rcases hStep with ⟨_, rfl⟩
            dsimp only at hNext
            rw [ConcurrentQueue.mem_push] at hNext
            rcases hNext with (hOld | rfl) | hOther
            · exact Or.inl (Or.inl hOld)
            · exact Or.inr ⟨t, hPc⟩
            · exact Or.inl (Or.inr hOther)
          · rw [pendingQueue_callerStep hStep
              (fun t seq hPc => hPush ⟨t, seq, hPc⟩)] at hNext
            exact Or.inl hNext
      | sendHandler =>
          obtain ⟨hQueue, hTimer, hNumber, _⟩ :=
            @origin_sendHandlerStep s s' n hStep
          left
          rcases hNext with hQueued | hMentions | hInHand
          · exact Or.inl (hQueue hQueued)
          · rcases hTimer hMentions with hOld | hSelf
            · exact Or.inr (Or.inl hOld)
            · exact Or.inr (Or.inr hSelf)
          · rcases hNumber hInHand with hOld | hQueued
            · exact Or.inr (Or.inr hOld)
            · exact Or.inl hQueued
      | recvHandler =>
          have hKeeps := recvHandlerStep_keeps hStep
          have hQueue :=
            pendingQueue_recvHandlerStep hStep
              (fun packet lower upper hPc => by
                have hGoBackN :=
                  hReady.goBackN (by rw [hPc]; trivial)
                rw [hGoBackN] at hMode
                cases hMode)
          rw [hQueue, hKeeps.timer, hKeeps.sendPc] at hNext
          exact Or.inl hNext
      | timeoutHandler =>
          have hKeeps := timeoutHandlerStep_keeps hStep
          have hOrigin :=
            @origin_timeoutHandlerStep s s' n hStep
          rw [hKeeps.sendPc] at hNext
          left
          rcases hNext with hQueued | hMentions | hInHand
          · rcases hOrigin.1 hQueued with hOld | hTimedOut
            · exact Or.inl hOld
            · exact Or.inr (Or.inl hTimedOut)
          · exact Or.inr (Or.inl (hOrigin.2 hMentions))
          · exact Or.inr (Or.inr hInHand)
  | timer =>
      rcases Option.map_eq_some_iff.mp hStep with
        ⟨timer, hTimer, rfl⟩
      left
      rcases hNext with hQueued | hMentions | hInHand
      · exact Or.inl hQueued
      · exact Or.inr (Or.inl
          (ConcurrentTimer.mentions_of_threadStep hTimer
            hMentions))
      · exact Or.inr (Or.inr hInHand)
  | recv result =>
      have hKeeps := recvStep_keeps hStep
      rw [hKeeps.pendingQueue, hKeeps.timer, hKeeps.sendPc]
        at hNext
      exact Or.inl hNext
  | tick duration =>
      rw [← Option.some.inj hStep] at hNext
      exact Or.inl hNext
  | wakeCaller =>
      rw [← Option.some.inj hStep] at hNext
      exact Or.inl hNext
  | wakeTimer =>
      rw [← Option.some.inj hStep] at hNext
      rcases hNext with hQueued | hMentions | hInHand
      · exact Or.inl (Or.inl hQueued)
      · exact Or.inl (Or.inr (Or.inl
          (ConcurrentTimer.mentions_notifyOne.mp hMentions)))
      · exact Or.inl (Or.inr (Or.inr hInHand))

/- In selective repeat, what circulates has been stored. -/
def Circulating (s : Sender) : Prop :=
  s.selectiveRepeat = true →
    ∀ n, s.Circulates n → s.Stored n

theorem circulating_fresh
    (config : SenderConfig) :
    Circulating (fresh config) := by
  rintro _ n (hQueued | (⟨tp, hEntry⟩ | hTimedOut) | hNumber)
  · exact absurd hQueued (OrderedSet.not_mem_empty n)
  · cases hEntry
  · cases hTimedOut
  · cases hNumber

theorem circulating_step
    {s s' : Sender}
    {action : Action}
    (hOriginals : Originals s)
    (hReady : WindowReady s)
    (hCirculating : Circulating s)
    (hStep : s.step action = some s')
    (hWrap : NoWrap s s') :
    Circulating s' := by
  intro hMode n hNext
  rw [(sameConfig_step hStep).selectiveRepeat] at hMode
  have hStored : s.Stored n := by
    rcases circulates_step hMode hReady hStep hNext with
      hOld | ⟨t, hPc⟩
    · exact hCirculating hMode n hOld
    · have hBuilt :=
        hOriginals.allocated t n (by rw [hPc]; rfl)
      refine ⟨hOriginals.lt_upperBound hBuilt, ?_⟩
      rw [hPc]
      exact fun hStoring => by cases hStoring
  exact stored_step hOriginals hStored hStep hWrap

end Sender

end Nkurdt

------------------------------------------------------------
-- Transmissions and Retries
------------------------------------------------------------

namespace Nkurdt

namespace Sender

/- How often a packet of the number has been sent. -/
def transmissions (s : Sender) (n : Nat) : Nat :=
  s.history.wire.countP (fun d => decide (d.2.seq = n))

/- How often the count of the retries lets it be sent. -/
def attempts (s : Sender) (n : Nat) : Nat :=
  match s.retryCount n with
  | some count => count + 1
  | none => 0

/-
  The number will not be sent any more: it is below the
  window, or its packet has left the pool.
-/
def Gone (s : Sender) (n : Nat) : Prop :=
  n < s.window.lowerBound ∨
    s.packetPool n = none ∧ s.Stored n

/- The number has just been cleaned up. -/
structure CleansUp
    (s : Sender)
    (n : Nat)
    (s' : Sender) : Prop where
  tested :
    s.sendPc = .checkAcked n ∨ s.sendPc = .checkLower n
  step : s.step (.thread .sendHandler) = some s'
  next : s'.sendPc = .removeEvent n

/- What a step of `send_handler` does for the count. -/
inductive CountMove (s s' : Sender) : Prop
| quiet
    (hWire : s'.history.wire = s.history.wire)
    (hRetry : s'.retryCount = s.retryCount)
    (hPc : ∀ n, s'.sendPc ≠ .transmit n)
| cleans
    (n : Nat)
    (hTested :
      s.sendPc = .checkAcked n ∧
          s.selectiveRepeat = true ∨
        s.sendPc = .checkLower n ∧
          n < s.window.lowerBound)
    (hNext : s' = s.cleanUp n)
| counts
    (n : Nat)
    (hPc : s.sendPc = .retry n)
    (hAfter : s'.sendPc = .transmit n)
    (hWire : s'.history.wire = s.history.wire)
    (hRetry :
      s'.retryCount = s.retryCount.assign n (s.attempts n))
    (hBound : s.attempts n ≤ s.maxRetryCount)
| sends
    (n : Nat)
    (packet : Packet)
    (hPc : s.sendPc = .transmit n)
    (hPool : s.packetPool n = some packet)
    (hAfter : s'.sendPc = .register n)
    (hWire :
      s'.history.wire =
        s.history.wire ++ [(s.peerAddr, packet)])
    (hRetry : s'.retryCount = s.retryCount)

theorem countMove_sendHandlerStep
    {s s' : Sender}
    (hStep : s.sendHandlerStep = some s') :
    CountMove s s' := by
  cases sendHandlerStep_branch hStep with
  | cleansAcked hPc hAcked =>
      exact .cleans _ (Or.inl ⟨hPc, hAcked.1⟩) rfl
  | cleansBelow hPc hBelow =>
      exact .cleans _ (Or.inr ⟨hPc, hBelow⟩) rfl
  | @retries n count hPc hCount hLeft =>
      have hAttempts : s.attempts n = count + 1 := by
        unfold attempts
        rw [hCount]
      refine .counts n hPc rfl rfl ?_ ?_
      · rw [hAttempts]
      · rw [hAttempts]
        omega
  | @starts n hPc hCount =>
      have hAttempts : s.attempts n = 0 := by
        unfold attempts
        rw [hCount]
      refine .counts n hPc rfl rfl ?_ ?_
      · rw [hAttempts]
        unfold UnorderedMap.emplace
        rw [hCount]
        rfl
      · rw [hAttempts]
        exact Nat.zero_le _
  | transmits hPc hPacket =>
      exact .sends _ _ hPc hPacket rfl rfl rfl
  | _ =>
      exact .quiet rfl rfl (fun _ hNext => by cases hNext)

/- A number that is gone stays so. -/
theorem gone_step
    {s s' : Sender}
    {action : Action}
    {n : Nat}
    (hOriginals : Originals s)
    (hGone : s.Gone n)
    (hStep : s.step action = some s')
    (hWrap : NoWrap s s') :
    s'.Gone n := by
  rcases hGone with hBelow | ⟨hPool, hStored⟩
  · exact Or.inl (hBelow.trans_le hWrap.lower)
  · refine Or.inr ⟨?_,
      stored_step hOriginals hStored hStep hWrap⟩
    by_contra hSome
    rcases Option.ne_none_iff_exists'.mp hSome with
      ⟨packet, hNext⟩
    rcases packetPool_step hStep hNext with hOld | hStoring
    · rw [hPool] at hOld
      cases hOld
    · exact hStored.emplaced hStoring

/- A number that is cleaned up is gone. -/
theorem gone_cleanUp
    {s : Sender}
    {n : Nat}
    (hCirculating : Circulating s)
    (hTested :
      s.sendPc = .checkAcked n ∧
          s.selectiveRepeat = true ∨
        s.sendPc = .checkLower n ∧
          n < s.window.lowerBound) :
    (s.cleanUp n).Gone n := by
  rcases hTested with ⟨hPc, hMode⟩ | ⟨_, hBelow⟩
  · right
    have hStored :=
      hCirculating hMode n
        (Or.inr (Or.inr (by rw [hPc]; rfl)))
    refine ⟨?_, hStored.allocated, hStored.emplaced⟩
    unfold cleanUp
    dsimp only
    rw [UnorderedMap.erase_apply, if_pos rfl]
  · exact Or.inl hBelow

/- Nothing is sent for a number that is gone. -/
theorem not_gone_of_transmit
    {s : Sender}
    {n : Nat}
    {packet : Packet}
    (hCleared : Cleared s)
    (hPc : s.sendPc = .transmit n)
    (hPool : s.packetPool n = some packet) :
    ¬ s.Gone n := by
  have hLower := hCleared.lower n (by rw [hPc]; rfl)
  rintro (hBelow | ⟨hNone, _⟩)
  · omega
  · rw [hNone] at hPool
    cases hPool

/- One when the number is about to be sent. -/
def sending (s : Sender) (n : Nat) : Nat :=
  if s.sendPc = .transmit n then 1 else 0

/-
  The retries cover the transmissions of every number that
  is not gone, the one that is about to happen included.
-/
structure Counted (s : Sender) : Prop where
  bound :
    ∀ n, s.attempts n ≤ s.maxRetryCount + 1
  covered :
    ∀ n,
      s.transmissions n + s.sending n ≤ s.attempts n ∨
        s.Gone n ∧
          s.transmissions n ≤ s.maxRetryCount + 1

theorem counted_fresh
    (config : SenderConfig) :
    Counted (fresh config) where
  bound := fun _ => Nat.zero_le _
  covered := fun _ => Or.inl le_rfl

theorem Counted.transmissions_le
    {s : Sender}
    (hCounted : Counted s)
    (n : Nat) :
    s.transmissions n ≤ s.maxRetryCount + 1 := by
  have hBound := hCounted.bound n
  rcases hCounted.covered n with hCovered | ⟨_, hLe⟩
  · omega
  · exact hLe

theorem transmissions_of_wire
    {s s' : Sender}
    (hWire : s'.history.wire = s.history.wire)
    (n : Nat) :
    s'.transmissions n = s.transmissions n := by
  unfold transmissions
  rw [hWire]

theorem attempts_of_retry
    {s s' : Sender}
    (hRetry : s'.retryCount = s.retryCount)
    (n : Nat) :
    s'.attempts n = s.attempts n := by
  unfold attempts
  rw [hRetry]

/- A step that neither sends nor counts. -/
theorem Counted.congr
    {s s' : Sender}
    (hCounted : Counted s)
    (hMax : s'.maxRetryCount = s.maxRetryCount)
    (hWire : s'.history.wire = s.history.wire)
    (hRetry : s'.retryCount = s.retryCount)
    (hSending : ∀ n, s'.sending n ≤ s.sending n)
    (hGone : ∀ n, s.Gone n → s'.Gone n) :
    Counted s' where
  bound := fun n => by
    rw [hMax, attempts_of_retry hRetry]
    exact hCounted.bound n
  covered := fun n => by
    have hLess := hSending n
    rw [hMax, transmissions_of_wire hWire,
      attempts_of_retry hRetry]
    rcases hCounted.covered n with hCovered | ⟨hOld, hLe⟩
    · exact Or.inl (by omega)
    · exact Or.inr ⟨hGone n hOld, hLe⟩

theorem counted_sendHandlerStep
    {s s' : Sender}
    (hOriginals : Originals s)
    (hCirculating : Circulating s)
    (hCleared : Cleared s)
    (hCounted : Counted s)
    (hGone : ∀ n, s.Gone n → s'.Gone n)
    (hStep : s.sendHandlerStep = some s') :
    Counted s' := by
  have hMax := (sendHandlerStep_keeps hStep).maxRetryCount
  cases countMove_sendHandlerStep hStep with
  | quiet hWire hRetry hPc =>
      refine hCounted.congr hMax hWire hRetry ?_ hGone
      intro n
      unfold sending
      rw [if_neg (hPc n)]
      exact Nat.zero_le _
  | cleans n hTested hNext =>
      subst hNext
      have hAttempts :
          ∀ m, (s.cleanUp n).attempts m =
            if m = n then 0 else s.attempts m := by
        intro m
        unfold attempts cleanUp
        dsimp only
        rw [UnorderedMap.erase_apply]
        split_ifs <;> rfl
      refine ⟨?_, ?_⟩
      · intro m
        have hOld := hCounted.bound m
        rw [hAttempts]
        split_ifs
        · exact Nat.zero_le _
        · exact hOld
      · intro m
        by_cases hEqual : m = n
        · subst hEqual
          exact Or.inr ⟨gone_cleanUp hCirculating hTested,
            hCounted.transmissions_le m⟩
        · rw [hAttempts, if_neg hEqual]
          rcases hCounted.covered m with hOld | ⟨hOld, hLe⟩
          · exact Or.inl (le_trans (Nat.le_add_right _ _) hOld)
          · exact Or.inr ⟨hGone m hOld, hLe⟩
  | counts n hPc hAfter hWire hRetry hBound =>
      have hAttempts :
          ∀ m, s'.attempts m =
            if m = n then s.attempts n + 1 else s.attempts m := by
        intro m
        unfold attempts
        rw [hRetry, UnorderedMap.assign_apply]
        split_ifs <;> rfl
      have hIdle : ∀ m, s.sending m = 0 := by
        intro m
        unfold sending
        rw [hPc, if_neg (fun hNext => by cases hNext)]
      refine ⟨?_, ?_⟩
      · intro m
        rw [hAttempts, hMax]
        split_ifs
        · omega
        · exact hCounted.bound m
      · intro m
        have hOld := hCounted.covered m
        rw [hIdle] at hOld
        rw [hAttempts, transmissions_of_wire hWire, hMax]
        refine hOld.imp ?_ (And.imp_left (hGone m))
        intro hCovered
        unfold sending
        rw [hAfter]
        by_cases hEqual : m = n
        · subst hEqual
          rw [if_pos rfl, if_pos rfl]
          omega
        · rw [if_neg hEqual, if_neg (fun hNext =>
            hEqual (SendPc.transmit.inj hNext).symm)]
          exact hCovered
  | sends n packet hPc hPool hAfter hWire hRetry =>
      have hSeq :=
        hOriginals.seq_eq (hOriginals.pool n packet hPool)
      have hTransmissions :
          ∀ m, s'.transmissions m =
            s.transmissions m + s.sending m := by
        intro m
        unfold transmissions sending
        rw [hWire, List.countP_append, List.countP_singleton,
          hSeq, hPc]
        congr 1
        by_cases hEqual : n = m
        · simp [hEqual]
        · simp [hEqual]
      have hIdle : ∀ m, s'.sending m = 0 := by
        intro m
        unfold sending
        rw [hAfter, if_neg (fun hNext => by cases hNext)]
      refine ⟨?_, ?_⟩
      · intro m
        rw [attempts_of_retry hRetry, hMax]
        exact hCounted.bound m
      · intro m
        rw [hTransmissions, hIdle, attempts_of_retry hRetry,
          hMax]
        rcases hCounted.covered m with hOld | ⟨hOld, hLe⟩
        · exact Or.inl hOld
        · right
          have hOther : s.sending m = 0 := by
            unfold sending
            rw [hPc, if_neg]
            rintro hNext
            cases hNext
            exact not_gone_of_transmit hCleared hPc hPool hOld
          rw [hOther]
          exact ⟨hGone m hOld, hLe⟩

/- The other threads neither send nor count. -/
theorem retries_of_other
    {s s' : Sender}
    {action : Action}
    (hStep : s.step action = some s')
    (hOther : action ≠ .thread .sendHandler) :
    s'.history.wire = s.history.wire ∧
      s'.retryCount = s.retryCount := by
  cases action with
  | call call =>
      have hKeeps := callStep_keeps hStep
      exact ⟨hKeeps.wire, hKeeps.retryCount⟩
  | thread thread =>
      cases thread with
      | caller =>
          have hKeeps := callerStep_keeps hStep
          exact ⟨hKeeps.wire, hKeeps.retryCount⟩
      | sendHandler => exact absurd rfl hOther
      | recvHandler =>
          have hKeeps := recvHandlerStep_keeps hStep
          exact ⟨hKeeps.wire, hKeeps.retryCount⟩
      | timeoutHandler =>
          have hKeeps := timeoutHandlerStep_keeps hStep
          exact ⟨by rw [hKeeps.history], hKeeps.retryCount⟩
  | timer =>
      rcases Option.map_eq_some_iff.mp hStep with
        ⟨timer, _, rfl⟩
      exact ⟨rfl, rfl⟩
  | recv result =>
      have hKeeps := recvStep_keeps hStep
      exact ⟨hKeeps.wire, hKeeps.retryCount⟩
  | tick duration =>
      rw [← Option.some.inj hStep]
      exact ⟨rfl, rfl⟩
  | wakeCaller =>
      rw [← Option.some.inj hStep]
      exact ⟨rfl, rfl⟩
  | wakeTimer =>
      rw [← Option.some.inj hStep]
      exact ⟨rfl, rfl⟩

theorem output?_of_other
    {s : Sender}
    {action : Action}
    (hOther : action ≠ .thread .sendHandler) :
    s.output? action = none := by
  unfold output?
  split
  · exact absurd rfl hOther
  · rfl

/- What holds of every state of a run without a wrap. -/
structure Disciplined (s : Sender) : Prop where
  originals : Originals s
  guarded : MutexesGuarded s
  ready : WindowReady s
  circulating : Circulating s
  cleared : Cleared s
  counted : Counted s

theorem disciplined_fresh
    (config : SenderConfig) :
    Disciplined (fresh config) :=
  ⟨originals_fresh config, mutexesGuarded_fresh config,
    windowReady_fresh config, circulating_fresh config,
    cleared_fresh config, counted_fresh config⟩

theorem disciplined_step
    {s s' : Sender}
    {action : Action}
    (hDisciplined : Disciplined s)
    (hStep : s.step action = some s')
    (hWrap : NoWrap s s') :
    Disciplined s' := by
  obtain ⟨hOriginals, hGuarded, hReady, hCirculating,
    hCleared, hCounted⟩ := hDisciplined
  have hGone : ∀ n, s.Gone n → s'.Gone n :=
    fun n hOld => gone_step hOriginals hOld hStep hWrap
  refine ⟨originals_step hOriginals hStep hWrap,
    mutexesGuarded_step hGuarded hStep,
    windowReady_step hReady hStep,
    circulating_step hOriginals hReady hCirculating hStep
      hWrap,
    cleared_step hGuarded hCleared hStep, ?_⟩
  by_cases hSend : action = .thread .sendHandler
  · subst hSend
    exact counted_sendHandlerStep hOriginals hCirculating
      hCleared hCounted hGone hStep
  · have hSame := retries_of_other hStep hSend
    refine hCounted.congr (sameConfig_step hStep).maxRetryCount
      hSame.1 hSame.2 ?_ hGone
    intro n
    unfold sending
    rw [(sendHandler_of_other hStep hSend).1]

end Sender

end Nkurdt

------------------------------------------------------------
-- The Discipline
------------------------------------------------------------

namespace Nkurdt

namespace Sender

open Runs

theorem disciplined_of_reaches
    {config : SenderConfig}
    {s : Sender}
    (hReaches :
      Reaches step (fun current _ next => NoWrap current next)
        (fresh config) s) :
    Disciplined s :=
  hReaches.invariant (disciplined_fresh config)
    (fun _ _ _ hNow hStep hWrap =>
      disciplined_step hNow hStep hWrap)

/-
  `send_handler` hands to the socket the bytes of the packet
  that was built for a number in the window, not acknowledged
  yet. They decode to that packet.
-/
structure Transmits
    (s : Sender)
    (seq : Nat)
    (packet : Packet)
    (s' : Sender) : Prop where
  transmit : s.sendPc = .transmit seq
  lower : s.window.lowerBound ≤ seq
  upper : seq < s.window.upperBound
  unacked : s.selectiveRepeat = true → seq ∉ s.ackedSeqSet
  built : s.Built seq packet
  numbered : packet.seq = seq
  output :
    s.output? (.thread .sendHandler) =
      some (s.peerAddr, packet.toBytes)
  decodes :
    Packet.fromBytes packet.toBytes = some (some packet)
  wire :
    s'.history.wire =
      s.history.wire ++ [(s.peerAddr, packet)]

/- Every datagram that is sent is one of these. -/
theorem transmits_step
    {s s' : Sender}
    {action : Action}
    (hDisciplined : Disciplined s)
    (hStep : s.step action = some s') :
    s.output? action = none ∧
        s'.history.wire = s.history.wire ∨
      action = .thread .sendHandler ∧
        ∃ seq packet, Transmits s seq packet s' := by
  by_cases hSend : action = .thread .sendHandler
  · subst hSend
    have hOriginals := hDisciplined.originals
    have hCleared := hDisciplined.cleared
    rcases wire_sendHandlerStep hStep with
      hQuiet | ⟨seq, packet, hPc, hPool, hOutput, hWire⟩
    · exact Or.inl hQuiet
    · have hBuilt := hOriginals.pool seq packet hPool
      refine Or.inr ⟨rfl, seq, packet, ?_⟩
      exact
        { transmit := hPc
          lower := hCleared.lower seq (by rw [hPc]; rfl)
          upper := hOriginals.lt_upperBound hBuilt
          unacked := hCleared.acked seq (by rw [hPc]; rfl)
          built := hBuilt
          numbered := hOriginals.seq_eq hBuilt
          output := hOutput
          decodes :=
            Packet.fromBytes_toBytes
              (hOriginals.inRange hBuilt).1
          wire := hWire }
  · exact Or.inl ⟨output?_of_other hSend,
      (retries_of_other hStep hSend).1⟩

/- A number that has been sent for the last time. -/
structure Retired (n sent : Nat) (s : Sender) : Prop where
  disciplined : Disciplined s
  gone : s.Gone n
  sent : s.transmissions n = sent

theorem retired_step
    {n sent : Nat}
    {s s' : Sender}
    {action : Action}
    (hRetired : Retired n sent s)
    (hStep : s.step action = some s')
    (hWrap : NoWrap s s') :
    Retired n sent s' := by
  have hDisciplined := hRetired.disciplined
  refine ⟨disciplined_step hDisciplined hStep hWrap,
    gone_step hDisciplined.originals hRetired.gone hStep
      hWrap, ?_⟩
  rw [← hRetired.sent]
  by_cases hSend : action = .thread .sendHandler
  · subst hSend
    rcases wire_sendHandlerStep hStep with
      ⟨_, hSame⟩ | ⟨seq, packet, hPc, hPool, _, hWire⟩
    · exact transmissions_of_wire hSame n
    · have hOther : packet.seq ≠ n := by
        have hSeq := hDisciplined.originals.seq_eq
          (hDisciplined.originals.pool seq packet hPool)
        rintro hEqual
        rw [hSeq] at hEqual
        subst hEqual
        exact not_gone_of_transmit hDisciplined.cleared hPc
          hPool hRetired.gone
      unfold transmissions
      rw [hWire, List.countP_append, List.countP_singleton]
      simp [hOther]
  · exact transmissions_of_wire
      (retries_of_other hStep hSend).1 n

theorem CleansUp.cleanUp
    {n : Nat}
    {s s' : Sender}
    (hCleansUp : s.CleansUp n s') :
    s' = s.cleanUp n ∧
      (s.sendPc = .checkAcked n ∧
          s.selectiveRepeat = true ∨
        s.sendPc = .checkLower n ∧
          n < s.window.lowerBound) := by
  obtain ⟨hTested, hStep, hNext⟩ := hCleansUp
  change s.sendHandlerStep = some s' at hStep
  unfold sendHandlerStep at hStep
  rcases hTested with hPc | hPc
  · simp only [hPc] at hStep
    split_ifs at hStep with hMember
    · exact ⟨(Option.some.inj hStep).symm,
        Or.inl ⟨hPc, hMember.1⟩⟩
    · rw [← Option.some.inj hStep] at hNext
      cases hNext
  · simp only [hPc, whenFree_eq_some] at hStep
    rcases hStep with ⟨_, rfl⟩
    split_ifs at hNext ⊢ with hBelow
    exact ⟨rfl, Or.inr ⟨hPc, hBelow⟩⟩

/- Cleaning a number up is for good. -/
theorem retired_of_cleansUp
    {n : Nat}
    {s s' : Sender}
    (hDisciplined : Disciplined s)
    (hCleansUp : s.CleansUp n s') :
    Retired n (s.transmissions n) s' := by
  have hKeeps := sendHandlerStep_keeps hCleansUp.step
  have hWrap : NoWrap s s' := by
    constructor <;> rw [hKeeps.window]
  obtain ⟨hNext, hTested⟩ := hCleansUp.cleanUp
  refine ⟨disciplined_step hDisciplined hCleansUp.step hWrap,
    ?_, ?_⟩
  · rw [hNext]
    exact gone_cleanUp hDisciplined.circulating hTested
  · rw [hNext]
    rfl

/- The limit of the retries is the configured one. -/
def Limited (config : SenderConfig) (s : Sender) : Prop :=
  s.maxRetryCount = config.maxRetryCount

theorem limited_of_reaches
    {config : SenderConfig}
    {allowed : Sender → Action → Sender → Prop}
    {s : Sender}
    (hReaches : Reaches step allowed (fresh config) s) :
    Limited config s :=
  hReaches.invariant (show Limited config (fresh config) from rfl)
    (fun _ _ _ hLimited hStep _ =>
      (sameConfig_step hStep).maxRetryCount.trans hLimited)

/-
  In every run whose bounds do not wrap around, all that goes
  to the socket is sent in the discipline, no number more
  often than the retries allow, and none again behind its
  cleaning up.
-/
theorem transmits_inDiscipline
    {config : SenderConfig}
    {s : Sender}
    (hReaches :
      Reaches step (fun current _ next => NoWrap current next)
        (fresh config) s) :
    (∀ action s',
      s.step action = some s' →
      s.output? action = none ∧
          s'.history.wire = s.history.wire ∨
        action = .thread .sendHandler ∧
          ∃ seq packet, Transmits s seq packet s') ∧
    (∀ n, s.transmissions n ≤ config.maxRetryCount + 1) ∧
    (∀ n s' s'',
      s.CleansUp n s' →
      Reaches step (fun current _ next => NoWrap current next)
        s' s'' →
      s''.transmissions n = s.transmissions n) := by
  have hDisciplined := disciplined_of_reaches hReaches
  refine ⟨?_, ?_, ?_⟩
  · intro action s' hStep
    exact transmits_step hDisciplined hStep
  · intro n
    have hLimited : s.maxRetryCount = config.maxRetryCount :=
      limited_of_reaches hReaches
    rw [← hLimited]
    exact hDisciplined.counted.transmissions_le n
  · intro n s' s'' hCleansUp hAfter
    have hRetired : Retired n (s.transmissions n) s'' :=
      hAfter.invariant
        (retired_of_cleansUp hDisciplined hCleansUp)
        (fun _ _ _ hNow hStep hWrap =>
          retired_step hNow hStep hWrap)
    exact hRetired.sent

/-
  The connection request is sent, acknowledged, and timed
  out, and its number is about to be cleaned up.
-/
theorem transmits_inDiscipline_connect :
    ∃ s s' : Sender,
      Reaches step (fun current _ next => NoWrap current next)
        (fresh ⟨1, 1, 1, false, false⟩) s ∧
      s.CleansUp 0 s' ∧
      s.transmissions 0 = 1 ∧
      s'.transmissions 0 = 1 := by
  have hRun :
      ∃ s,
        Reaches step (fun current _ next => NoWrap current next)
          (fresh ⟨1, 1, 1, false, false⟩) s ∧
        (s.sendPc = .checkLower 0 ∧
          s.transmissions 0 = 1 ∧
          (s.step (.thread .sendHandler)).any
            (fun s' => decide (s'.sendPc = .removeEvent 0)) =
            true) :=
    exists_reaches_of_runActions
      ([Action.call (.connect ⟨0, 1⟩)] ++ steps .caller 10 ++
        steps .sendHandler 13 ++
        [Action.tick 1000000, .timer, .timer, .timer, .timer] ++
        steps .recvHandler 1 ++
        [Action.recv (.datagram
          (Packet.toBytes ⟨version, .connAck, 1, []⟩)
          ⟨0, 1⟩)] ++
        steps .recvHandler 13 ++ steps .timeoutHandler 8 ++
        steps .sendHandler 5)
      (by decide +kernel)
  obtain ⟨s, hReaches, hPc, hSent, hNext⟩ := hRun
  rcases (Option.any_eq_true _ _).mp hNext with
    ⟨s', hStep, hAfter⟩
  have hCleansUp : s.CleansUp 0 s' :=
    ⟨Or.inr hPc, hStep, of_decide_eq_true hAfter⟩
  have hForGood :=
    (transmits_inDiscipline hReaches).2.2 0 s' s' hCleansUp
      .refl
  exact ⟨s, s', hReaches, hCleansUp, hSent,
    hForGood.trans hSent⟩

end Sender

end Nkurdt
