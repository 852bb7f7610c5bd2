import Nkurdt.Packet.Shift
import Nkurdt.Sender.WindowMoves

/-
  The sender on shifted sequence numbers.

  The numbers are keys of maps and elements of sets and of
  an ordered queue. The maps, the timer and the equality
  tests do not notice a shift, and neither do the two waits
  for the window, which subtract. The queue, the clean-up,
  the slide of go-back-n and the fast retransmission compare
  two numbers by their order. A step whose comparisons are
  between numbers on one side of the wrap does the same
  thing to the shifted sender.

  Main declarations:
    * `ConcurrentTimer.rename`
    * `Sender.renumber`
    * `Sender.Decision`
    * `Sender.ComparesOnOneSide`
    * `Sender.step_renumber`
    * `Sender.run_renumber`
-/

------------------------------------------------------------
-- Renamed Timers
------------------------------------------------------------

namespace Nkurdt

namespace ConcurrentTimer

variable {T : Type}

/- The timer with its events renamed. -/
def rename
    (timer : ConcurrentTimer T)
    (σ : Equiv.Perm T) : ConcurrentTimer T :=
  { timer with
    events := timer.events.mapValues σ
    registeredEvents := timer.registeredEvents.rename σ id
    timedOutEvents := timer.timedOutEvents.map σ }

variable (timer : ConcurrentTimer T) (σ : Equiv.Perm T)

theorem rename_notifyOne :
    timer.notifyOne.rename σ = (timer.rename σ).notifyOne := by
  rcases timer with ⟨_, _, _, _, threadPc⟩
  cases threadPc <;> rfl

theorem mutexFree_rename :
    (timer.rename σ).MutexFree ↔ timer.MutexFree :=
  Iff.rfl

theorem hasTimedOut_rename :
    (timer.rename σ).HasTimedOut ↔ timer.HasTimedOut := by
  unfold HasTimedOut rename
  simp only [ne_eq, List.map_eq_nil_iff]

variable [DecidableEq T]

theorem rename_registerEvent
    (event : T)
    (timeout now : Nat) :
    (timer.registerEvent event timeout now).rename σ =
      (timer.rename σ).registerEvent (σ event) timeout
        now := by
  have hFound :
      (timer.rename σ).registeredEvents (σ event) =
        (timer.registeredEvents event).map id :=
    UnorderedMap.rename_apply timer.registeredEvents σ id event
  unfold registerEvent
  dsimp only
  rw [hFound, Option.map_id_apply, rename_notifyOne]
  congr 1
  cases timer.registeredEvents event with
  | none =>
      unfold rename
      simp only [OrderedMultimap.mapValues_emplace,
        UnorderedMap.rename_emplace, id_eq]
  | some oldTp =>
      unfold rename
      simp only [OrderedMultimap.mapValues_emplace,
        OrderedMultimap.mapValues_eraseEntry σ.injective,
        UnorderedMap.rename_emplace,
        UnorderedMap.rename_erase, id_eq]

theorem rename_removeEvent
    (event : T) :
    (timer.removeEvent event).rename σ =
      (timer.rename σ).removeEvent (σ event) := by
  have hFound :
      (timer.rename σ).registeredEvents (σ event) =
        (timer.registeredEvents event).map id :=
    UnorderedMap.rename_apply timer.registeredEvents σ id event
  unfold removeEvent
  rw [hFound, Option.map_id_apply]
  cases timer.registeredEvents event with
  | none => rfl
  | some tp =>
      unfold rename
      simp only [OrderedMultimap.mapValues_eraseEntry
          σ.injective, UnorderedMap.rename_erase,
        List.map_erase σ.injective]

theorem rename_expireFirst
    (event : T)
    (now : Nat) :
    (timer.expireFirst event now).rename σ =
      (timer.rename σ).expireFirst (σ event) now := by
  have hInsert :
      (timer.timedOutEvents.insert event).map σ =
        (timer.timedOutEvents.map σ).insert (σ event) := by
    by_cases hMember : event ∈ timer.timedOutEvents
    · rw [List.insert_of_mem hMember, List.insert_of_mem
        (List.mem_map_of_mem hMember)]
    · rw [List.insert_of_not_mem hMember,
        List.insert_of_not_mem, List.map_cons]
      rwa [List.mem_map_of_injective σ.injective]
  unfold expireFirst rename
  simp only [hInsert, UnorderedMap.rename_erase,
    OrderedMultimap.mapValues_eraseFirst]

theorem rename_threadStep
    (now : Nat) :
    (timer.rename σ).threadStep now =
      (timer.threadStep now).map (fun next =>
        next.rename σ) := by
  have hFirst :
      (timer.rename σ).events.first? =
        timer.events.first?.map (Prod.map id σ) :=
    OrderedMultimap.mapValues_first? timer.events σ
  have hPc : (timer.rename σ).threadPc = timer.threadPc := rfl
  have hRunning :
      (timer.rename σ).running = timer.running := rfl
  unfold threadStep
  rw [hPc, hRunning, hFirst]
  cases timer.threadPc with
  | test =>
      dsimp only
      split_ifs <;> rfl
  | body =>
      rcases timer.events.first? with _ | ⟨tp, event⟩
      · rfl
      · dsimp only [Option.map_some, Prod.map_apply, id_eq]
        split_ifs <;> rfl
  | waitEvent => rfl
  | waitUntil tp => rfl
  | expire last =>
      rcases timer.events.first? with _ | ⟨tp, event⟩
      · rfl
      · dsimp only [Option.map_some, Prod.map_apply, id_eq]
        split_ifs
        · rw [Option.map_some, rename_expireFirst]
        · rfl
  | exit => rfl

end ConcurrentTimer

end Nkurdt

------------------------------------------------------------
-- Renumbered Senders
------------------------------------------------------------

namespace Nkurdt

open SequenceNumber

/- Both bounds shifted. -/
def ConcurrentWindow.renumber
    (b : Nat)
    (w : ConcurrentWindow) : ConcurrentWindow :=
  { w with window := (shift b w.window.1, shift b w.window.2) }

/- The numbers that the caller carries shifted. -/
def CallerPc.renumber (b : Nat) : CallerPc → CallerPc
| .updateUpper t seq => .updateUpper t (shift b seq)
| .lockPool t seq => .lockPool t (shift b seq)
| .emplace t seq => .emplace t (shift b seq)
| .push t seq => .push t (shift b seq)
| pc => pc

/- The numbers that `send_handler` carries shifted. -/
def SendPc.renumber (b : Nat) : SendPc → SendPc
| .lockPool seq => .lockPool (shift b seq)
| .lockAcked seq => .lockAcked (shift b seq)
| .checkAcked seq => .checkAcked (shift b seq)
| .checkLower seq => .checkLower (shift b seq)
| .readLower seq => .readLower (shift b seq)
| .readUpper seq lower =>
    .readUpper (shift b seq) (shift b lower)
| .retry seq => .retry (shift b seq)
| .lockState seq => .lockState (shift b seq)
| .exhausted seq => .exhausted (shift b seq)
| .transmit seq => .transmit (shift b seq)
| .register seq => .register (shift b seq)
| .removeEvent seq => .removeEvent (shift b seq)
| pc => pc

/- The numbers that `recv_handler` carries shifted. -/
def RecvPc.renumber (b : Nat) : RecvPc → RecvPc
| .decode bytes => .decode (Packet.renumberBytes b bytes)
| .dispatch packet => .dispatch (packet.renumber b)
| .lockState target packet =>
    .lockState target (packet.renumber b)
| .setState target packet =>
    .setState target (packet.renumber b)
| .unlockState packet => .unlockState (packet.renumber b)
| .notify packet => .notify (packet.renumber b)
| .lockAcked packet => .lockAcked (packet.renumber b)
| .insertAck packet => .insertAck (packet.renumber b)
| .compare packet => .compare (packet.renumber b)
| .fastLower packet => .fastLower (packet.renumber b)
| .fastUpper packet lower =>
    .fastUpper (packet.renumber b) (shift b lower)
| .lockQueue packet lower upper =>
    .lockQueue (packet.renumber b) (shift b lower)
      (shift b upper)
| .pushAll packet lower upper =>
    .pushAll (packet.renumber b) (shift b lower)
      (shift b upper)
| .unlockQueue packet => .unlockQueue (packet.renumber b)
| .countDup packet => .countDup (packet.renumber b)
| .less packet => .less (packet.renumber b)
| .setLower packet => .setLower (packet.renumber b)
| .eraseAck packet => .eraseAck (packet.renumber b)
| pc => pc

/- The numbers in the history shifted. -/
def History.renumber
    (b : Nat)
    (history : History) : History :=
  { history with
    packets := history.packets.map (Packet.renumber b)
    request := history.request.map (shift b)
    wire :=
      history.wire.map (Prod.map id (Packet.renumber b))
    received := history.received.map (Packet.renumber b)
    exhausted := history.exhausted.map (shift b) }

namespace Sender

/- The sender with all its numbers shifted. -/
def renumber
    (s : Sender)
    (b : Nat) : Sender :=
  { s with
    pendingQueue := s.pendingQueue.image (shift b)
    timer := s.timer.rename (shift b)
    packetPool :=
      s.packetPool.rename (shift b) (Packet.renumber b)
    retryCount := s.retryCount.rename (shift b) id
    ackedSeqSet := s.ackedSeqSet.map (shift b).toEmbedding
    window := s.window.renumber b
    callerPc := s.callerPc.renumber b
    sendPc := s.sendPc.renumber b
    recvPc := s.recvPc.renumber b
    history := s.history.renumber b }

/- The action with the number of its packet shifted. -/
def Action.renumber (b : Nat) : Action → Action
| .recv result => .recv (result.renumber b)
| action => action

/- A shifted number is among the shifted numbers. -/
theorem mem_ackedSeqSet_renumber
    (b : Nat)
    (s : Sender)
    (seq : Nat) :
    shift b seq ∈ (s.renumber b).ackedSeqSet ↔
      seq ∈ s.ackedSeqSet :=
  Finset.mem_map' (shift b).toEmbedding

/- A shifted sender starts with both bounds at the base. -/
theorem renumber_fresh
    {b : Nat}
    (hBase : b < 2 ^ 32)
    (config : SenderConfig) :
    (fresh config).renumber b =
      { fresh config with
        window := (fresh config).window.setWindow b b } := by
  have hZero : shift b 0 = b := shift_zero hBase
  have hWindow :
      (fresh config).window.renumber b =
        (fresh config).window.setWindow b b := by
    change
      ConcurrentWindow.mk (shift b 0, shift b 0) _ = _
    rw [hZero]
    rfl
  unfold renumber
  rw [hWindow]
  rfl

end Sender

end Nkurdt

------------------------------------------------------------
-- Decisions
------------------------------------------------------------

namespace Nkurdt

open SequenceNumber

namespace Sender

/-
  What a thread decides about a number: which one it takes
  out of the queue, whether it has been acknowledged, whether
  it is cleaned up, whether it acknowledges the lower bound
  again or slides the window, and which are retransmitted.
-/
inductive Decision where
| pop (seq : Option Nat)
| acked (seq : Nat) (holds : Bool)
| cleanUp (seq : Nat) (holds : Bool)
| duplicate (seq : Nat) (holds : Bool)
| slide (seq : Nat) (holds : Bool)
| retransmit (seqs : List Nat)
deriving DecidableEq

/- The decision with its numbers shifted. -/
def Decision.renumber (b : Nat) : Decision → Decision
| .pop seq => .pop (seq.map (shift b))
| .acked seq holds => .acked (shift b seq) holds
| .cleanUp seq holds => .cleanUp (shift b seq) holds
| .duplicate seq holds => .duplicate (shift b seq) holds
| .slide seq holds => .slide (shift b seq) holds
| .retransmit seqs => .retransmit (seqs.map (shift b))

/- What `send_handler` decides in its next step. -/
def sendDecision? (s : Sender) : Option Decision :=
  match s.sendPc with
  | .pop => some (.pop (OrderedSet.first? s.pendingQueue))
  | .checkAcked seq =>
      some
        (.acked seq
          (decide
            (s.selectiveRepeat ∧ seq ∈ s.ackedSeqSet)))
  | .checkLower seq =>
      some (.cleanUp seq (decide (seq < s.window.lowerBound)))
  | _ => none

/- What `recv_handler` decides in its next step. -/
def recvDecision? (s : Sender) : Option Decision :=
  match s.recvPc with
  | .compare packet =>
      some
        (.duplicate packet.seq
          (decide (s.window.lowerBound = packet.seq)))
  | .less packet =>
      some
        (.slide packet.seq
          (decide (s.window.lowerBound < packet.seq)))
  | .slide =>
      some
        (.slide s.window.lowerBound
          (decide (s.window.lowerBound ∈ s.ackedSeqSet)))
  | .pushAll _ lower upper =>
      some (.retransmit (List.range' lower (upper - lower)))
  | _ => none

def decision? (s : Sender) : Action → Option Decision
| .thread .sendHandler => s.sendDecision?
| .thread .recvHandler => s.recvDecision?
| _ => none

/-
  The step compares numbers on one side of the wrap. `pop`
  takes the least number of the queue.
-/
def ComparesOnOneSide
    (b : Nat)
    (s : Sender) : Action → Prop
| .thread .sendHandler =>
    match s.sendPc with
    | .pop =>
        ∀ m ∈ s.pendingQueue.elems,
          ∀ n ∈ s.pendingQueue.elems, SameSide b m n
    | .checkLower seq => SameSide b seq s.window.lowerBound
    | _ => True
| .thread .recvHandler =>
    match s.recvPc with
    | .less packet =>
        SameSide b s.window.lowerBound packet.seq
    | .pushAll _ lower upper => SameSide b lower upper
    | _ => True
| _ => True

instance (b : Nat) (s : Sender) (action : Action) :
    Decidable (s.ComparesOnOneSide b action) := by
  unfold ComparesOnOneSide
  generalize s.sendPc = sendPc
  generalize s.recvPc = recvPc
  rcases action with _ | ⟨_ | _ | _ | _⟩ | _ | _ | _ | _ | _
  case thread.sendHandler =>
      rcases sendPc with ⟨⟩ <;> infer_instance
  all_goals rcases recvPc with ⟨⟩
  all_goals infer_instance

end Sender

end Nkurdt

------------------------------------------------------------
-- Steps of the Caller
------------------------------------------------------------

namespace Nkurdt

open SequenceNumber

/- A handler that has ended carries no number. -/
theorem SendPc.renumber_eq_exit
    (b : Nat)
    (pc : SendPc) :
    pc.renumber b = .exit ↔ pc = .exit := by
  cases pc <;> simp [SendPc.renumber]

theorem RecvPc.renumber_eq_exit
    (b : Nat)
    (pc : RecvPc) :
    pc.renumber b = .exit ↔ pc = .exit := by
  cases pc <;> simp [RecvPc.renumber]

/- Renamed queues. -/
theorem ConcurrentQueue.image_push
    {T : Type}
    [LinearOrder T]
    (σ : Equiv.Perm T)
    (queue : ConcurrentQueue T)
    (elem : T) :
    (queue.push elem).image σ =
      ConcurrentQueue.push (queue.image σ) (σ elem) := by
  have hKeys :
      ∀ a b : T, id (σ a) = id (σ b) ↔ id a = id b :=
    fun _ _ => σ.injective.eq_iff
  exact OrderedSet.image_insert hKeys queue elem

theorem ConcurrentQueue.image_pushAll
    {T : Type}
    [LinearOrder T]
    (σ : Equiv.Perm T)
    (queue : ConcurrentQueue T)
    (elems : List T) :
    (queue.pushAll elems).image σ =
      ConcurrentQueue.pushAll (queue.image σ)
        (elems.map σ) := by
  unfold ConcurrentQueue.pushAll
  induction elems generalizing queue with
  | nil => rfl
  | cons elem elems ih =>
      rw [List.foldl_cons, List.map_cons, List.foldl_cons,
        ih, ConcurrentQueue.image_push]

namespace Sender

theorem map_whenFree
    (owner : Option Thread)
    (next : Sender)
    (f : Sender → Sender) :
    (whenFree owner next).map f = whenFree owner (f next) := by
  unfold whenFree
  split_ifs <;> rfl

theorem map_whenTimerFree
    (b : Nat)
    (s next : Sender) :
    (whenTimerFree s next).map (fun t => t.renumber b) =
      whenTimerFree (s.renumber b) (next.renumber b) := by
  have hFree :
      (s.renumber b).timer.MutexFree ↔ s.timer.MutexFree :=
    ConcurrentTimer.mutexFree_rename s.timer (shift b)
  unfold whenTimerFree
  simp only [hFree]
  split_ifs <;> rfl

/- Waking the caller moves no number. -/
theorem notifyState_renumber
    (b : Nat)
    (s : Sender) :
    (s.renumber b).notifyState = s.notifyState.renumber b := by
  have hPc :
      wake (s.callerPc.renumber b) =
        (wake s.callerPc).renumber b := by
    cases s.callerPc <;> rfl
  unfold notifyState renumber
  dsimp only
  rw [hPc]

theorem finishStep_renumber
    (b : Nat)
    (s : Sender)
    (r : Request) :
    (s.renumber b).finishStep r =
      (s.finishStep r).renumber b := by
  have hState : (s.renumber b).state = s.state := rfl
  cases r
  all_goals unfold finishStep
  all_goals dsimp only
  all_goals try rw [hState]
  all_goals try split_ifs
  all_goals rfl

theorem throughputStep_renumber
    (b : Nat)
    (s : Sender) :
    (s.renumber b).throughputStep =
      s.throughputStep.renumber b := by
  have hClock : (s.renumber b).clock = s.clock := rfl
  have hStart : (s.renumber b).startTime = s.startTime := rfl
  unfold throughputStep
  rw [hClock, hStart]
  split_ifs <;> rfl

/- The predicates of the two waits do not notice a shift. -/
theorem available_renumber
    {w : ConcurrentWindow}
    (b : Nat)
    (hLower : w.lowerBound < 2 ^ 32)
    (hUpper : w.upperBound < 2 ^ 32) :
    (w.renumber b).Available ↔ w.Available := by
  unfold ConcurrentWindow.Available
  change sub (shift b w.upperBound) (shift b w.lowerBound) < _ ↔ _
  rw [sub_shift hUpper hLower]
  rfl

theorem zero_renumber
    (b : Nat)
    (w : ConcurrentWindow) :
    (w.renumber b).Zero ↔ w.Zero :=
  (shift b).injective.eq_iff

theorem callerStep_renumber
    {s : Sender}
    (b : Nat)
    (hLower : s.window.lowerBound < 2 ^ 32)
    (hUpper : s.window.upperBound < 2 ^ 32) :
    (s.renumber b).callerStep =
      s.callerStep.map (fun next => next.renumber b) := by
  have hPc :
      (s.renumber b).callerPc = s.callerPc.renumber b := rfl
  have hState : (s.renumber b).state = s.state := rfl
  have hRunning : (s.renumber b).running = s.running := rfl
  have hStream : (s.renumber b).stream = s.stream := rfl
  have hAvailable :
      (s.renumber b).window.Available ↔ s.window.Available :=
    available_renumber b hLower hUpper
  have hTimer :
      (s.renumber b).timer.threadPc = s.timer.threadPc := rfl
  have hSend :
      (s.renumber b).sendPc = .exit ↔ s.sendPc = .exit :=
    SendPc.renumber_eq_exit b s.sendPc
  have hRecv :
      (s.renumber b).recvPc = .exit ↔ s.recvPc = .exit :=
    RecvPc.renumber_eq_exit b s.recvPc
  have hTimeout :
      (s.renumber b).timeoutPc = s.timeoutPc := rfl
  have hZero :
      (s.renumber b).window.Zero ↔ s.window.Zero :=
    zero_renumber b s.window
  have hUpdate :
      update (shift b s.window.window.2) =
        shift b (update s.window.window.2) :=
    update_shift hUpper
  unfold callerStep
  rw [hPc]
  cases s.callerPc with dsimp only [CallerPc.renumber]
  | idle => rfl
  | lockState r =>
      rw [map_whenFree]
      rfl
  | enter r =>
      rw [hState]
      split_ifs <;> rfl
  | waitWindow t =>
      simp only [hAvailable]
      rw [map_whenFree]
      split_ifs <;> rfl
  | testRunning t =>
      rw [hRunning]
      cases t
      all_goals split_ifs
      all_goals rfl
  | upperBound t =>
      rw [map_whenFree]
      rfl
  | updateUpper t seq =>
      rw [map_whenFree]
      unfold renumber ConcurrentWindow.renumber
        ConcurrentWindow.updateUpperBound History.renumber
      simp only [List.map_append, hUpdate]
      cases t <;> rfl
  | lockPool t seq =>
      rw [map_whenFree]
      rfl
  | emplace t seq =>
      unfold renumber
      simp only [Option.map_some, UnorderedMap.rename_emplace]
      rfl
  | push t seq =>
      rw [map_whenFree]
      unfold renumber
      simp only [ConcurrentQueue.image_push]
      rfl
  | unlockPool t => cases t <;> rfl
  | check r =>
      rw [hState]
      split_ifs <;> rfl
  | wait r => rfl
  | relock r =>
      rw [map_whenFree]
      rfl
  | finish r => exact congrArg some (finishStep_renumber b s r)
  | read =>
      rw [hStream]
      split_ifs <;> rfl
  | waitZero =>
      simp only [hZero]
      rw [map_whenFree]
      split_ifs <;> rfl
  | zeroRunning =>
      rw [hRunning]
      split_ifs <;> rfl
  | throughput =>
      exact congrArg some (throughputStep_renumber b s)
  | undefined => rfl
  | stopRunning => rfl
  | stopTimer =>
      rw [map_whenTimerFree]
      rfl
  | notifyTimer =>
      unfold renumber
      simp only [Option.map_some,
        ConcurrentTimer.rename_notifyOne]
      rfl
  | joinTimer =>
      rw [hTimer]
      split_ifs <;> rfl
  | joinSend =>
      simp only [hSend]
      split_ifs <;> rfl
  | joinRecv =>
      simp only [hRecv]
      split_ifs <;> rfl
  | joinTimeout =>
      rw [hTimeout]
      split_ifs <;> rfl

end Sender

end Nkurdt

------------------------------------------------------------
-- Steps of the Send Handler
------------------------------------------------------------

namespace Nkurdt

open SequenceNumber

namespace Sender

theorem exhaust_renumber
    (b : Nat)
    (s : Sender) :
    (s.renumber b).exhaust = s.exhaust.renumber b := by
  have hState : (s.renumber b).state = s.state := rfl
  unfold exhaust
  rw [hState]
  cases s.state
  case stopping | pushing | connecting | disconnecting =>
      dsimp only
      rw [← notifyState_renumber]
      rfl
  all_goals rfl

theorem cleanUp_renumber
    (b : Nat)
    (s : Sender)
    (seq : Nat) :
    (s.renumber b).cleanUp (shift b seq) =
      (s.cleanUp seq).renumber b := by
  unfold cleanUp renumber
  simp only [UnorderedMap.rename_erase]
  rfl

section Queue

variable {b : Nat} {queue : ConcurrentQueue Nat}

theorem id_shift_eq_iff
    (b m n : Nat) :
    id (shift b m) = id (shift b n) ↔ id m = id n :=
  (shift b).injective.eq_iff

/- In a queue on one side the least number stays least. -/
theorem shift_least
    {first : Nat}
    (hBase : b < 2 ^ 32)
    (hSides :
      ∀ m ∈ queue.elems, ∀ n ∈ queue.elems, SameSide b m n)
    (hFirst : OrderedSet.first? queue = some first)
    (n : Nat)
    (hMember : n ∈ queue) :
    id (shift b first) ≤ id (shift b n) := by
  have hLow := OrderedSet.first?_eq_some hFirst
  have hSide := hSides n hMember first hLow.1
  exact not_lt.mp
    (mt (shift_lt_shift hBase hSide).mp
      (not_lt.mpr (hLow.2 n hMember)))

theorem first?_renumber
    (hBase : b < 2 ^ 32)
    (hSides :
      ∀ m ∈ queue.elems, ∀ n ∈ queue.elems, SameSide b m n) :
    OrderedSet.first? (queue.image (shift b)) =
      (OrderedSet.first? queue).map (shift b) := by
  have hReflects :=
    fun m n => (id_shift_eq_iff b m n).mp
  cases hFirst : OrderedSet.first? queue with
  | none =>
      exact OrderedSet.first?_image_of_none hReflects hFirst
  | some first =>
      exact OrderedSet.first?_image hReflects hFirst
        (shift_least hBase hSides hFirst)

theorem pop?_renumber
    (hBase : b < 2 ^ 32)
    (hSides :
      ∀ m ∈ queue.elems, ∀ n ∈ queue.elems, SameSide b m n) :
    ConcurrentQueue.pop? (queue.image (shift b)) =
      queue.pop?.map
        (Prod.map (shift b) fun rest =>
          rest.image (shift b)) := by
  unfold ConcurrentQueue.pop?
  rw [first?_renumber hBase hSides]
  cases hFirst : OrderedSet.first? queue with
  | none => rfl
  | some first =>
      have hRest :=
        OrderedSet.eraseFirst_image (id_shift_eq_iff b)
          hFirst (shift_least hBase hSides hFirst)
      dsimp only [Option.map_some, Prod.map_apply]
      rw [hRest]

end Queue

theorem sendHandlerStep_renumber
    {b : Nat}
    {s : Sender}
    (hBase : b < 2 ^ 32)
    (hCompares :
      s.ComparesOnOneSide b (.thread .sendHandler)) :
    (s.renumber b).sendHandlerStep =
      s.sendHandlerStep.map (fun next => next.renumber b) := by
  have hShifted :
      (s.renumber b).sendPc = s.sendPc.renumber b := rfl
  have hRunning : (s.renumber b).running = s.running := rfl
  have hMode :
      (s.renumber b).selectiveRepeat = s.selectiveRepeat :=
    rfl
  have hLimit :
      (s.renumber b).maxRetryCount = s.maxRetryCount := rfl
  have hLower :
      (s.renumber b).window.lowerBound =
        shift b s.window.lowerBound := rfl
  have hUpper :
      (s.renumber b).window.upperBound =
        shift b s.window.upperBound := rfl
  have hCount :
      ∀ seq, (s.renumber b).retryCount (shift b seq) =
        s.retryCount seq := by
    intro seq
    have hFound :=
      UnorderedMap.rename_apply s.retryCount (shift b) id seq
    rw [Option.map_id_apply] at hFound
    exact hFound
  have hPool :
      ∀ seq, (s.renumber b).packetPool (shift b seq) =
        (s.packetPool seq).map (Packet.renumber b) :=
    UnorderedMap.rename_apply s.packetPool (shift b)
      (Packet.renumber b)
  unfold sendHandlerStep
  rw [hShifted]
  cases hPc : s.sendPc with dsimp only [SendPc.renumber]
  | test =>
      rw [hRunning]
      split_ifs <;> rfl
  | pop =>
      have hSides :
          ∀ m ∈ s.pendingQueue.elems,
            ∀ n ∈ s.pendingQueue.elems, SameSide b m n := by
        simpa only [ComparesOnOneSide, hPc] using hCompares
      have hPop :
          ConcurrentQueue.pop? (s.renumber b).pendingQueue =
            _ :=
        pop?_renumber hBase hSides
      rw [hPop]
      rcases ConcurrentQueue.pop? s.pendingQueue with
        _ | ⟨seq, rest⟩
      · dsimp only [Option.map_none]
        rw [map_whenFree]
        rfl
      · dsimp only [Option.map_some, Prod.map_apply]
        rw [map_whenFree]
        rfl
  | lockPool seq =>
      rw [map_whenFree]
      rfl
  | lockAcked seq =>
      rw [map_whenFree]
      rfl
  | checkAcked seq =>
      simp only [hMode, mem_ackedSeqSet_renumber]
      split_ifs
      · exact congrArg some (cleanUp_renumber b s seq)
      · rfl
  | checkLower seq =>
      have hSide : SameSide b seq s.window.lowerBound := by
        simpa only [ComparesOnOneSide, hPc] using hCompares
      rw [map_whenFree, hLower]
      simp only [shift_lt_shift hBase hSide]
      split_ifs
      · rw [cleanUp_renumber]
        rfl
      · rfl
  | readLower seq =>
      rw [map_whenFree]
      rfl
  | readUpper seq lower =>
      rw [map_whenFree, hUpper]
      simp only [(shift b).injective.eq_iff]
      split_ifs <;> rfl
  | retry seq =>
      rw [hCount, hLimit]
      cases s.retryCount seq with
      | none =>
          unfold renumber
          simp only [Option.map_some,
            UnorderedMap.rename_emplace]
          rfl
      | some count =>
          dsimp only
          split_ifs
          · unfold renumber History.renumber
            simp only [Option.map_some, List.map_append]
            rfl
          · unfold renumber
            simp only [Option.map_some,
              UnorderedMap.rename_assign]
            rfl
  | lockState seq =>
      rw [map_whenFree]
      rfl
  | exhausted seq => exact congrArg some (exhaust_renumber b s)
  | unlockState leave => rfl
  | transmit seq =>
      rw [hPool]
      cases s.packetPool seq with
      | none => rfl
      | some packet =>
          unfold renumber History.renumber
          simp only [Option.map_some, List.map_append]
          rfl
  | register seq =>
      rw [map_whenTimerFree]
      unfold renumber
      simp only [ConcurrentTimer.rename_registerEvent]
      rfl
  | removeEvent seq =>
      rw [map_whenTimerFree]
      unfold renumber
      simp only [ConcurrentTimer.rename_removeEvent]
      rfl
  | unlockAcked leave => rfl
  | unlockPool leave => cases leave <;> rfl
  | exit => rfl

end Sender

end Nkurdt

------------------------------------------------------------
-- Numbers of the Receive Handler
------------------------------------------------------------

namespace Nkurdt

open SequenceNumber

namespace RecvPc

/- The bounds that a fast retransmission has read. -/
def bounds : RecvPc → List Nat
| .fastUpper _ lower => [lower]
| .lockQueue _ lower upper => [lower, upper]
| .pushAll _ lower upper => [lower, upper]
| _ => []

/- The number of the packet in hand, and the bounds read. -/
def numbers (pc : RecvPc) : List Nat :=
  (pc.packet?.map Packet.seq).toList ++ pc.bounds

end RecvPc

namespace Sender

/- What moves the window is a number of 32 bits. -/
structure InRange (s : Sender) : Prop where
  lower_lt : s.window.lowerBound < 2 ^ 32
  upper_lt : s.window.upperBound < 2 ^ 32
  carried_lt : ∀ n ∈ s.recvPc.numbers, n < 2 ^ 32

theorem inRange_fresh
    (config : SenderConfig) :
    InRange (fresh config) :=
  ⟨Nat.two_pow_pos 32, Nat.two_pow_pos 32,
    fun _ hMember => by cases hMember⟩

theorem inRange_recvHandlerStep
    {s s' : Sender}
    (hRange : InRange s)
    (hStep : s.recvHandlerStep = some s') :
    InRange s' := by
  obtain ⟨hLower, hUpper, hCarried⟩ := hRange
  unfold recvHandlerStep at hStep
  cases hPc : s.recvPc
  all_goals
    simp only [hPc, whenFree_eq_some, Option.some.injEq,
      reduceCtorEq] at hStep
  all_goals rw [hPc] at hCarried
  case decode bytes =>
      split at hStep
      · cases hStep
        exact ⟨hLower, hUpper, fun _ h => by cases h⟩
      · cases hStep
        exact ⟨hLower, hUpper, fun _ h => by cases h⟩
      · rename_i packet hDecoded
        have hSeq :=
          (Packet.layout_of_fromBytes hDecoded).1.seq_lt
        cases hStep
        refine ⟨hLower, hUpper, ?_⟩
        simpa [RecvPc.numbers, RecvPc.packet?,
          RecvPc.bounds] using hSeq
  case setLower packet =>
      rcases hStep with ⟨_, rfl⟩
      have hSeq : packet.seq < 2 ^ 32 :=
        hCarried packet.seq List.mem_cons_self
      exact ⟨hSeq, hUpper, hCarried⟩
  case slide =>
      rcases hStep with ⟨_, rfl⟩
      split_ifs
      · exact ⟨update_lt _, hUpper, hCarried⟩
      · exact ⟨hLower, hUpper, fun _ h => by cases h⟩
  case dispatch packet =>
      split at hStep
      all_goals
        cases hStep
        exact ⟨hLower, hUpper, hCarried⟩
  case insertAck packet =>
      subst hStep
      refine ⟨hLower, hUpper, ?_⟩
      dsimp only
      split_ifs
      · exact fun _ h => by cases h
      · exact hCarried
  case compare packet =>
      rcases hStep with ⟨_, rfl⟩
      unfold duplicateStep
      split_ifs
      all_goals exact ⟨hLower, hUpper, hCarried⟩
  case less packet =>
      rcases hStep with ⟨_, rfl⟩
      refine ⟨hLower, hUpper, ?_⟩
      dsimp only
      split_ifs
      all_goals exact hCarried
  case fastLower packet =>
      rcases hStep with ⟨_, rfl⟩
      refine ⟨hLower, hUpper, ?_⟩
      have hSeq : packet.seq < 2 ^ 32 :=
        hCarried packet.seq List.mem_cons_self
      simpa [RecvPc.numbers, RecvPc.packet?,
        RecvPc.bounds] using ⟨hSeq, hLower⟩
  case fastUpper packet lower =>
      rcases hStep with ⟨_, rfl⟩
      refine ⟨hLower, hUpper, ?_⟩
      have hSeq : packet.seq < 2 ^ 32 :=
        hCarried packet.seq List.mem_cons_self
      have hRead : lower < 2 ^ 32 :=
        hCarried lower
          (List.mem_cons_of_mem _ List.mem_cons_self)
      simpa [RecvPc.numbers, RecvPc.packet?,
        RecvPc.bounds] using ⟨hSeq, hRead, hUpper⟩
  case test =>
      subst hStep
      refine ⟨hLower, hUpper, ?_⟩
      dsimp only
      split_ifs
      all_goals exact fun _ h => by cases h
  case pushAll packet lower upper =>
      subst hStep
      refine ⟨hLower, hUpper, ?_⟩
      have hSeq : packet.seq < 2 ^ 32 :=
        hCarried packet.seq List.mem_cons_self
      simpa [RecvPc.numbers, RecvPc.packet?,
        RecvPc.bounds] using hSeq
  case eraseAck packet =>
      subst hStep
      exact ⟨hLower, hUpper, fun _ h => by cases h⟩
  case unlockAcked =>
      subst hStep
      exact ⟨hLower, hUpper, fun _ h => by cases h⟩
  all_goals first
    | subst hStep
    | rcases hStep with ⟨_, rfl⟩
  all_goals exact ⟨hLower, hUpper, hCarried⟩

/- Every step keeps the numbers in range. -/
theorem inRange_step
    {s s' : Sender}
    {action : Action}
    (hRange : InRange s)
    (hStep : s.step action = some s') :
    InRange s' := by
  by_cases hRecv : action = .thread .recvHandler
  · subst hRecv
    exact inRange_recvHandlerStep hRange hStep
  · have hKeeps := step_keeps hStep hRecv
    constructor
    · rw [hKeeps.lowerBound]
      exact hRange.lower_lt
    · rcases upperBound_step hStep with hSame | hUpdate
      · rw [hSame]
        exact hRange.upper_lt
      · rw [hUpdate]
        exact update_lt _
    · rcases hKeeps.recvPc with
        hSame | ⟨_, ⟨bytes, hNext⟩ | hNext⟩
      · rw [hSame]
        exact hRange.carried_lt
      · rw [hNext]
        exact fun _ hMember => by cases hMember
      · rw [hNext]
        exact fun _ hMember => by cases hMember

end Sender

end Nkurdt

------------------------------------------------------------
-- Steps of the Receive Handler
------------------------------------------------------------

namespace Nkurdt

open SequenceNumber

namespace Sender

theorem duplicateStep_renumber
    (b : Nat)
    (s : Sender)
    (packet : Packet) :
    (s.renumber b).duplicateStep (packet.renumber b) =
      (s.duplicateStep packet).renumber b := by
  have hTimes :
      (s.renumber b).ackDupTimes = s.ackDupTimes := rfl
  have hFast :
      (s.renumber b).fastRetransmit = s.fastRetransmit := rfl
  have hSize :
      (s.renumber b).window.maxWindowSize =
        s.window.maxWindowSize := rfl
  unfold duplicateStep
  rw [hTimes, hFast, hSize]
  split_ifs <;> rfl

/- The numbers that a fast retransmission queues. -/
theorem retransmit_renumber
    {b : Nat}
    {s : Sender}
    {packet : Packet}
    {lower upper : Nat}
    (hBase : b < 2 ^ 32)
    (hRange : InRange s)
    (hCompares :
      s.ComparesOnOneSide b (.thread .recvHandler))
    (hPc : s.recvPc = .pushAll packet lower upper) :
    (List.range' lower (upper - lower)).map (shift b) =
      List.range' (shift b lower)
        (shift b upper - shift b lower) := by
  have hSide : SameSide b lower upper := by
    simpa only [ComparesOnOneSide, hPc] using hCompares
  have hCarried := hRange.carried_lt
  rw [hPc] at hCarried
  have hFrom : lower < 2 ^ 32 :=
    hCarried lower
      (List.mem_cons_of_mem _ List.mem_cons_self)
  have hTo : upper < 2 ^ 32 :=
    hCarried upper
      (List.mem_cons_of_mem _
        (List.mem_cons_of_mem _ List.mem_cons_self))
  exact map_shift_range' hBase hFrom hTo hSide

theorem recvHandlerStep_renumber
    {b : Nat}
    {s : Sender}
    (hBase : b < 2 ^ 32)
    (hRange : InRange s)
    (hCompares :
      s.ComparesOnOneSide b (.thread .recvHandler)) :
    (s.renumber b).recvHandlerStep =
      s.recvHandlerStep.map (fun next => next.renumber b) := by
  have hShifted :
      (s.renumber b).recvPc = s.recvPc.renumber b := rfl
  have hRunning : (s.renumber b).running = s.running := rfl
  have hState : (s.renumber b).state = s.state := rfl
  have hMode :
      (s.renumber b).selectiveRepeat = s.selectiveRepeat :=
    rfl
  have hLower :
      (s.renumber b).window.lowerBound =
        shift b s.window.lowerBound := rfl
  unfold recvHandlerStep
  rw [hShifted]
  cases hPc : s.recvPc with dsimp only [RecvPc.renumber]
  | test =>
      rw [hRunning]
      split_ifs <;> rfl
  | recv => rfl
  | decode bytes =>
      rw [Packet.fromBytes_renumberBytes]
      rcases Packet.fromBytes bytes with _ | _ | packet
      · rfl
      · rfl
      · unfold renumber History.renumber
        simp only [Option.map_some, List.map_append]
        rfl
  | dispatch packet =>
      have hKind : (packet.renumber b).kind = packet.kind :=
        rfl
      rw [hState, hKind]
      cases ackTarget s.state packet.kind <;> rfl
  | lockState target packet =>
      rw [map_whenFree]
      rfl
  | setState target packet => rfl
  | unlockState packet => rfl
  | notify packet =>
      rw [Option.map_some, ← notifyState_renumber]
      rfl
  | lockAcked packet =>
      rw [map_whenFree]
      rfl
  | insertAck packet =>
      rw [hMode]
      unfold renumber
      simp only [Option.map_some, Finset.map_insert]
      split_ifs <;> rfl
  | compare packet =>
      rw [map_whenFree, hLower]
      change
        whenFree _
            (if shift b s.window.lowerBound =
                shift b packet.seq then _ else _) = _
      simp only [(shift b).injective.eq_iff]
      split_ifs
      · rw [duplicateStep_renumber]
        rfl
      · rfl
  | fastLower packet =>
      rw [map_whenFree]
      rfl
  | fastUpper packet lower =>
      rw [map_whenFree]
      rfl
  | lockQueue packet lower upper =>
      rw [map_whenFree]
      rfl
  | pushAll packet lower upper =>
      have hRetransmit :=
        retransmit_renumber hBase hRange hCompares hPc
      unfold renumber
      simp only [Option.map_some,
        ConcurrentQueue.image_pushAll, hRetransmit]
      rfl
  | unlockQueue packet => rfl
  | countDup packet => rfl
  | less packet =>
      have hSide :
          SameSide b s.window.lowerBound packet.seq := by
        simpa only [ComparesOnOneSide, hPc] using hCompares
      rw [map_whenFree, hLower]
      change
        whenFree _
            { s.renumber b with
              recvPc :=
                if shift b s.window.lowerBound <
                    shift b packet.seq then _ else _ } = _
      simp only [shift_lt_shift hBase hSide]
      split_ifs <;> rfl
  | setLower packet =>
      rw [map_whenFree]
      rfl
  | eraseAck packet =>
      unfold renumber
      simp only [Option.map_some, Finset.map_erase]
      rfl
  | slide =>
      have hUpdate :
          update (shift b s.window.window.1) =
            shift b (update s.window.window.1) :=
        update_shift hRange.lower_lt
      rw [map_whenFree, hLower]
      simp only [mem_ackedSeqSet_renumber]
      split_ifs
      · unfold renumber ConcurrentWindow.renumber
          ConcurrentWindow.updateLowerBound
        simp only [Finset.map_erase, hUpdate]
        rfl
      · rfl
  | unlockAcked => rfl
  | exit => rfl
  | undefined => rfl

theorem recvStep_renumber
    (b : Nat)
    (s : Sender)
    (result : RecvResult) :
    (s.renumber b).recvStep (result.renumber b) =
      (s.recvStep result).map (fun next => next.renumber b) := by
  have hPc :
      (s.renumber b).recvPc = .recv ↔ s.recvPc = .recv := by
    change s.recvPc.renumber b = .recv ↔ _
    cases s.recvPc <;> simp [RecvPc.renumber]
  unfold recvStep
  simp only [hPc]
  split_ifs
  · cases result with
    | error value =>
        have hNothing :
            RecvPc.renumber b (.decode []) = .decode [] :=
          congrArg RecvPc.decode (Packet.renumberBytes_nil b)
        dsimp only [RecvResult.renumber]
        split_ifs
        · unfold renumber
          simp only [Option.map_some, hNothing]
        · rfl
    | datagram bytes addr => rfl
  · rfl

end Sender

end Nkurdt

------------------------------------------------------------
-- Steps of the Timeout Handler
------------------------------------------------------------

namespace Nkurdt

open SequenceNumber

namespace Sender

theorem timeoutHandlerStep_renumber
    (b : Nat)
    (s : Sender) :
    (s.renumber b).timeoutHandlerStep =
      s.timeoutHandlerStep.map
        (fun next => next.renumber b) := by
  have hPc : (s.renumber b).timeoutPc = s.timeoutPc := rfl
  have hRunning : (s.renumber b).running = s.running := rfl
  have hTimedOut :
      (s.renumber b).timer.HasTimedOut ↔
        s.timer.HasTimedOut :=
    ConcurrentTimer.hasTimedOut_rename s.timer (shift b)
  unfold timeoutHandlerStep
  rw [hPc]
  cases s.timeoutPc with dsimp only
  | test =>
      rw [hRunning]
      split_ifs <;> rfl
  | wait =>
      rw [map_whenTimerFree]
      simp only [hTimedOut]
      split_ifs <;> rfl
  | readUpper =>
      rw [map_whenFree]
      rfl
  | lockQueue =>
      rw [map_whenFree]
      rfl
  | lockWindow =>
      rw [map_whenFree]
      rfl
  | map =>
      rw [map_whenTimerFree]
      unfold renumber
      simp only [ConcurrentQueue.image_pushAll]
      rfl
  | unlockWindow => rfl
  | unlockQueue => rfl
  | exit => rfl

end Sender

end Nkurdt

------------------------------------------------------------
-- Runs
------------------------------------------------------------

namespace Nkurdt

open SequenceNumber
open Runs

namespace Sender

theorem callStep_renumber
    (b : Nat)
    (s : Sender)
    (call : Call) :
    (s.renumber b).callStep call =
      (s.callStep call).map (fun next => next.renumber b) := by
  have hPc :
      (s.renumber b).callerPc = .idle ↔ s.callerPc = .idle := by
    change s.callerPc.renumber b = .idle ↔ _
    cases s.callerPc <;> simp [CallerPc.renumber]
  have hPackets :
      (s.history.packets.map (Packet.renumber b)).length =
        s.history.packets.length :=
    List.length_map _
  unfold callStep
  simp only [hPc]
  split_ifs
  · cases call
    all_goals
      unfold beginCall renumber History.renumber
      simp only [Option.map_some, hPackets]
      rfl
  · rfl

/-
  A step whose comparisons are on one side does the same to
  the shifted sender.
-/
theorem step_renumber
    {b : Nat}
    {s : Sender}
    {action : Action}
    (hBase : b < 2 ^ 32)
    (hRange : InRange s)
    (hCompares : s.ComparesOnOneSide b action) :
    (s.renumber b).step (action.renumber b) =
      (s.step action).map (fun next => next.renumber b) := by
  cases action with
  | call call => exact callStep_renumber b s call
  | thread thread =>
      cases thread with
      | caller =>
          exact callerStep_renumber b hRange.lower_lt
            hRange.upper_lt
      | sendHandler =>
          exact sendHandlerStep_renumber hBase hCompares
      | recvHandler =>
          exact recvHandlerStep_renumber hBase hRange
            hCompares
      | timeoutHandler =>
          exact timeoutHandlerStep_renumber b s
  | timer =>
      have hTimer :
          (s.renumber b).timer.threadStep
              (s.renumber b).clock = _ :=
        ConcurrentTimer.rename_threadStep s.timer (shift b)
          s.clock
      unfold Action.renumber step
      dsimp only
      rw [hTimer, Option.map_map, Option.map_map]
      rfl
  | recv result => exact recvStep_renumber b s result
  | tick duration => rfl
  | wakeCaller =>
      exact congrArg some (notifyState_renumber b s)
  | wakeTimer =>
      unfold Action.renumber step
      dsimp only [renumber]
      rw [Option.map_some, ← ConcurrentTimer.rename_notifyOne]

theorem sendDecision?_renumber
    {b : Nat}
    {s : Sender}
    (hBase : b < 2 ^ 32)
    (hCompares :
      s.ComparesOnOneSide b (.thread .sendHandler)) :
    (s.renumber b).sendDecision? =
      s.sendDecision?.map (Decision.renumber b) := by
  have hShifted :
      (s.renumber b).sendPc = s.sendPc.renumber b := rfl
  have hMode :
      (s.renumber b).selectiveRepeat = s.selectiveRepeat :=
    rfl
  have hLower :
      (s.renumber b).window.lowerBound =
        shift b s.window.lowerBound := rfl
  unfold sendDecision?
  rw [hShifted]
  cases hPc : s.sendPc
  case pop =>
      have hSides :
          ∀ m ∈ s.pendingQueue.elems,
            ∀ n ∈ s.pendingQueue.elems, SameSide b m n := by
        simpa only [ComparesOnOneSide, hPc] using hCompares
      have hFirst :
          OrderedSet.first? (s.renumber b).pendingQueue =
            (OrderedSet.first? s.pendingQueue).map
              (shift b) :=
        first?_renumber hBase hSides
      dsimp only [SendPc.renumber]
      rw [hFirst]
      rfl
  case checkAcked seq =>
      dsimp only [SendPc.renumber]
      simp only [hMode, mem_ackedSeqSet_renumber]
      rfl
  case checkLower seq =>
      have hSide : SameSide b seq s.window.lowerBound := by
        simpa only [ComparesOnOneSide, hPc] using hCompares
      dsimp only [SendPc.renumber]
      simp only [hLower, shift_lt_shift hBase hSide]
      rfl
  all_goals rfl

theorem recvDecision?_renumber
    {b : Nat}
    {s : Sender}
    (hBase : b < 2 ^ 32)
    (hRange : InRange s)
    (hCompares :
      s.ComparesOnOneSide b (.thread .recvHandler)) :
    (s.renumber b).recvDecision? =
      s.recvDecision?.map (Decision.renumber b) := by
  have hShifted :
      (s.renumber b).recvPc = s.recvPc.renumber b := rfl
  have hLower :
      (s.renumber b).window.lowerBound =
        shift b s.window.lowerBound := rfl
  have hSeq :
      ∀ packet : Packet,
        (packet.renumber b).seq = shift b packet.seq :=
    fun _ => rfl
  unfold recvDecision?
  rw [hShifted]
  cases hPc : s.recvPc
  case compare packet =>
      dsimp only [RecvPc.renumber]
      simp only [hLower, hSeq, (shift b).injective.eq_iff]
      rfl
  case less packet =>
      have hSide :
          SameSide b s.window.lowerBound packet.seq := by
        simpa only [ComparesOnOneSide, hPc] using hCompares
      dsimp only [RecvPc.renumber]
      simp only [hLower, hSeq, shift_lt_shift hBase hSide]
      rfl
  case slide =>
      dsimp only [RecvPc.renumber]
      simp only [hLower, mem_ackedSeqSet_renumber]
      rfl
  case pushAll packet lower upper =>
      have hRetransmit :=
        retransmit_renumber hBase hRange hCompares hPc
      dsimp only [RecvPc.renumber]
      rw [← hRetransmit]
      rfl
  all_goals rfl

/- Comparisons on one side give the same decision. -/
theorem decision?_renumber
    {b : Nat}
    {s : Sender}
    {action : Action}
    (hBase : b < 2 ^ 32)
    (hRange : InRange s)
    (hCompares : s.ComparesOnOneSide b action) :
    (s.renumber b).decision? (action.renumber b) =
      (s.decision? action).map (Decision.renumber b) := by
  cases action with
  | thread thread =>
      cases thread with
      | sendHandler =>
          exact sendDecision?_renumber hBase hCompares
      | recvHandler =>
          exact recvDecision?_renumber hBase hRange hCompares
      | caller => rfl
      | timeoutHandler => rfl
  | call call => rfl
  | timer => rfl
  | recv result => rfl
  | tick duration => rfl
  | wakeCaller => rfl
  | wakeTimer => rfl

/-
  The shifted sender makes the same decisions and comes to
  the shifted state.
-/
theorem run_renumber
    {b : Nat}
    {s : Sender}
    {actions : List Action}
    (hBase : b < 2 ^ 32)
    (hRange : InRange s)
    (hAlong : Along step (ComparesOnOneSide b) s actions) :
    outputs step decision? (s.renumber b)
          (actions.map (Action.renumber b)) =
        (outputs step decision? s actions).map
          (Option.map (Decision.renumber b)) ∧
      runActions step (fun _ _ _ => True) (s.renumber b)
          (actions.map (Action.renumber b)) =
        (runActions step (fun _ _ _ => True) s actions).map
          (fun last => last.renumber b) := by
  have hKeeps :
      ∀ current action next,
        InRange current →
        step current action = some next →
        InRange next :=
    fun _ _ _ => inRange_step
  have hStep :
      ∀ current action,
        InRange current →
        ComparesOnOneSide b current action →
        (current.renumber b).step (action.renumber b) =
          (current.step action).map
            (fun next => next.renumber b) :=
    fun _ _ => step_renumber hBase
  have hDecision :
      ∀ current action,
        InRange current →
        ComparesOnOneSide b current action →
        (current.renumber b).decision? (action.renumber b) =
          (current.decision? action).map
            (Decision.renumber b) :=
    fun _ _ => decision?_renumber hBase
  exact lockstep hKeeps hStep hDecision hRange hAlong

end Sender

end Nkurdt
