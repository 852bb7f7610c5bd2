import Nkurdt.Packet.Corruption
import Nkurdt.Sender.Renumber
import Nkurdt.Session.Delivery

/-
  A network that also damages datagrams.

  Either socket may return a datagram in which two adjacent
  bytes have changed, or one that comes from elsewhere and
  is turned away by the decoder. The iteration of a thread
  on such a datagram is one that no other part can notice:
  the rest of the run is a run over a network that damages
  nothing, with a timeout of the socket in its place.

  Main declarations:
    * `Packet.Damaged`
    * `Sender.quiet`
    * `Sender.quiet_recvStep`
    * `Session.Regular`
    * `Session.Noisy`
    * `Session.connected_of_noisy`
    * `Session.delivered_of_noisy`
-/

------------------------------------------------------------
-- Damaged Datagrams
------------------------------------------------------------

namespace Nkurdt

instance
    (sent received : List UInt8)
    (i : Nat) :
    Decidable (Packet.ZeroOnesSwap sent received i) :=
  inferInstanceAs (Decidable (_ ∨ _))

namespace Packet

/-
  What arrives has the length of what was sent and the same
  bytes but for a pair, and the pair has not been exchanged
  between all zeros and all ones.
-/
def Damaged (sent received : List UInt8) : Prop :=
  received.length = sent.length ∧
    ∃ i ∈ List.range sent.length,
      received.take i = sent.take i ∧
        received.drop (i + 2) = sent.drop (i + 2) ∧
        ¬ ZeroOnesSwap sent received i

instance (sent received : List UInt8) :
    Decidable (Damaged sent received) :=
  inferInstanceAs (Decidable (_ ∧ _))

/- A damaged datagram that differs, as a change of a pair. -/
theorem Damaged.changedWithin
    {sent received : List UInt8}
    (hDamaged : Damaged sent received)
    (hNe : received ≠ sent) :
    ∃ i, ChangedWithin sent received i ∧
      ¬ ZeroOnesSwap sent received i := by
  rcases hDamaged with
    ⟨hLength, i, _, hLeft, hRight, hSwap⟩
  refine ⟨i, ⟨hLength, hNe, ?_⟩, hSwap⟩
  intro j hFirst hSecond
  rcases Nat.lt_or_ge j i with hBefore | hBehind
  · rw [← List.getElem?_take_of_lt hBefore, hLeft,
      List.getElem?_take_of_lt hBefore]
  · have hPlace : j = i + 2 + (j - (i + 2)) := by
      omega
    rw [hPlace, ← List.getElem?_drop, hRight,
      List.getElem?_drop]

/- The checksum of a damaged datagram does not verify. -/
theorem fromBytes_of_changedWithin
    {packet : Packet}
    {received : List UInt8}
    {i : Nat}
    (hRange : packet.InRange)
    (hChanged : ChangedWithin packet.toBytes received i)
    (hSwap : ¬ ZeroOnesSwap packet.toBytes received i) :
    fromBytes received = some none := by
  have hBounds :
      12 ≤ packet.toBytes.length ∧
        packet.toBytes.length ≤ 65549 := by
    rw [toBytes_eq_layout]
    exact length_layout hRange _ _
  have hLength := hChanged.length_eq
  have hEmpty : received ≠ [] := by
    intro hNil
    rw [hNil, List.length_nil] at hLength
    omega
  apply fromBytes_of_checksum hEmpty
  intro hChecksum
  have hSent :=
    (calcChecksum_eq_zero_iff (by omega) (by omega)).mp
      (calcChecksum_toBytes hRange)
  have hReceived :=
    (calcChecksum_eq_zero_iff (by omega) (by omega)).mp
      hChecksum
  rcases changed_inside hChanged (by omega) with
    hInside | ⟨hLast, hSame⟩
  · exact hSwap
      (zeroOnesSwap_of_accepted hChanged hInside hSent.2
        hReceived.2)
  · -- the byte before the last is one of the two that change
    rcases zeroOnesSwap_of_accepted hLast (by omega) hSent.2
        hReceived.2 with hUp | hDown
    · rw [hUp.1, hUp.2.2.1] at hSame
      exact absurd hSame (by decide)
    · rw [hDown.1, hDown.2.2.1] at hSame
      exact absurd hSame (by decide)

theorem fromBytes_of_damaged
    {packet : Packet}
    {received : List UInt8}
    (hRange : packet.InRange)
    (hDamaged : Damaged packet.toBytes received) :
    received = packet.toBytes ∨
      fromBytes received = some none := by
  by_cases hSame : received = packet.toBytes
  · exact Or.inl hSame
  · rcases hDamaged.changedWithin hSame with
      ⟨i, hChanged, hSwap⟩
    exact Or.inr
      (fromBytes_of_changedWithin hRange hChanged hSwap)

end Packet

end Nkurdt

------------------------------------------------------------
-- Steps Beside the Receive Handler
------------------------------------------------------------

namespace Nkurdt

namespace Sender

/- The same sender with `recv_handler` at another place. -/
def withRecvPc (s : Sender) (pc : RecvPc) : Sender :=
  { s with recvPc := pc }

theorem whenTimerFree_withRecvPc
    (s next : Sender)
    (pc : RecvPc) :
    (whenTimerFree s next).map (fun t => t.withRecvPc pc) =
      whenTimerFree (s.withRecvPc pc)
        (next.withRecvPc pc) := by
  have hFree :
      (s.withRecvPc pc).timer.MutexFree ↔
        s.timer.MutexFree := Iff.rfl
  unfold whenTimerFree
  simp only [hFree]
  split_ifs <;> rfl

theorem finishStep_withRecvPc
    (s : Sender)
    (pc : RecvPc)
    (r : Request) :
    (s.withRecvPc pc).finishStep r =
      (s.finishStep r).withRecvPc pc := by
  have hState : (s.withRecvPc pc).state = s.state := rfl
  unfold finishStep
  rw [hState]
  cases r with
  | connect =>
      dsimp only
      split_ifs <;> rfl
  | push =>
      dsimp only
      split_ifs <;> rfl
  | stop => rfl
  | disconnect => rfl

/-
  Only `stop` looks at where `recv_handler` is, and only at
  whether it has left its loop.
-/
theorem callerStep_withRecvPc
    {s : Sender}
    {pc : RecvPc}
    (hExit : pc = .exit ↔ s.recvPc = .exit) :
    (s.withRecvPc pc).callerStep =
      s.callerStep.map (fun next => next.withRecvPc pc) := by
  have hPc : (s.withRecvPc pc).callerPc = s.callerPc := rfl
  have hState : (s.withRecvPc pc).state = s.state := rfl
  have hRunning :
      (s.withRecvPc pc).running = s.running := rfl
  have hStream : (s.withRecvPc pc).stream = s.stream := rfl
  have hClock :
      (s.withRecvPc pc).clock - (s.withRecvPc pc).startTime =
        s.clock - s.startTime := rfl
  have hTimer :
      (s.withRecvPc pc).timer.threadPc = s.timer.threadPc :=
    rfl
  have hSend : (s.withRecvPc pc).sendPc = s.sendPc := rfl
  have hRecv :
      (s.withRecvPc pc).recvPc = .exit ↔ s.recvPc = .exit :=
    hExit
  have hTimeout :
      (s.withRecvPc pc).timeoutPc = s.timeoutPc := rfl
  unfold callerStep
  rw [hPc]
  cases s.callerPc with dsimp only
  | idle | wait r | undefined => rfl
  | emplace t seq | unlockPool t => rfl
  | stopRunning | notifyTimer => rfl
  | lockState r | relock r =>
      rw [map_whenFree]
      rfl
  | waitWindow t | upperBound t | updateUpper t seq =>
      rw [map_whenFree]
      rfl
  | lockPool t seq | push t seq =>
      rw [map_whenFree]
      rfl
  | waitZero =>
      rw [map_whenFree]
      rfl
  | enter r | check r =>
      rw [hState]
      split_ifs <;> rfl
  | testRunning t | zeroRunning =>
      rw [hRunning]
      split_ifs <;> rfl
  | finish r =>
      exact congrArg some (finishStep_withRecvPc s pc r)
  | read =>
      rw [hStream]
      split_ifs <;> rfl
  | throughput =>
      unfold throughputStep
      rw [hClock]
      split_ifs <;> rfl
  | stopTimer =>
      rw [whenTimerFree_withRecvPc]
      rfl
  | joinTimer =>
      rw [hTimer]
      split_ifs <;> rfl
  | joinSend =>
      rw [hSend]
      split_ifs <;> rfl
  | joinRecv =>
      simp only [hRecv]
      split_ifs <;> rfl
  | joinTimeout =>
      rw [hTimeout]
      split_ifs <;> rfl

theorem exhaust_withRecvPc
    (s : Sender)
    (pc : RecvPc) :
    (s.withRecvPc pc).exhaust = s.exhaust.withRecvPc pc := by
  have hState : (s.withRecvPc pc).state = s.state := rfl
  unfold exhaust
  rw [hState]
  cases s.state <;> rfl

theorem sendHandlerStep_withRecvPc
    (s : Sender)
    (pc : RecvPc) :
    (s.withRecvPc pc).sendHandlerStep =
      s.sendHandlerStep.map
        (fun next => next.withRecvPc pc) := by
  have hPc : (s.withRecvPc pc).sendPc = s.sendPc := rfl
  have hQueue :
      (s.withRecvPc pc).pendingQueue = s.pendingQueue := rfl
  have hRunning :
      (s.withRecvPc pc).running = s.running := rfl
  have hAcked (seq : Nat) :
      ((s.withRecvPc pc).selectiveRepeat = true ∧
          seq ∈ (s.withRecvPc pc).ackedSeqSet) ↔
        s.selectiveRepeat = true ∧ seq ∈ s.ackedSeqSet :=
    Iff.rfl
  have hWindow : (s.withRecvPc pc).window = s.window := rfl
  have hRetry :
      (s.withRecvPc pc).retryCount = s.retryCount := rfl
  have hMax :
      (s.withRecvPc pc).maxRetryCount = s.maxRetryCount :=
    rfl
  have hPool :
      (s.withRecvPc pc).packetPool = s.packetPool := rfl
  unfold sendHandlerStep
  rw [hPc]
  cases s.sendPc with dsimp only
  | test | unlockState leave => rfl
  | unlockAcked leave | unlockPool leave | exit => rfl
  | pop =>
      rw [hQueue]
      rcases ConcurrentQueue.pop? s.pendingQueue with
        _ | ⟨seq, rest⟩
      · dsimp only
        rw [map_whenFree]
        rfl
      · dsimp only
        rw [map_whenFree]
        rfl
  | lockPool seq | lockAcked seq =>
      rw [map_whenFree]
      rfl
  | readLower seq | readUpper seq lower | lockState seq =>
      rw [map_whenFree]
      rfl
  | checkAcked seq =>
      simp only [hAcked]
      split_ifs <;> rfl
  | checkLower seq =>
      rw [map_whenFree, hWindow]
      split_ifs <;> rfl
  | retry seq =>
      rw [hRetry, hMax]
      cases s.retryCount seq with
      | none => rfl
      | some count =>
          dsimp only
          split_ifs <;> rfl
  | exhausted seq =>
      exact congrArg some (exhaust_withRecvPc s pc)
  | transmit seq =>
      rw [hPool]
      cases s.packetPool seq <;> rfl
  | register seq | removeEvent seq =>
      rw [whenTimerFree_withRecvPc]
      rfl

theorem timeoutHandlerStep_withRecvPc
    (s : Sender)
    (pc : RecvPc) :
    (s.withRecvPc pc).timeoutHandlerStep =
      s.timeoutHandlerStep.map
        (fun next => next.withRecvPc pc) := by
  have hPc : (s.withRecvPc pc).timeoutPc = s.timeoutPc := rfl
  unfold timeoutHandlerStep
  rw [hPc]
  cases s.timeoutPc with dsimp only
  | test | unlockWindow | unlockQueue | exit => rfl
  | readUpper | lockQueue | lockWindow =>
      rw [map_whenFree]
      rfl
  | wait | map =>
      rw [whenTimerFree_withRecvPc]
      rfl

theorem callStep_withRecvPc
    (s : Sender)
    (pc : RecvPc)
    (call : Call) :
    (s.withRecvPc pc).callStep call =
      (s.callStep call).map
        (fun next => next.withRecvPc pc) := by
  have hPc : (s.withRecvPc pc).callerPc = s.callerPc := rfl
  unfold callStep
  rw [hPc]
  split_ifs
  · cases call <;> rfl
  · rfl

/- `recv_handler` and its socket do nothing. -/
def Action.Beside : Action → Prop
| .thread .recvHandler => False
| .recv _ => False
| _ => True

/- The other steps do the same wherever it is. -/
theorem step_withRecvPc
    {s : Sender}
    {pc : RecvPc}
    {action : Action}
    (hExit : pc = .exit ↔ s.recvPc = .exit)
    (hBeside : action.Beside) :
    (s.withRecvPc pc).step action =
      (s.step action).map
        (fun next => next.withRecvPc pc) := by
  cases action with
  | call call => exact callStep_withRecvPc s pc call
  | thread thread =>
      cases thread with
      | caller => exact callerStep_withRecvPc hExit
      | sendHandler => exact sendHandlerStep_withRecvPc s pc
      | recvHandler => exact absurd hBeside id
      | timeoutHandler =>
          exact timeoutHandlerStep_withRecvPc s pc
  | timer =>
      change
        ((s.timer.threadStep s.clock).map _) =
          ((s.timer.threadStep s.clock).map _).map _
      rw [Option.map_map]
      rfl
  | recv result => exact absurd hBeside id
  | tick duration => rfl
  | wakeCaller => rfl
  | wakeTimer => rfl

theorem recvPc_of_beside
    {s s' : Sender}
    {action : Action}
    (hStep : s.step action = some s')
    (hBeside : action.Beside) :
    s'.recvPc = s.recvPc := by
  apply recvPc_of_other hStep
  · rintro rfl
    exact hBeside
  · rintro result rfl
    exact hBeside

end Sender

end Nkurdt

------------------------------------------------------------
-- A Sender That Heard Nothing
------------------------------------------------------------

namespace Nkurdt

/- A rejected datagram in hand is as good as none. -/
def RecvPc.quiet : RecvPc → RecvPc
| .decode bytes =>
    if Packet.fromBytes bytes = some none then
      .test
    else
      .decode bytes
| pc => pc

theorem RecvPc.quiet_eq_exit
    (pc : RecvPc) :
    pc.quiet = .exit ↔ pc = .exit := by
  cases pc
  case decode bytes =>
    unfold quiet
    dsimp only
    split_ifs <;> simp
  all_goals rfl

theorem RecvPc.quiet_of_not_decode
    {pc : RecvPc}
    (hOther : ∀ bytes, pc ≠ .decode bytes) :
    pc.quiet = pc := by
  cases pc
  case decode bytes => exact absurd rfl (hOther bytes)
  all_goals rfl

namespace Sender

def quiet (s : Sender) : Sender :=
  s.withRecvPc s.recvPc.quiet

theorem quiet_of_same
    {s : Sender}
    (hSame : s.recvPc.quiet = s.recvPc) :
    s.quiet = s := by
  unfold quiet
  rw [hSame]
  rfl

/- A step beside `recv_handler`, without the datagram. -/
theorem quiet_beside
    {s s' : Sender}
    {action : Action}
    (hStep : s.step action = some s')
    (hBeside : action.Beside) :
    s.quiet.step action = some s'.quiet := by
  unfold quiet
  rw [step_withRecvPc (RecvPc.quiet_eq_exit s.recvPc)
    hBeside, hStep, recvPc_of_beside hStep hBeside]
  rfl

/- A rejected datagram is dropped, and nothing has happened. -/
theorem quiet_recvHandlerStep
    {s s' : Sender}
    (hStep : s.recvHandlerStep = some s') :
    s'.quiet = s.quiet ∨
      s.quiet.recvHandlerStep = some s'.quiet := by
  have hNext : s'.quiet = s' :=
    quiet_of_same
      (RecvPc.quiet_of_not_decode
        (packet?_recvHandlerStep hStep).2)
  by_cases hSame : s.recvPc.quiet = s.recvPc
  · right
    rw [hNext, quiet_of_same hSame]
    exact hStep
  · left
    rw [hNext]
    cases hPc : s.recvPc
    case decode bytes =>
      rw [hPc] at hSame
      unfold RecvPc.quiet at hSame
      dsimp only at hSame
      split_ifs at hSame with hRejected
      · unfold recvHandlerStep at hStep
        rw [hPc] at hStep
        dsimp only at hStep
        rw [hRejected] at hStep
        rw [← Option.some.inj hStep]
        unfold quiet
        rw [hPc]
        unfold RecvPc.quiet
        dsimp only
        rw [if_pos hRejected]
        rfl
      · exact absurd rfl hSame
    all_goals
      rw [hPc] at hSame
      exact absurd rfl hSame

/- The socket returns a rejected datagram or times out. -/
theorem quiet_recvStep_of_rejected
    {s s' : Sender}
    {bytes : List UInt8}
    (addr : SocketAddr)
    (hRejected : Packet.fromBytes bytes = some none)
    (hStep : s.recvStep (.datagram bytes addr) = some s') :
    s.quiet.recvStep (.error eAgain) = some s'.quiet := by
  unfold recvStep at hStep
  split_ifs at hStep with hPc
  rw [← Option.some.inj hStep]
  have hQuiet : s.quiet = s := by
    apply quiet_of_same
    rw [hPc]
    rfl
  rw [hQuiet]
  unfold recvStep quiet RecvPc.quiet
  dsimp only
  rw [if_pos hPc, if_pos hRejected]
  rfl

/- Anything else that it returns stays in hand. -/
theorem quiet_recvStep
    {s s' : Sender}
    {result : RecvResult}
    (hTaken :
      ∀ bytes addr,
        result = .datagram bytes addr →
        Packet.fromBytes bytes ≠ some none)
    (hMild :
      ∀ value,
        result = .error value →
        isFatalError value = false)
    (hStep : s.recvStep result = some s') :
    s.quiet.recvStep result = some s'.quiet := by
  have hPc : s.recvPc = .recv :=
    (recvStep_keeps hStep).recvPc
  have hQuiet : s.quiet = s := by
    apply quiet_of_same
    rw [hPc]
    rfl
  rw [hQuiet, hStep]
  congr 1
  symm
  apply quiet_of_same
  unfold recvStep at hStep
  rw [if_pos hPc] at hStep
  cases result with
  | error value =>
      dsimp only at hStep
      rw [hMild value rfl] at hStep
      rw [← Option.some.inj hStep]
      rfl
  | datagram bytes addr =>
      rw [← Option.some.inj hStep]
      unfold RecvPc.quiet
      dsimp only
      rw [if_neg (hTaken bytes addr rfl)]

end Sender

end Nkurdt

------------------------------------------------------------
-- Sessions Over a Noisy Network
------------------------------------------------------------

namespace Nkurdt

namespace Session

open Sender
open Runs

def quiet (x : Session) : Session :=
  { x with sender := x.sender.quiet }

/-
  What a socket returns: a datagram that has been sent,
  whole or damaged, a datagram that is no packet, or an
  error that is not fatal.
-/
def CarriesNoise (sent : List Packet) : RecvResult → Prop
| .error value => isFatalError value = false
| .datagram bytes _ =>
    (∃ packet ∈ sent,
        bytes = packet.toBytes ∨
          Packet.Damaged packet.toBytes bytes) ∨
      Packet.fromBytes bytes = some none

instance (sent : List Packet) (result : RecvResult) :
    Decidable (CarriesNoise sent result) := by
  rcases result with ⟨⟩ | ⟨⟩
  all_goals
    unfold CarriesNoise
    infer_instance

def DeliversNoise (x : Session) : Action → Prop
| .sender (.recv result) => CarriesNoise x.replies result
| .receive result => CarriesNoise x.requests result
| _ => True

instance (x : Session) (action : Action) :
    Decidable (x.DeliversNoise action) := by
  unfold DeliversNoise
  rcases action with ⟨⟨⟩⟩ | _
  all_goals infer_instance

/-
  A step of a connected session, whatever the sockets
  return.
-/
structure Regular
    (x : Session)
    (action : Action)
    (x' : Session) : Prop where
  follows : x.CallsFollow action
  exhausted : x'.sender.history.exhausted = []
  running : x'.sender.running = true
  senderRoom :
    x'.sender.window.upperBound +
      x'.sender.window.maxWindowSize < 2 ^ 32
  receiverRoom :
    x'.sender.window.upperBound +
      x'.receiver.maxWindowSize < 2 ^ 32
  stays : ¬ Disconnects action

instance (x : Session) (action : Action) (x' : Session) :
    Decidable (Regular x action x') :=
  decidable_of_iff
    (x.CallsFollow action ∧
      x'.sender.history.exhausted = [] ∧
      x'.sender.running = true ∧
      x'.sender.window.upperBound +
        x'.sender.window.maxWindowSize < 2 ^ 32 ∧
      x'.sender.window.upperBound +
        x'.receiver.maxWindowSize < 2 ^ 32 ∧
      ¬ Disconnects action)
    ⟨fun hAll => ⟨hAll.1, hAll.2.1, hAll.2.2.1,
        hAll.2.2.2.1, hAll.2.2.2.2.1, hAll.2.2.2.2.2⟩,
      fun hStep => ⟨hStep.follows, hStep.exhausted,
        hStep.running, hStep.senderRoom,
        hStep.receiverRoom, hStep.stays⟩⟩

theorem Regular.connected
    {x x' : Session}
    {action : Action}
    (hRegular : Regular x action x')
    (hDelivers : x.Delivers action) :
    Connected x action x' where
  delivers := hDelivers
  follows := hRegular.follows
  exhausted := hRegular.exhausted
  running := hRegular.running
  senderRoom := hRegular.senderRoom
  receiverRoom := hRegular.receiverRoom
  stays := hRegular.stays

/- A step over a noisy network. -/
structure Noisy
    (x : Session)
    (action : Action)
    (x' : Session) : Prop
    extends Regular x action x' where
  delivers : x.DeliversNoise action

instance (x : Session) (action : Action) (x' : Session) :
    Decidable (Noisy x action x') :=
  decidable_of_iff
    (Regular x action x' ∧ x.DeliversNoise action)
    ⟨fun hBoth => ⟨hBoth.1, hBoth.2⟩,
      fun hStep => ⟨hStep.toRegular, hStep.delivers⟩⟩

/- Without the noise it is a step of a connected session. -/
theorem Noisy.connected
    {x x' : Session}
    {action action' : Action}
    (hNoisy : Noisy x action x')
    (hDelivers : x.quiet.Delivers action')
    (hFollows : x.quiet.CallsFollow action')
    (hStays : ¬ Disconnects action') :
    Connected x.quiet action' x'.quiet where
  delivers := hDelivers
  follows := hFollows
  exhausted := hNoisy.exhausted
  running := hNoisy.running
  senderRoom := hNoisy.senderRoom
  receiverRoom := hNoisy.receiverRoom
  stays := hStays

/- The packets of a session can be encoded. -/
theorem Joined.inRange_requests
    {x : Session}
    (hJoined : Joined x) :
    ∀ packet ∈ x.requests, packet.InRange := by
  intro packet hMember
  rcases List.mem_map.mp hMember with ⟨d, hWire, rfl⟩
  exact (hJoined.originals.inRange
    (hJoined.originals.wire d hWire)).1

theorem Joined.inRange_replies
    {x : Session}
    (hJoined : Joined x) :
    ∀ ack ∈ x.replies, ack.InRange := by
  intro ack hMember
  rcases hJoined.served with ⟨_, hFresh⟩ | hServing
  · unfold replies at hMember
    rw [hFresh] at hMember
    cases hMember
  · have hSeq := hServing.seq_le hMember
    have hBounded := hJoined.originals.bounded
    exact (hServing.plain ack hMember).inRange (by omega)

/- Noise is rejected, and everything else is carried. -/
theorem carries_of_noise
    {sent : List Packet}
    {result : RecvResult}
    (hRange : ∀ packet ∈ sent, packet.InRange)
    (hNoise : CarriesNoise sent result) :
    Carries sent result ∨
      ∃ bytes addr,
        result = .datagram bytes addr ∧
          Packet.fromBytes bytes = some none := by
  cases result with
  | error value => exact Or.inl hNoise
  | datagram bytes addr =>
      rcases hNoise with
        ⟨packet, hMember, hWhole | hDamaged⟩ | hRejected
      · exact Or.inl ⟨packet, hMember, hWhole⟩
      · rcases Packet.fromBytes_of_damaged
            (hRange packet hMember) hDamaged with
          hSame | hRejected
        · exact Or.inl ⟨packet, hMember, hSame⟩
        · exact Or.inr ⟨bytes, addr, rfl, hRejected⟩
      · exact Or.inr ⟨bytes, addr, rfl, hRejected⟩

/- What is carried and can be decoded is not noise. -/
theorem quiet_recvStep_of_carries
    {s s' : Sender}
    {sent : List Packet}
    {result : RecvResult}
    (hRange : ∀ packet ∈ sent, packet.InRange)
    (hCarries : Carries sent result)
    (hStep : s.recvStep result = some s') :
    s.quiet.recvStep result = some s'.quiet := by
  apply quiet_recvStep ?_ ?_ hStep
  · rintro bytes addr rfl hRejected
    rcases hCarries with ⟨packet, hMember, rfl⟩
    rw [Packet.fromBytes_toBytes (hRange packet hMember)]
      at hRejected
    cases hRejected
  · rintro value rfl
    exact hCarries

/-
  Every step over a noisy network is a step over one that
  damages nothing, or none at all.
-/
theorem connected_step_of_noisy
    {x x' : Session}
    {action : Action}
    (hJoined : Joined x.quiet)
    (hStep : x.step action = some x')
    (hNoisy : Noisy x action x') :
    x'.quiet = x.quiet ∨
      ∃ action',
        x.quiet.step action' = some x'.quiet ∧
          Connected x.quiet action' x'.quiet := by
  cases action with
  | receive result =>
      cases hStep
      rcases carries_of_noise hJoined.inRange_requests
          hNoisy.delivers with
        hCarries | ⟨bytes, addr, rfl, hRejected⟩
      · exact Or.inr ⟨.receive result, rfl,
          hNoisy.connected hCarries trivial id⟩
      · left
        unfold quiet Receiver.recvStep
        dsimp only
        rw [hRejected]
        split_ifs <;> rfl
  | sender action =>
      rcases Option.map_eq_some_iff.mp hStep with
        ⟨s', hSender, rfl⟩
      have hLift :
          ∀ action',
            x.sender.quiet.step action' = some s'.quiet →
            x.quiet.step (.sender action') =
              some (quiet { x with sender := s' }) := by
        intro action' hQuiet
        unfold Session.step quiet
        dsimp only
        rw [hQuiet]
        rfl
      by_cases hBeside : action.Beside
      · refine Or.inr ⟨.sender action,
          hLift action (quiet_beside hSender hBeside), ?_⟩
        apply hNoisy.connected ?_ hNoisy.follows
          hNoisy.stays
        cases action
        case recv result => exact absurd hBeside id
        all_goals trivial
      · cases action with
        | recv result =>
            rcases carries_of_noise hJoined.inRange_replies
                hNoisy.delivers with
              hCarries | ⟨bytes, addr, rfl, hRejected⟩
            · exact Or.inr ⟨.sender (.recv result),
                hLift _ (quiet_recvStep_of_carries
                  hJoined.inRange_replies hCarries hSender),
                hNoisy.connected hCarries trivial id⟩
            · exact Or.inr ⟨.sender (.recv (.error eAgain)),
                hLift _ (quiet_recvStep_of_rejected addr
                  hRejected hSender),
                hNoisy.connected rfl trivial id⟩
        | thread thread =>
            cases thread with
            | recvHandler =>
                rcases quiet_recvHandlerStep hSender with
                  hSame | hMoves
                · left
                  unfold quiet
                  dsimp only
                  rw [hSame]
                · exact Or.inr
                    ⟨.sender (.thread .recvHandler),
                      hLift _ hMoves,
                      hNoisy.connected trivial trivial id⟩
            | _ => exact absurd trivial hBeside
        | _ => exact absurd trivial hBeside

/- Without the noise a run is one of a connected session. -/
theorem connected_of_noisy
    {config : SenderConfig}
    {w : Nat}
    {x : Session}
    (hSize : 1 ≤ w)
    (hReach : Reaches step Noisy (fresh config w) x) :
    Reaches step Connected (fresh config w) x.quiet := by
  induction hReach with
  | refl => exact .refl
  | tail _ hNext hNoisy ih =>
      have hJoined := (sustained_of_reaches hSize ih).joined
      rcases connected_step_of_noisy hJoined hNext hNoisy with
        hSame | ⟨action', hMoves, hConnected⟩
      · rw [hSame]
        exact ih
      · exact ih.tail hMoves hConnected

/- The output is a prefix of the streams. -/
theorem Joined.written_prefix
    {x : Session}
    (hJoined : Joined x) :
    Event.written x.receiver.trace <+:
      x.sender.history.streams.flatten := by
  have hTake :
      (x.sender.history.packets.take
        x.receiver.window.1).flatMap Packet.payload <+:
        x.sender.history.packets.flatMap Packet.payload :=
    (List.take_prefix _ _).flatMap _
  rw [hJoined.written_eq_take, ← hJoined.streamed.sum]
  exact hTake.trans (List.prefix_append _ _)

/- When the wait for an empty window is over, it is all. -/
theorem Joined.written_of_waitZero
    {x : Session}
    {s' : Sender}
    (hJoined : Joined x)
    (hPc : x.sender.callerPc = .waitZero)
    (hStep : x.sender.callerStep = some s')
    (hNext : s'.callerPc = .throughput) :
    Event.written x.receiver.trace =
      x.sender.history.streams.flatten := by
  have hZero : x.sender.window.Zero := by
    unfold Sender.callerStep at hStep
    simp only [hPc, whenFree_eq_some] at hStep
    rcases hStep with ⟨_, rfl⟩
    dsimp only at hNext
    split_ifs at hNext with hEmpty
    exact hEmpty
  have hSum := hJoined.streamed.sum
  have hUnread := hJoined.streamed.unread
  rw [hPc] at hSum hUnread
  have hRead : x.sender.stream.content = [] :=
    hUnread (fun hStreams => hStreams)
  rw [hJoined.written_of_zero hZero, ← hSum, hRead]
  exact (List.append_nil _).symm

/-
  A network that damages pairs of bytes and brings in
  foreign datagrams, in either direction, changes nothing:
  the run is a run of a connected session but for the hand
  of `recv_handler`. The output is a prefix of the streams,
  and all of them when the window is empty.
-/
theorem delivered_of_noisy
    {config : SenderConfig}
    {w : Nat}
    {x : Session}
    (hSize : 1 ≤ w)
    (hReach : Reaches step Noisy (fresh config w) x) :
    Reaches step Connected (fresh config w) x.quiet ∧
      Event.written x.receiver.trace <+:
        x.sender.history.streams.flatten ∧
      x.sender.window.lowerBound ≤ x.receiver.window.1 ∧
      ∀ s',
        x.sender.callerPc = .waitZero →
        x.sender.callerStep = some s' →
        s'.callerPc = .throughput →
          Event.written x.receiver.trace =
            x.sender.history.streams.flatten := by
  have hQuiet := connected_of_noisy hSize hReach
  have hJoined := (sustained_of_reaches hSize hQuiet).joined
  refine ⟨hQuiet, hJoined.written_prefix, hJoined.behind, ?_⟩
  intro s' hPc hStep hNext
  have hCaller :
      x.sender.step (.thread .caller) = some s' := hStep
  have hMoves :
      x.quiet.sender.step (.thread .caller) =
        some s'.quiet :=
    quiet_beside hCaller trivial
  exact hJoined.written_of_waitZero hPc hMoves hNext

/-
  A request and an acknowledgement are damaged on the way,
  and a stray datagram arrives on either side.
-/
def disturbed : List Action :=
  [Action.sender (.call (.connect ⟨0, 1⟩))] ++
    steps .caller 10 ++ steps .sendHandler 13 ++
    [Action.receive (.datagram
      (((Transfer.request .connect).packet 0).toBytes.set 7
        9) ⟨0, 2⟩)] ++
    [arrives ((Transfer.request .connect).packet 0)] ++
    steps .recvHandler 1 ++
    [Action.sender (.recv (.datagram
      ((Packet.toBytes ⟨version, .connAck, 1, []⟩).set 7 9)
      ⟨0, 1⟩))] ++
    steps .recvHandler 2 ++
    [Action.sender (.recv (.datagram [7] ⟨0, 3⟩))] ++
    steps .recvHandler 1 ++
    answer .connAck 1 13 ++ steps .caller 3 ++ sending

/- All the same the stream is delivered. -/
theorem delivered_of_noisy_disturbed :
    ∃ x,
      Reaches step Noisy
        (fresh ⟨1, 0, 1, false, false⟩ 1) x ∧
      Event.written x.receiver.trace = [1, 2, 3] ∧
      Reaches step Connected
        (fresh ⟨1, 0, 1, false, false⟩ 1) x.quiet ∧
      Event.written x.receiver.trace <+:
        x.sender.history.streams.flatten := by
  have hRun :
      ∃ x,
        Reaches step Noisy
          (fresh ⟨1, 0, 1, false, false⟩ 1) x ∧
        Event.written x.receiver.trace = [1, 2, 3] :=
    exists_reaches_of_runActions disturbed
      (by decide +kernel)
  rcases hRun with ⟨x, hReach, hWritten⟩
  have hDelivered := delivered_of_noisy (by decide) hReach
  exact ⟨x, hReach, hWritten, hDelivered.1, hDelivered.2.1⟩

end Session

end Nkurdt
