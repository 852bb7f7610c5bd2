import Nkurdt.Library.Mutexes
import Nkurdt.Sender.Keeps

/-
  The sections that `state_mutex_` and `acked_seq_set_mutex_`
  guard.

  A call holds the state mutex from its lock to its wait or
  its return, `send_packet` of a request included. The
  handlers hold it for an assignment. `send_handler` holds
  the other one while it deals with a number, `recv_handler`
  while it deals with an acknowledgement.

  Main declarations:
    * `Sender.InState`
    * `Sender.InAcked`
    * `Sender.MutexesGuarded`
    * `Sender.mutexesGuarded_step`
-/

------------------------------------------------------------
-- Sections
------------------------------------------------------------

namespace Nkurdt

/- A request is sent under `state_mutex_`, data is not. -/
def Transfer.IsRequest : Transfer → Prop
| .request _ => True
| .data _ => False

instance (t : Transfer) : Decidable t.IsRequest := by
  unfold Transfer.IsRequest
  split <;> infer_instance

/- The code of the caller under `state_mutex_`. -/
def CallerPc.InState : CallerPc → Prop
| .enter _ => True
| .waitWindow t => t.IsRequest
| .testRunning t => t.IsRequest
| .upperBound t => t.IsRequest
| .updateUpper t _ => t.IsRequest
| .lockPool t _ => t.IsRequest
| .emplace t _ => t.IsRequest
| .push t _ => t.IsRequest
| .unlockPool t => t.IsRequest
| .check _ => True
| .finish _ => True
| _ => False

def SendPc.InState : SendPc → Prop
| .exhausted _ => True
| .unlockState _ => True
| _ => False

def RecvPc.InState : RecvPc → Prop
| .setState _ _ => True
| .unlockState _ => True
| _ => False

/- The code of `send_handler` under the other mutex. -/
def SendPc.InAcked : SendPc → Prop
| .test => False
| .pop => False
| .lockPool _ => False
| .lockAcked _ => False
| .unlockPool _ => False
| .exit => False
| _ => True

def RecvPc.InAcked : RecvPc → Prop
| .insertAck _ => True
| .compare _ => True
| .fastLower _ => True
| .fastUpper _ _ => True
| .lockQueue _ _ _ => True
| .pushAll _ _ _ => True
| .unlockQueue _ => True
| .countDup _ => True
| .less _ => True
| .setLower _ => True
| .eraseAck _ => True
| .slide => True
| .unlockAcked => True
| _ => False

namespace Sender

/- The threads in the section of `state_mutex_`. -/
def InState (s : Sender) : Thread → Prop
| .caller => s.callerPc.InState
| .sendHandler => s.sendPc.InState
| .recvHandler => s.recvPc.InState
| .timeoutHandler => False

/- The threads in that of `acked_seq_set_mutex_`. -/
def InAcked (s : Sender) : Thread → Prop
| .caller => False
| .sendHandler => s.sendPc.InAcked
| .recvHandler => s.recvPc.InAcked
| .timeoutHandler => False

/- Both mutexes guard their sections. -/
structure MutexesGuarded (s : Sender) : Prop where
  state : Mutexes.Guarded s.locks.state s.InState
  acked : Mutexes.Guarded s.locks.ackedSeqSet s.InAcked

theorem mutexesGuarded_fresh
    (config : SenderConfig) :
    MutexesGuarded (fresh config) := by
  constructor
  · intro thread hInside
    cases thread <;> exact hInside.elim
  · intro thread hInside
    cases thread <;> exact hInside.elim

/- A waiting caller holds nothing, asleep or awake. -/
theorem inState_of_wake
    {pc pc' : CallerPc}
    (hCaller : pc' = pc ∨ pc' = wake pc)
    (hInside : pc'.InState) :
    pc.InState := by
  rcases hCaller with rfl | rfl
  · exact hInside
  · cases pc <;> exact hInside

end Sender

end Nkurdt

------------------------------------------------------------
-- Moves of the Threads
------------------------------------------------------------

namespace Nkurdt

namespace Sender

open Mutexes

/- Only a request is in the section behind `send_packet`. -/
theorem isRequest_of_after
    {t : Transfer}
    (hInside : t.after.InState) :
    t.IsRequest := by
  cases t with
  | request r => exact trivial
  | data payload => exact hInside

/- The caller locks, keeps or releases `state_mutex_`. -/
theorem stateMove_callerStep
    {s s' : Sender}
    (hStep : s.callerStep = some s') :
    Move s.locks.state s'.locks.state .caller
      s.callerPc.InState s'.callerPc.InState := by
  cases callerStep_branch hStep with
  | locksState _ hFree | relocks _ hFree =>
      exact .lock hFree rfl
  | waits hPc | fails hPc | succeeds hPc | opens hPc =>
      rw [hPc]
      exact .leave trivial (fun hInside => hInside)
  | unlocksPool hPc | abandons hPc =>
      rw [hPc]
      exact .keep rfl isRequest_of_after
  | _ hPc =>
      rw [hPc]
      exact .keep rfl (fun hInside => hInside)

/- The caller leaves the other mutex alone. -/
theorem ackedOwner_callerStep
    {s s' : Sender}
    (hStep : s.callerStep = some s') :
    s'.locks.ackedSeqSet = s.locks.ackedSeqSet := by
  cases callerStep_branch hStep
  all_goals rfl

/- What `send_handler` does to the two mutexes. -/
theorem moves_sendHandlerStep
    {s s' : Sender}
    (hStep : s.sendHandlerStep = some s') :
    Move s.locks.state s'.locks.state .sendHandler
        s.sendPc.InState s'.sendPc.InState ∧
      Move s.locks.ackedSeqSet s'.locks.ackedSeqSet
        .sendHandler s.sendPc.InAcked s'.sendPc.InAcked := by
  cases sendHandlerStep_branch hStep with
  | locksState hPc hFree =>
      rw [hPc]
      exact ⟨.lock hFree rfl, .keep rfl (fun _ => trivial)⟩
  | unlocksState hPc =>
      rw [hPc]
      exact ⟨.leave trivial (fun hInside => hInside),
        .keep rfl (fun _ => trivial)⟩
  | locksAcked hPc hFree =>
      rw [hPc]
      exact ⟨.keep rfl (fun hInside => hInside),
        .lock hFree rfl⟩
  | unlocksAcked hPc =>
      rw [hPc]
      exact ⟨.keep rfl (fun hInside => hInside),
        .leave trivial (fun hInside => hInside)⟩
  | _ hPc =>
      rw [hPc]
      exact ⟨.keep rfl (fun hInside => hInside),
        .keep rfl (fun hInside => hInside)⟩

/- What `recv_handler` does to the two mutexes. -/
theorem moves_recvHandlerStep
    {s s' : Sender}
    (hStep : s.recvHandlerStep = some s') :
    Move s.locks.state s'.locks.state .recvHandler
        s.recvPc.InState s'.recvPc.InState ∧
      Move s.locks.ackedSeqSet s'.locks.ackedSeqSet
        .recvHandler s.recvPc.InAcked s'.recvPc.InAcked := by
  cases recvHandlerStep_branch hStep with
  | locksState hPc hFree =>
      rw [hPc]
      exact ⟨.lock hFree rfl,
        .keep rfl (fun hInside => hInside)⟩
  | unlocksState hPc =>
      rw [hPc]
      exact ⟨.leave trivial (fun hInside => hInside),
        .keep rfl (fun hInside => hInside)⟩
  | locksAcked hPc hFree =>
      rw [hPc]
      exact ⟨.keep rfl (fun hInside => hInside),
        .lock hFree rfl⟩
  | unlocksAcked hPc =>
      rw [hPc]
      exact ⟨.keep rfl (fun hInside => hInside),
        .leave trivial (fun hInside => hInside)⟩
  | _ hPc =>
      rw [hPc]
      exact ⟨.keep rfl (fun hInside => hInside),
        .keep rfl (fun hInside => hInside)⟩

/- `timeout_handler` and the socket touch neither. -/
theorem owners_timeoutHandlerStep
    {s s' : Sender}
    (hStep : s.timeoutHandlerStep = some s') :
    s'.locks.state = s.locks.state ∧
      s'.locks.ackedSeqSet = s.locks.ackedSeqSet := by
  cases timeoutHandlerStep_branch hStep
  all_goals exact ⟨rfl, rfl⟩

theorem outside_recvStep
    {s s' : Sender}
    (hKeeps : SocketKeeps s s') :
    ¬ s'.recvPc.InState ∧ ¬ s'.recvPc.InAcked := by
  rcases hKeeps.next with ⟨bytes, hNext⟩ | hNext
  · rw [hNext]
    exact ⟨fun hInside => hInside, fun hInside => hInside⟩
  · rw [hNext]
    exact ⟨fun hInside => hInside, fun hInside => hInside⟩

end Sender

end Nkurdt

------------------------------------------------------------
-- Guarded in Every Run
------------------------------------------------------------

namespace Nkurdt

namespace Sender

/- A thread whose counter is the same is where it was. -/
theorem inState_of_same
    {s s' : Sender}
    {thread : Thread}
    (hCaller :
      thread = .caller →
        s'.callerPc.InState → s.callerPc.InState)
    (hSend :
      thread = .sendHandler → s'.sendPc = s.sendPc)
    (hRecv :
      thread = .recvHandler → s'.recvPc = s.recvPc)
    (hInside : s'.InState thread) :
    s.InState thread := by
  cases thread with
  | caller => exact hCaller rfl hInside
  | sendHandler =>
      have hSection : s'.sendPc.InState := hInside
      rw [hSend rfl] at hSection
      exact hSection
  | recvHandler =>
      have hSection : s'.recvPc.InState := hInside
      rw [hRecv rfl] at hSection
      exact hSection
  | timeoutHandler => exact hInside

theorem inAcked_of_same
    {s s' : Sender}
    {thread : Thread}
    (hSend :
      thread = .sendHandler → s'.sendPc = s.sendPc)
    (hRecv :
      thread = .recvHandler → s'.recvPc = s.recvPc)
    (hInside : s'.InAcked thread) :
    s.InAcked thread := by
  cases thread with
  | caller => exact hInside
  | sendHandler =>
      have hSection : s'.sendPc.InAcked := hInside
      rw [hSend rfl] at hSection
      exact hSection
  | recvHandler =>
      have hSection : s'.recvPc.InAcked := hInside
      rw [hRecv rfl] at hSection
      exact hSection
  | timeoutHandler => exact hInside

/- A step that leaves the owners and the handlers alone. -/
theorem MutexesGuarded.congr
    {s s' : Sender}
    (hGuarded : MutexesGuarded s)
    (hState : s'.locks.state = s.locks.state)
    (hAcked : s'.locks.ackedSeqSet = s.locks.ackedSeqSet)
    (hCaller : s'.callerPc.InState → s.callerPc.InState)
    (hSend : s'.sendPc = s.sendPc)
    (hRecv : s'.recvPc = s.recvPc) :
    MutexesGuarded s' := by
  constructor
  · apply hGuarded.state.congr hState
    intro thread
    exact inState_of_same (fun _ => hCaller)
      (fun _ => hSend) (fun _ => hRecv)
  · apply hGuarded.acked.congr hAcked
    intro thread
    exact inAcked_of_same (fun _ => hSend) (fun _ => hRecv)

theorem mutexesGuarded_callerStep
    {s s' : Sender}
    (hGuarded : MutexesGuarded s)
    (hStep : s.callerStep = some s') :
    MutexesGuarded s' := by
  have hKeeps := callerStep_keeps hStep
  constructor
  · apply hGuarded.state.move (stateMove_callerStep hStep)
    intro other hOther
    exact inState_of_same
      (fun hSelf => absurd hSelf hOther)
      (fun _ => hKeeps.sendPc) (fun _ => hKeeps.recvPc)
  · apply hGuarded.acked.congr (ackedOwner_callerStep hStep)
    intro thread
    exact inAcked_of_same (fun _ => hKeeps.sendPc)
      (fun _ => hKeeps.recvPc)

theorem mutexesGuarded_sendHandlerStep
    {s s' : Sender}
    (hGuarded : MutexesGuarded s)
    (hStep : s.sendHandlerStep = some s') :
    MutexesGuarded s' := by
  have hKeeps := sendHandlerStep_keeps hStep
  have hMoves := moves_sendHandlerStep hStep
  constructor
  · apply hGuarded.state.move hMoves.1
    intro other hOther
    exact inState_of_same
      (fun _ => inState_of_wake hKeeps.callerPc)
      (fun hSelf => absurd hSelf hOther)
      (fun _ => hKeeps.recvPc)
  · apply hGuarded.acked.move hMoves.2
    intro other hOther
    exact inAcked_of_same
      (fun hSelf => absurd hSelf hOther)
      (fun _ => hKeeps.recvPc)

theorem mutexesGuarded_recvHandlerStep
    {s s' : Sender}
    (hGuarded : MutexesGuarded s)
    (hStep : s.recvHandlerStep = some s') :
    MutexesGuarded s' := by
  have hKeeps := recvHandlerStep_keeps hStep
  have hMoves := moves_recvHandlerStep hStep
  constructor
  · apply hGuarded.state.move hMoves.1
    intro other hOther
    exact inState_of_same
      (fun _ => inState_of_wake hKeeps.callerPc)
      (fun _ => hKeeps.sendPc)
      (fun hSelf => absurd hSelf hOther)
  · apply hGuarded.acked.move hMoves.2
    intro other hOther
    exact inAcked_of_same (fun _ => hKeeps.sendPc)
      (fun hSelf => absurd hSelf hOther)

theorem mutexesGuarded_recvStep
    {s s' : Sender}
    {result : RecvResult}
    (hGuarded : MutexesGuarded s)
    (hStep : s.recvStep result = some s') :
    MutexesGuarded s' := by
  have hKeeps := recvStep_keeps hStep
  have hOutside := outside_recvStep hKeeps
  constructor
  · apply hGuarded.state.congr (by rw [hKeeps.locks])
    intro thread hInside
    refine inState_of_same
      (fun _ => inState_of_wake hKeeps.callerPc)
      (fun _ => hKeeps.sendPc) ?_ hInside
    intro hSelf
    subst hSelf
    exact absurd hInside hOutside.1
  · apply hGuarded.acked.congr (by rw [hKeeps.locks])
    intro thread hInside
    refine inAcked_of_same (fun _ => hKeeps.sendPc) ?_
      hInside
    intro hSelf
    subst hSelf
    exact absurd hInside hOutside.2

/- Every step keeps both sections guarded. -/
theorem mutexesGuarded_step
    {s s' : Sender}
    {action : Action}
    (hGuarded : MutexesGuarded s)
    (hStep : s.step action = some s') :
    MutexesGuarded s' := by
  cases action with
  | call call =>
      unfold step callStep at hStep
      dsimp only at hStep
      split_ifs at hStep
      cases call
      all_goals
        rw [← Option.some.inj hStep]
        exact hGuarded.congr rfl rfl
          (fun hInside => hInside.elim) rfl rfl
  | thread thread =>
      cases thread with
      | caller =>
          exact mutexesGuarded_callerStep hGuarded hStep
      | sendHandler =>
          exact mutexesGuarded_sendHandlerStep hGuarded hStep
      | recvHandler =>
          exact mutexesGuarded_recvHandlerStep hGuarded hStep
      | timeoutHandler =>
          have hKeeps := timeoutHandlerStep_keeps hStep
          have hOwners := owners_timeoutHandlerStep hStep
          apply hGuarded.congr hOwners.1 hOwners.2 ?_
            hKeeps.sendPc hKeeps.recvPc
          rw [hKeeps.callerPc]
          exact fun hInside => hInside
  | timer =>
      rcases Option.map_eq_some_iff.mp hStep with
        ⟨timer, _, rfl⟩
      exact hGuarded.congr rfl rfl
        (fun hInside => hInside) rfl rfl
  | recv result =>
      exact mutexesGuarded_recvStep hGuarded hStep
  | tick duration =>
      rw [← Option.some.inj hStep]
      exact hGuarded.congr rfl rfl
        (fun hInside => hInside) rfl rfl
  | wakeCaller =>
      rw [← Option.some.inj hStep]
      exact hGuarded.congr rfl rfl
        (inState_of_wake (Or.inr rfl)) rfl rfl
  | wakeTimer =>
      rw [← Option.some.inj hStep]
      exact hGuarded.congr rfl rfl
        (fun hInside => hInside) rfl rfl

end Sender

end Nkurdt
