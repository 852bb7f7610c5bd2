import Nkurdt.Sender.Keeps

/-
  The pace of fast retransmission.

  In go-back-n the acknowledgements of the lower bound are
  counted from one slide of the window to the next. The
  counter of the program goes round once for every window
  size, or for every three if the window is smaller, and the
  window is queued whenever it passes the third value.

  Main declarations:
    * `Due`
    * `Paced`
    * `Paced.step`
    * `Sender.PaceMove`
    * `Paced.Pacing`
    * `Paced.pushed_of_reaches`
-/

------------------------------------------------------------
-- The Counter
------------------------------------------------------------

namespace Nkurdt

/-
  The acknowledgements of the lower bound, counted from the
  last slide, that queue a window of size `w`: the third and
  then every `max w 3`-th.
-/
def Due (w n : Nat) : Prop :=
  2 ≤ w ∧ 3 ≤ n ∧ (n - 3) % max w 3 = 0

instance (w n : Nat) : Decidable (Due w n) :=
  inferInstanceAs (Decidable (_ ∧ _ ∧ _))

/- `ack_dup_times` behind an acknowledgement. -/
def nextDupTimes (w dupTimes : Nat) : Nat :=
  if dupTimes = 0 then
    1
  else if dupTimes = 2 then
    3
  else if w ≤ dupTimes then
    1
  else
    dupTimes + 1

/- `ack_dup_times` behind the given number of them. -/
def dupTimes (w : Nat) : Nat → Nat
| 0 => 0
| count + 1 => nextDupTimes w (dupTimes w count)

/- The remainder goes up by one, or round. -/
theorem succ_mod_eq
    {m : Nat}
    (a : Nat)
    (hPos : 0 < m) :
    (a + 1) % m =
      if a % m + 1 = m then 0 else a % m + 1 := by
  have hLess := Nat.mod_lt a hPos
  rw [← Nat.mod_add_mod]
  split_ifs with hRound
  · rw [hRound, Nat.mod_self]
  · exact Nat.mod_eq_of_lt (by omega)

/- The counter in closed form. -/
theorem dupTimes_succ
    (w count : Nat) :
    dupTimes w (count + 1) =
      if w < 2 then 1 else count % max w 3 + 1 := by
  induction count with
  | zero => simp [dupTimes, nextDupTimes]
  | succ count ih =>
      have hRound :=
        succ_mod_eq count (by omega : 0 < max w 3)
      have hLess :=
        Nat.mod_lt count (by omega : 0 < max w 3)
      rw [dupTimes, ih]
      unfold nextDupTimes
      by_cases hSmall : w < 2
      · rw [if_pos hSmall, if_pos hSmall]
        split_ifs <;> omega
      · rw [if_neg hSmall, if_neg hSmall, hRound]
        generalize count % max w 3 = d at hLess ⊢
        grind

/- The third value is there when the next one is due. -/
theorem dupTimes_eq_two_iff
    (w count : Nat) :
    dupTimes w count = 2 ↔ Due w (count + 1) := by
  unfold Due
  match count with
  | 0 => simp [dupTimes]
  | 1 => simp [dupTimes_succ]
  | count + 2 =>
      have hRound :=
        succ_mod_eq count (by omega : 0 < max w 3)
      have hLess :=
        Nat.mod_lt count (by omega : 0 < max w 3)
      rw [dupTimes_succ, hRound]
      have hThree : count + 2 + 1 - 3 = count := by
        omega
      rw [hThree]
      generalize count % max w 3 = d at hLess ⊢
      split_ifs <;> omega

/- The numbers that are due, up to one more. -/
theorem due_succ
    (w count : Nat) :
    (List.range' 1 (count + 1)).filter (Due w) =
      (List.range' 1 count).filter (Due w) ++
        if Due w (count + 1) then [count + 1] else [] := by
  rw [List.range'_concat, List.filter_append]
  congr 1
  split_ifs with hDue
  · simpa [Nat.add_comm] using hDue
  · simpa [Nat.add_comm] using hDue

end Nkurdt

------------------------------------------------------------
-- Counted Runs
------------------------------------------------------------

namespace Nkurdt

/-
  A sender with the count of the acknowledgements of its
  lower bound since the last slide, those of them that have
  queued the window, and the bounds of the window that the
  branch of the fast retransmission has read last.
-/
structure Paced where
  sender : Sender
  count : Nat
  pushed : List Nat
  read : Nat × Nat

namespace Paced

def fresh (config : SenderConfig) : Paced :=
  ⟨.fresh config, 0, [], (0, 0)⟩

/- An acknowledgement is counted where it is compared. -/
def countAfter (p : Paced) : Sender.Action → Nat
| .thread .recvHandler =>
    match p.sender.recvPc with
    | .compare packet =>
        if p.sender.window.lowerBound = packet.seq then
          p.count + 1
        else
          p.count
    | .setLower _ => 0
    | _ => p.count
| _ => p.count

def pushedAfter (p : Paced) : Sender.Action → List Nat
| .thread .recvHandler =>
    match p.sender.recvPc with
    | .pushAll _ _ _ => p.pushed ++ [p.count]
    | .setLower _ => []
    | _ => p.pushed
| _ => p.pushed

def readAfter (p : Paced) : Sender.Action → Nat × Nat
| .thread .recvHandler =>
    match p.sender.recvPc with
    | .fastUpper _ _ => p.sender.window.window
    | _ => p.read
| _ => p.read

/- A step of the sender, counted. -/
def step
    (p : Paced)
    (action : Sender.Action) : Option Paced :=
  (p.sender.step action).map fun sender =>
    ⟨sender, p.countAfter action, p.pushedAfter action,
      p.readAfter action⟩

end Paced

namespace RecvPc

/- In front of `ack_dup_times += 1`. -/
def Counting : RecvPc → Prop
| .fastLower _ => True
| .fastUpper _ _ => True
| .lockQueue _ _ _ => True
| .pushAll _ _ _ => True
| .unlockQueue _ => True
| .countDup _ => True
| _ => False

/- The window is about to be queued. -/
def Queueing : RecvPc → Prop
| .fastLower _ => True
| .fastUpper _ _ => True
| .lockQueue _ _ _ => True
| .pushAll _ _ _ => True
| _ => False

instance (pc : RecvPc) : Decidable pc.Queueing := by
  unfold Queueing
  split <;> infer_instance

/- The lower bound that has been read. -/
def lower? : RecvPc → Option Nat
| .fastUpper _ lower => some lower
| .lockQueue _ lower _ => some lower
| .pushAll _ lower _ => some lower
| _ => none

/- The upper bound that has been read. -/
def upper? : RecvPc → Option Nat
| .lockQueue _ _ upper => some upper
| .pushAll _ _ upper => some upper
| _ => none

/- Outside the branch there is nothing to be queued. -/
theorem of_not_counting
    {pc : RecvPc}
    (hCounting : ¬ pc.Counting) :
    ¬ pc.Queueing ∧ pc.lower? = none ∧
      pc.upper? = none := by
  cases pc
  case fastLower | fastUpper | lockQueue | pushAll =>
    exact absurd trivial hCounting
  all_goals exact ⟨fun hQueueing => hQueueing, rfl, rfl⟩

end RecvPc

end Nkurdt

------------------------------------------------------------
-- Steps of the Receive Handler
------------------------------------------------------------

namespace Nkurdt

namespace Sender

/- What a step of `recv_handler` does for the pace. -/
inductive PaceMove (s s' : Sender) : Prop
| quiet
    (hBefore : ¬ s.recvPc.Counting)
    (hAfter : ¬ s'.recvPc.Counting)
    (hDup : s'.ackDupTimes = s.ackDupTimes)
    (hOther :
      ∀ packet, s.recvPc = .compare packet →
        s.window.lowerBound ≠ packet.seq)
    (hSet : ∀ packet, s.recvPc ≠ .setLower packet)
| compares
    (packet : Packet)
    (hPc : s.recvPc = .compare packet)
    (hEqual : s.window.lowerBound = packet.seq)
    (hNext : s' = s.duplicateStep packet)
| readsLower
    (packet : Packet)
    (hPc : s.recvPc = .fastLower packet)
    (hNext :
      s' =
        { s with
          recvPc :=
            .fastUpper packet s.window.lowerBound })
| readsUpper
    (packet : Packet)
    (lower : Nat)
    (hPc : s.recvPc = .fastUpper packet lower)
    (hNext :
      s' =
        { s with
          recvPc :=
            .lockQueue packet lower s.window.upperBound })
| locks
    (packet : Packet)
    (lower upper : Nat)
    (hPc : s.recvPc = .lockQueue packet lower upper)
    (hAfter : s'.recvPc = .pushAll packet lower upper)
    (hDup : s'.ackDupTimes = s.ackDupTimes)
    (hWindow : s'.window = s.window)
| pushes
    (packet : Packet)
    (lower upper : Nat)
    (hPc : s.recvPc = .pushAll packet lower upper)
    (hAfter : s'.recvPc = .unlockQueue packet)
    (hDup : s'.ackDupTimes = s.ackDupTimes)
| unlocks
    (packet : Packet)
    (hPc : s.recvPc = .unlockQueue packet)
    (hAfter : s'.recvPc = .countDup packet)
    (hDup : s'.ackDupTimes = s.ackDupTimes)
| counts
    (packet : Packet)
    (hPc : s.recvPc = .countDup packet)
    (hAfter : s'.recvPc = .eraseAck packet)
    (hDup : s'.ackDupTimes = s.ackDupTimes + 1)
| slides
    (packet : Packet)
    (hPc : s.recvPc = .setLower packet)
    (hAfter : s'.recvPc = .eraseAck packet)
    (hDup : s'.ackDupTimes = 0)

theorem paceMove_recvHandlerStep
    {s s' : Sender}
    (hStep : s.recvHandlerStep = some s') :
    PaceMove s s' := by
  cases recvHandlerStep_branch hStep with
  | @repeats packet _ hPc hEqual hDuplicate
  | @repeatsFast packet hPc hEqual hDuplicate =>
      exact .compares packet hPc hEqual hDuplicate.symm
  | differs hPc hOther =>
      refine .quiet ?_ (fun hCounting => hCounting) rfl ?_ ?_
      · rw [hPc]
        exact fun hCounting => hCounting
      · intro packet' hCompare
        rw [hPc] at hCompare
        cases hCompare
        exact hOther
      · intro packet' hSet
        rw [hPc] at hSet
        cases hSet
  | @readsLower packet hPc => exact .readsLower packet hPc rfl
  | @readsUpper packet lower hPc =>
      exact .readsUpper packet lower hPc rfl
  | @locksQueue packet lower upper hPc =>
      exact .locks packet lower upper hPc rfl rfl rfl
  | @pushes packet lower upper hPc =>
      exact .pushes packet lower upper hPc rfl rfl
  | @unlocksQueue packet hPc => exact .unlocks packet hPc rfl rfl
  | @counts packet hPc => exact .counts packet hPc rfl rfl
  | @setsLower packet hPc => exact .slides packet hPc rfl rfl
  | _ =>
      refine .quiet ?_ (fun hCounting => hCounting) rfl ?_ ?_
      all_goals simp_all [RecvPc.Counting]

end Sender

end Nkurdt

------------------------------------------------------------
-- The Invariant
------------------------------------------------------------

namespace Nkurdt

namespace Paced

open Runs Sender

/- The acknowledgements that have queued the window. -/
def DueUpTo (w count : Nat) : List Nat :=
  (List.range' 1 count).filter (Due w)

structure Pacing (w : Nat) (p : Paced) : Prop where
  goBackN : p.sender.selectiveRepeat = false
  fast : p.sender.fastRetransmit = true
  size : p.sender.window.maxWindowSize = w
  counting :
    p.sender.recvPc.Counting →
      p.sender.ackDupTimes + 1 = dupTimes w p.count
  resting :
    ¬ p.sender.recvPc.Counting →
      p.sender.ackDupTimes = dupTimes w p.count
  queueing :
    p.sender.recvPc.Queueing →
      p.pushed ++ [p.count] = DueUpTo w p.count
  queued :
    ¬ p.sender.recvPc.Queueing →
      p.pushed = DueUpTo w p.count
  lower :
    ∀ lower, p.sender.recvPc.lower? = some lower →
      lower = p.sender.window.lowerBound
  upper :
    ∀ upper, p.sender.recvPc.upper? = some upper →
      p.read = (p.sender.window.lowerBound, upper)

theorem pacing_fresh
    (config : SenderConfig)
    (hGoBackN : config.selectiveRepeat = false)
    (hFast : config.fastRetransmit = true) :
    Pacing config.maxWindowSize (fresh config) where
  goBackN := hGoBackN
  fast := hFast
  size := rfl
  counting := fun hCounting => hCounting.elim
  resting := fun _ => rfl
  queueing := fun hQueueing => hQueueing.elim
  queued := fun _ => rfl
  lower := fun _ hLower => by cases hLower
  upper := fun _ hUpper => by cases hUpper

/- A step that leaves the counter and the branch alone. -/
theorem Pacing.congr
    {w : Nat}
    {p : Paced}
    {s' : Sender}
    (hPacing : Pacing w p)
    (hConfig : SameConfig p.sender s')
    (hLower :
      s'.window.lowerBound = p.sender.window.lowerBound)
    (hDup : s'.ackDupTimes = p.sender.ackDupTimes)
    (hPc : s'.recvPc = p.sender.recvPc) :
    Pacing w { p with sender := s' } where
  goBackN := hConfig.selectiveRepeat.trans hPacing.goBackN
  fast := hConfig.fastRetransmit.trans hPacing.fast
  size := hConfig.maxWindowSize.trans hPacing.size
  counting := by
    dsimp only
    rw [hPc, hDup]
    exact hPacing.counting
  resting := by
    dsimp only
    rw [hPc, hDup]
    exact hPacing.resting
  queueing := by
    dsimp only
    rw [hPc]
    exact hPacing.queueing
  queued := by
    dsimp only
    rw [hPc]
    exact hPacing.queued
  lower := by
    dsimp only
    rw [hPc, hLower]
    exact hPacing.lower
  upper := by
    dsimp only
    rw [hPc, hLower]
    exact hPacing.upper

/- A step behind which the branch is not entered. -/
theorem Pacing.rest
    {w : Nat}
    {p p' : Paced}
    (hPacing : Pacing w p)
    (hConfig : SameConfig p.sender p'.sender)
    (hAfter : ¬ p'.sender.recvPc.Counting)
    (hDup : p'.sender.ackDupTimes = dupTimes w p'.count)
    (hPushed : p'.pushed = DueUpTo w p'.count) :
    Pacing w p' := by
  obtain ⟨hQueueing, hLower, hUpper⟩ :=
    RecvPc.of_not_counting hAfter
  exact
    { goBackN :=
        hConfig.selectiveRepeat.trans hPacing.goBackN
      fast := hConfig.fastRetransmit.trans hPacing.fast
      size := hConfig.maxWindowSize.trans hPacing.size
      counting := fun hCounting => absurd hCounting hAfter
      resting := fun _ => hDup
      queueing := fun hNow => absurd hNow hQueueing
      queued := fun _ => hPushed
      lower := fun _ hSome => by
        rw [hLower] at hSome
        cases hSome
      upper := fun _ hSome => by
        rw [hUpper] at hSome
        cases hSome }

/- A step inside the branch, up to the counting. -/
theorem Pacing.inside
    {w : Nat}
    {p : Paced}
    {s' : Sender}
    {pushed : List Nat}
    {read : Nat × Nat}
    (hPacing : Pacing w p)
    (hConfig : SameConfig p.sender s')
    (hBefore : p.sender.recvPc.Counting)
    (hAfter : s'.recvPc.Counting)
    (hDup : s'.ackDupTimes = p.sender.ackDupTimes)
    (hQueueing :
      s'.recvPc.Queueing →
        pushed ++ [p.count] = DueUpTo w p.count)
    (hQueued :
      ¬ s'.recvPc.Queueing → pushed = DueUpTo w p.count)
    (hLower :
      ∀ lower, s'.recvPc.lower? = some lower →
        lower = s'.window.lowerBound)
    (hUpper :
      ∀ upper, s'.recvPc.upper? = some upper →
        read = (s'.window.lowerBound, upper)) :
    Pacing w ⟨s', p.count, pushed, read⟩ where
  goBackN := hConfig.selectiveRepeat.trans hPacing.goBackN
  fast := hConfig.fastRetransmit.trans hPacing.fast
  size := hConfig.maxWindowSize.trans hPacing.size
  counting := by
    dsimp only
    rw [hDup]
    exact fun _ => hPacing.counting hBefore
  resting := fun hResting => absurd hAfter hResting
  queueing := hQueueing
  queued := hQueued
  lower := hLower
  upper := hUpper

theorem dueUpTo_succ
    (w count : Nat) :
    DueUpTo w (count + 1) =
      DueUpTo w count ++
        if Due w (count + 1) then [count + 1] else [] :=
  due_succ w count

/- Another acknowledgement of the lower bound. -/
theorem pacing_compares
    {w : Nat}
    {p : Paced}
    {packet : Packet}
    (hPacing : Pacing w p)
    (hPc : p.sender.recvPc = .compare packet) :
    Pacing w
      ⟨p.sender.duplicateStep packet, p.count + 1,
        p.pushed, p.read⟩ := by
  have hDup := hPacing.resting (by rw [hPc]; exact id)
  have hPushed := hPacing.queued (by rw [hPc]; exact id)
  have hTwo := dupTimes_eq_two_iff w p.count
  rw [← hDup] at hTwo
  have hSucc :
      dupTimes w (p.count + 1) =
        nextDupTimes w p.sender.ackDupTimes := by
    rw [hDup]
    rfl
  have hNext := dueUpTo_succ w p.count
  -- Neither of the two ways round queues the window.
  have hCounts :
      ∀ d, d + 1 = dupTimes w (p.count + 1) →
        p.sender.ackDupTimes ≠ 2 →
          Pacing w
            ⟨{ p.sender with
                ackDupTimes := d
                recvPc := .countDup packet },
              p.count + 1, p.pushed, p.read⟩ := by
    intro d hCount hNot
    rw [if_neg (fun hDue => hNot (hTwo.mpr hDue)),
      List.append_nil] at hNext
    exact
      { goBackN := hPacing.goBackN
        fast := hPacing.fast
        size := hPacing.size
        counting := fun _ => hCount
        resting := fun hResting => absurd trivial hResting
        queueing := fun hQueueing => hQueueing.elim
        queued := fun _ => hPushed.trans hNext.symm
        lower := fun _ hLower => by cases hLower
        upper := fun _ hUpper => by cases hUpper }
  unfold duplicateStep
  unfold nextDupTimes at hSucc
  by_cases hZero : p.sender.ackDupTimes = 0
  · rw [if_pos hZero]
    rw [if_pos hZero] at hSucc
    exact hCounts _ (by omega) (by omega)
  rw [if_neg hZero]
  rw [if_neg hZero] at hSucc
  by_cases hThird : p.sender.ackDupTimes = 2
  · rw [if_pos hThird, if_pos hPacing.fast]
    rw [if_pos hThird] at hSucc
    rw [if_pos (hTwo.mp hThird), ← hPushed] at hNext
    exact
      { goBackN := hPacing.goBackN
        fast := hPacing.fast
        size := hPacing.size
        counting := fun _ => by
          dsimp only
          omega
        resting := fun hResting => absurd trivial hResting
        queueing := fun _ => hNext.symm
        queued := fun hQueued => absurd trivial hQueued
        lower := fun _ hLower => by cases hLower
        upper := fun _ hUpper => by cases hUpper }
  · rw [if_neg hThird, hPacing.size]
    rw [if_neg hThird] at hSucc
    apply hCounts _ ?_ hThird
    rw [hSucc]
    split_ifs <;> rfl

theorem pacing_recvHandlerStep
    {w : Nat}
    {p p' : Paced}
    (hPacing : Pacing w p)
    (hStep : p.step (.thread .recvHandler) = some p') :
    Pacing w p' := by
  rcases Option.map_eq_some_iff.mp hStep with
    ⟨s', hSender, rfl⟩
  have hConfig := sameConfig_step hSender
  unfold countAfter pushedAfter readAfter
  cases paceMove_recvHandlerStep hSender with
  | quiet hBefore hAfter hDup hOther hSet =>
      have hOld := hPacing.resting hBefore
      have hNone := RecvPc.of_not_counting hBefore
      have hPushed := hPacing.queued hNone.1
      refine hPacing.rest hConfig hAfter ?_ ?_
      · dsimp only
        rw [hDup, hOld]
        cases hPc : p.sender.recvPc
        case compare packet =>
          dsimp only
          rw [if_neg (hOther packet hPc)]
        case setLower packet => exact absurd hPc (hSet packet)
        all_goals rfl
      · dsimp only
        rw [hPushed]
        cases hPc : p.sender.recvPc
        case compare packet =>
          dsimp only
          rw [if_neg (hOther packet hPc)]
        case setLower packet => exact absurd hPc (hSet packet)
        case pushAll packet lower upper =>
          rw [hPc] at hBefore
          exact absurd trivial hBefore
        all_goals rfl
  | compares packet hPc hEqual hNext =>
      subst hNext
      rw [hPc]
      dsimp only
      rw [if_pos hEqual]
      exact pacing_compares hPacing hPc
  | readsLower packet hPc hNext =>
      subst hNext
      have hQueue := hPacing.queueing (by rw [hPc]; trivial)
      rw [hPc]
      exact hPacing.inside hConfig (by rw [hPc]; trivial)
        trivial rfl (fun _ => hQueue)
        (fun hQueued => absurd trivial hQueued)
        (fun _ hLower => (Option.some.inj hLower).symm)
        (fun _ hUpper => by cases hUpper)
  | readsUpper packet lower hPc hNext =>
      subst hNext
      have hQueue := hPacing.queueing (by rw [hPc]; trivial)
      have hOld := hPacing.lower lower (by rw [hPc]; rfl)
      rw [hPc]
      exact hPacing.inside hConfig (by rw [hPc]; trivial)
        trivial rfl (fun _ => hQueue)
        (fun hQueued => absurd trivial hQueued)
        (fun _ hLower =>
          (Option.some.inj hLower).symm.trans hOld)
        (fun _ hUpper => by cases hUpper; rfl)
  | locks packet lower upper hPc hAfter hDup hWindow =>
      have hQueue := hPacing.queueing (by rw [hPc]; trivial)
      have hOld := hPacing.lower lower (by rw [hPc]; rfl)
      have hRead := hPacing.upper upper (by rw [hPc]; rfl)
      rw [hPc]
      refine hPacing.inside hConfig (by rw [hPc]; trivial)
        (by rw [hAfter]; trivial) hDup (fun _ => hQueue)
        ?_ ?_ ?_
      · rw [hAfter]
        exact fun hQueued => absurd trivial hQueued
      · rw [hAfter, hWindow]
        exact fun _ hLower =>
          (Option.some.inj hLower).symm.trans hOld
      · rw [hAfter, hWindow]
        intro upper' hUpper
        cases hUpper
        exact hRead
  | pushes packet lower upper hPc hAfter hDup =>
      have hQueue := hPacing.queueing (by rw [hPc]; trivial)
      rw [hPc]
      refine hPacing.inside hConfig (by rw [hPc]; trivial)
        (by rw [hAfter]; trivial) hDup ?_ (fun _ => hQueue)
        ?_ ?_
      · rw [hAfter]
        exact fun hQueueing => hQueueing.elim
      · rw [hAfter]
        exact fun _ hLower => by cases hLower
      · rw [hAfter]
        exact fun _ hUpper => by cases hUpper
  | unlocks packet hPc hAfter hDup =>
      have hQueued := hPacing.queued (by rw [hPc]; exact id)
      rw [hPc]
      refine hPacing.inside hConfig (by rw [hPc]; trivial)
        (by rw [hAfter]; trivial) hDup ?_ (fun _ => hQueued)
        ?_ ?_
      · rw [hAfter]
        exact fun hQueueing => hQueueing.elim
      · rw [hAfter]
        exact fun _ hLower => by cases hLower
      · rw [hAfter]
        exact fun _ hUpper => by cases hUpper
  | counts packet hPc hAfter hDup =>
      have hCount := hPacing.counting (by rw [hPc]; trivial)
      have hQueued := hPacing.queued (by rw [hPc]; exact id)
      rw [hPc]
      refine hPacing.rest hConfig ?_ (hDup.trans hCount)
        hQueued
      dsimp only
      rw [hAfter]
      exact id
  | slides packet hPc hAfter hDup =>
      rw [hPc]
      refine hPacing.rest hConfig ?_ hDup rfl
      dsimp only
      rw [hAfter]
      exact id

/- No other step counts anything. -/
theorem ackDupTimes_of_other
    {s s' : Sender}
    {action : Sender.Action}
    (hStep : s.step action = some s')
    (hOther : action ≠ .thread .recvHandler) :
    s'.ackDupTimes = s.ackDupTimes := by
  cases action with
  | call call => exact (callStep_keeps hStep).ackDupTimes
  | thread thread =>
      cases thread with
      | caller => exact (callerStep_keeps hStep).ackDupTimes
      | sendHandler =>
          exact (sendHandlerStep_keeps hStep).ackDupTimes
      | recvHandler => exact absurd rfl hOther
      | timeoutHandler =>
          change s.timeoutHandlerStep = some s' at hStep
          unfold timeoutHandlerStep at hStep
          cases hPc : s.timeoutPc
          all_goals
            simp only [hPc, whenFree_eq_some,
              whenTimerFree_eq_some, Option.some.injEq,
              reduceCtorEq] at hStep
          all_goals first
            | subst hStep
            | rcases hStep with ⟨_, rfl⟩
          all_goals rfl
  | timer =>
      rcases Option.map_eq_some_iff.mp hStep with
        ⟨timer, _, rfl⟩
      rfl
  | recv result => exact (recvStep_keeps hStep).ackDupTimes
  | tick duration =>
      rw [← Option.some.inj hStep]
  | wakeCaller =>
      rw [← Option.some.inj hStep]
      rfl
  | wakeTimer =>
      rw [← Option.some.inj hStep]

theorem pacing_step
    {w : Nat}
    {p p' : Paced}
    {action : Sender.Action}
    (hPacing : Pacing w p)
    (hStep : p.step action = some p') :
    Pacing w p' := by
  by_cases hRecv : action = .thread .recvHandler
  · subst hRecv
    exact pacing_recvHandlerStep hPacing hStep
  rcases Option.map_eq_some_iff.mp hStep with
    ⟨s', hSender, rfl⟩
  have hSame :
      p.countAfter action = p.count ∧
        p.pushedAfter action = p.pushed ∧
        p.readAfter action = p.read := by
    cases action
    case thread thread =>
      cases thread
      case recvHandler => exact absurd rfl hRecv
      all_goals exact ⟨rfl, rfl, rfl⟩
    all_goals exact ⟨rfl, rfl, rfl⟩
  rw [hSame.1, hSame.2.1, hSame.2.2]
  have hConfig := sameConfig_step hSender
  have hDup := ackDupTimes_of_other hSender hRecv
  have hKeeps := step_keeps hSender hRecv
  rcases hKeeps.recvPc with hPc | ⟨hOld, hNext⟩
  · exact hPacing.congr hConfig hKeeps.lowerBound hDup hPc
  · have hBefore : ¬ p.sender.recvPc.Counting := by
      rw [hOld]
      exact id
    refine hPacing.rest hConfig ?_
      (hDup.trans (hPacing.resting hBefore))
      (hPacing.queued (RecvPc.of_not_counting hBefore).1)
    dsimp only
    rcases hNext with ⟨bytes, hDecode⟩ | hTest
    · rw [hDecode]
      exact id
    · rw [hTest]
      exact id

theorem pacing_of_reaches
    {config : SenderConfig}
    {p : Paced}
    (hGoBackN : config.selectiveRepeat = false)
    (hFast : config.fastRetransmit = true)
    (hReaches :
      Reaches step (fun _ _ _ => True) (fresh config) p) :
    Pacing config.maxWindowSize p :=
  hReaches.invariant (pacing_fresh config hGoBackN hFast)
    (fun _ _ _ hPacing hStep _ => pacing_step hPacing hStep)

/- A window of one number is never due. -/
theorem dueUpTo_of_lt_two
    {w : Nat}
    (hSmall : w < 2)
    (count : Nat) :
    DueUpTo w count = [] := by
  unfold DueUpTo
  rw [List.filter_eq_nil_iff]
  intro n _ hDue
  have hLarge := (of_decide_eq_true hDue).1
  omega

/-
  A step that queues the window at an acknowledgement that is
  due: the numbers from the lower bound up to the upper bound
  that the branch has read.
-/
structure QueuesWindow
    (w : Nat)
    (p p' : Paced)
    (lower upper : Nat) : Prop where
  due : Due w p.count
  pushed : p'.pushed = DueUpTo w p.count
  lowerBound : lower = p.sender.window.lowerBound
  read : p.read = (lower, upper)
  members :
    ∀ n,
      n ∈ p'.sender.pendingQueue ↔
        n ∈ p.sender.pendingQueue ∨ lower ≤ n ∧ n < upper

theorem Pacing.queuesWindow
    {w lower upper : Nat}
    {p p' : Paced}
    {packet : Packet}
    (hPacing : Pacing w p)
    (hPc : p.sender.recvPc = .pushAll packet lower upper)
    (hStep : p.step (.thread .recvHandler) = some p') :
    QueuesWindow w p p' lower upper := by
  have hQueue := hPacing.queueing (by rw [hPc]; trivial)
  have hLower := hPacing.lower lower (by rw [hPc]; rfl)
  have hRead := hPacing.upper upper (by rw [hPc]; rfl)
  rcases Option.map_eq_some_iff.mp hStep with
    ⟨s', hSender, rfl⟩
  have hDue : p.count ∈ DueUpTo w p.count := by
    rw [← hQueue]
    exact List.mem_append_right p.pushed
      (List.mem_singleton.mpr rfl)
  refine
    ⟨of_decide_eq_true (List.mem_filter.mp hDue).2, ?_,
      hLower, ?_, ?_⟩
  · unfold pushedAfter
    rw [hPc]
    exact hQueue
  · rw [hRead, hLower]
  · intro n
    change p.sender.recvHandlerStep = some s' at hSender
    unfold recvHandlerStep at hSender
    rw [hPc] at hSender
    cases hSender
    dsimp only
    have hRange :
        lower ≤ n ∧ n < lower + (upper - lower) ↔
          lower ≤ n ∧ n < upper := by
      omega
    rw [ConcurrentQueue.mem_pushAll, List.mem_range'_1,
      hRange]

/-
  In every run of a go-back-n sender with fast retransmission
  the window has been queued at those acknowledgements of the
  lower bound that are due, and at no other.
-/
theorem pushed_of_reaches
    {config : SenderConfig}
    {p : Paced}
    (hGoBackN : config.selectiveRepeat = false)
    (hFast : config.fastRetransmit = true)
    (hReaches :
      Reaches step (fun _ _ _ => True) (fresh config) p) :
    (¬ p.sender.recvPc.Queueing →
      p.pushed = DueUpTo config.maxWindowSize p.count) ∧
    (config.maxWindowSize < 2 → p.pushed = []) ∧
    (∀ packet lower upper p',
      p.sender.recvPc = .pushAll packet lower upper →
      p.step (.thread .recvHandler) = some p' →
      QueuesWindow config.maxWindowSize p p' lower upper) ∧
    (∀ p',
      (∀ packet lower upper,
        p.sender.recvPc ≠ .pushAll packet lower upper) →
      p.step (.thread .recvHandler) = some p' →
      p'.sender.pendingQueue = p.sender.pendingQueue) := by
  have hPacing := pacing_of_reaches hGoBackN hFast hReaches
  refine ⟨hPacing.queued, ?_, ?_, ?_⟩
  · intro hSmall
    by_cases hQueueing : p.sender.recvPc.Queueing
    · have hQueue := hPacing.queueing hQueueing
      rw [dueUpTo_of_lt_two hSmall] at hQueue
      exact absurd hQueue (by simp)
    · rw [hPacing.queued hQueueing]
      exact dueUpTo_of_lt_two hSmall p.count
  · intro packet lower upper p' hPc hStep
    exact hPacing.queuesWindow hPc hStep
  · intro p' hOther hStep
    rcases Option.map_eq_some_iff.mp hStep with
      ⟨s', hSender, rfl⟩
    exact pendingQueue_recvHandlerStep hSender hOther

/- An acknowledgement of the number 0 and what it does. -/
def takesAck (count : Nat) : List Sender.Action :=
  steps .recvHandler 1 ++
    [.recv (.datagram
      (Packet.toBytes ⟨version, .dataAck, 0, []⟩)
      ⟨0, 1⟩)] ++
    steps .recvHandler count

/-
  Three acknowledgements of the lower bound for a window of
  two: the window is queued at the third.
-/
theorem pushed_of_reaches_third :
    ∃ p,
      Reaches step (fun _ _ _ => True)
        (fresh ⟨2, 0, 1, false, true⟩) p ∧
      p.count = 3 ∧
      p.pushed = [3] := by
  have hRun :
      ∃ p,
        Reaches step (fun _ _ _ => True)
          (fresh ⟨2, 0, 1, false, true⟩) p ∧
        ¬ p.sender.recvPc.Queueing ∧
        p.count = 3 :=
    exists_reaches_of_runActions
      ([.call (.connect ⟨0, 1⟩)] ++ steps .caller 10 ++
        takesAck 8 ++ takesAck 8 ++ takesAck 10)
      (by decide +kernel)
  obtain ⟨p, hReaches, hPc, hCount⟩ := hRun
  have hPushed :=
    (pushed_of_reaches rfl rfl hReaches).1 hPc
  rw [hCount] at hPushed
  exact ⟨p, hReaches, hCount, hPushed.trans (by decide)⟩

end Paced

end Nkurdt
