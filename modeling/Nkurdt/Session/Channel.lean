import Nkurdt.Library.Channel
import Nkurdt.Session.Delivery

/-
  A session implements a channel.

  What the channel holds are the packets that `send_packet`
  has built and the receiver has not yet written. A packet
  goes in when it is built and comes out when the receiver
  slides past it. The channel keeps the order, and it never
  holds more than the sender's `max_window_size`.

  Main declarations:
    * `Session.channel`
    * `Session.shows`
    * `Session.channel_step`
    * `Session.implements_channel`
-/

------------------------------------------------------------
-- The Abstraction
------------------------------------------------------------

namespace Nkurdt

namespace Session

open Channel
open Sender

/- The packets that are built and not yet written. -/
def channel (x : Session) : List Packet :=
  x.sender.history.packets.drop x.receiver.window.1

/-
  What a step shows: the packets that the receiver has slid
  past, and the one that the sender has built.
-/
def shows (x x' : Session) : List (Label Packet) :=
  ((x'.sender.history.packets.take
      x'.receiver.window.1).drop
      x.receiver.window.1).map .deliver ++
    (x'.sender.history.packets.drop
      x.sender.history.packets.length).map .accept

/- An iteration of the receiver slides its window up. -/
theorem lower_receive
    {x : Session}
    {result : RecvResult}
    (hSustained : Sustained x)
    (hConnected :
      Connected x (.receive result)
        { x with receiver := x.receiver.recvStep result }) :
    x.receiver.window.1 ≤
      (x.receiver.recvStep result).window.1 := by
  have hJoined := hSustained.joined
  rcases recvStep_of_carries hJoined.originals
      hConnected.delivers with
    hSame | ⟨packet, addr, hBuilt, hLooping, hNext⟩
  · rw [hSame]
  · have hUndisturbed := hConnected.toUndisturbed
    rw [hNext] at hUndisturbed ⊢
    refine (served_onPacket addr hJoined hBuilt hLooping
      hUndisturbed.room ?_).2
    intro hState
    left
    apply state_onPacket_ne_idle addr
      (hJoined.originals.inRange hBuilt).2 ?_ hState
    exact hSustained.never.kinds packet
      (List.mem_of_getElem? hBuilt)

end Session

end Nkurdt

------------------------------------------------------------
-- Steps
------------------------------------------------------------

namespace Nkurdt

namespace Session

open Channel
open Sender

/- The invariant, with the window size that is configured. -/
structure Sized
    (config : SenderConfig)
    (x : Session) : Prop where
  sustained : Sustained x
  size :
    x.sender.window.maxWindowSize = config.maxWindowSize

theorem sized_fresh
    (config : SenderConfig)
    {w : Nat}
    (hSize : 1 ≤ w) :
    Sized config (fresh config w) where
  sustained :=
    ⟨joined_fresh config hSize,
      neverDisconnects_fresh config⟩
  size := rfl

/- The packets that have gone in. -/
def built (x : Session) : List Packet :=
  x.sender.history.packets

/- The sender builds a packet, or shows nothing. -/
theorem channel_senderStep
    {config : SenderConfig}
    {x : Session}
    {s' : Sender}
    {action : Sender.Action}
    (hSized : Sized config x)
    (hStep : x.sender.step action = some s')
    (hNext : Sized config { x with sender := s' }) :
    Implements config.maxWindowSize channel built shows x
      { x with sender := s' } := by
  have hJoined := hSized.sustained.joined
  have hJoined' := hNext.sustained.joined
  have hFirst := hJoined.first_le
  rw [← hJoined.originals.length] at hFirst
  have hTaken :
      ((s'.history.packets.take x.receiver.window.1).drop
        x.receiver.window.1) = [] := by
    rw [List.drop_eq_nil_iff]
    exact List.length_take_le _ _
  have hShows :
      x.shows { x with sender := s' } =
        (s'.history.packets.drop
          x.sender.history.packets.length).map .accept := by
    unfold shows
    dsimp only
    rw [hTaken, List.map_nil, List.nil_append]
  rcases packets_step hStep with hSame | ⟨packet, hNew⟩
  · rw [hSame, List.drop_length] at hShows
    refine ⟨?_, ?_⟩
    · rw [hShows]
      unfold channel
      dsimp only
      rw [hSame]
      exact .nil _
    · rw [hShows]
      unfold built
      dsimp only
      rw [hSame]
      exact (List.append_nil _).symm
  · have hLength := hJoined'.originals.length
    have hWindow := hJoined'.windowed.size
    have hBehind := hJoined'.behind
    have hSize := hNext.size
    dsimp only at hLength hWindow hBehind hSize
    rw [hNew, List.length_append, List.length_singleton]
      at hLength
    have hRoom :
        (x.sender.history.packets.drop
          x.receiver.window.1).length <
            config.maxWindowSize := by
      rw [List.length_drop]
      omega
    rw [hNew, List.drop_left] at hShows
    refine ⟨?_, ?_⟩
    · rw [hShows]
      unfold channel
      dsimp only
      rw [hNew, List.drop_append_of_le_length hFirst]
      exact .cons (.accept packet hRoom) (.nil _)
    · rw [hShows]
      exact hNew

/- The receiver delivers what it slides past. -/
theorem channel_receive
    {config : SenderConfig}
    {x : Session}
    {r' : Receiver}
    (hLower : x.receiver.window.1 ≤ r'.window.1) :
    Implements config.maxWindowSize channel built shows x
      { x with receiver := r' } := by
  have hSplit :
      x.channel =
        (x.sender.history.packets.take r'.window.1).drop
            x.receiver.window.1 ++
          channel { x with receiver := r' } := by
    have hRest :
        channel { x with receiver := r' } =
          x.channel.drop
            (r'.window.1 - x.receiver.window.1) := by
      unfold channel
      dsimp only
      rw [List.drop_drop, Nat.add_sub_of_le hLower]
    rw [hRest, List.drop_take]
    exact (List.take_append_drop _ _).symm
  have hShows :
      x.shows { x with receiver := r' } =
        ((x.sender.history.packets.take r'.window.1).drop
          x.receiver.window.1).map .deliver := by
    unfold shows
    dsimp only
    rw [List.drop_length, List.map_nil, List.append_nil]
  refine ⟨?_, ?_⟩
  · rw [hShows, hSplit]
    exact Run.deliver_all _ _
  · rw [hShows, accepted_map_deliver]
    exact (List.append_nil _).symm

/- The step lemma of the simulation. -/
theorem channel_step
    {config : SenderConfig}
    {x x' : Session}
    {action : Action}
    (hSized : Sized config x)
    (hStep : x.step action = some x')
    (hConnected : Connected x action x') :
    Sized config x' ∧
      Implements config.maxWindowSize channel built shows x
        x' := by
  have hSustained :=
    sustained_step hSized.sustained hStep hConnected
  cases action with
  | sender action =>
      rcases Option.map_eq_some_iff.mp hStep with
        ⟨s', hSender, rfl⟩
      have hNext : Sized config { x with sender := s' } :=
        ⟨hSustained,
          (sameConfig_step hSender).maxWindowSize.trans
            hSized.size⟩
      exact ⟨hNext, channel_senderStep hSized hSender hNext⟩
  | receive result =>
      cases hStep
      exact ⟨⟨hSustained, hSized.size⟩,
        channel_receive
          (lower_receive hSized.sustained hConnected)⟩

end Session

end Nkurdt

------------------------------------------------------------
-- The Refinement
------------------------------------------------------------

namespace Nkurdt

namespace Session

open Channel
open Sender
open Runs

/-
  What a connected session shows is a run of a channel that
  keeps the order and holds at most `max_window_size` of the
  sender. What goes in are the packets that `send_packet`
  builds, what comes out are those whose payloads have been
  written, and the channel holds the rest.
-/
theorem implements_channel
    {config : SenderConfig}
    {w : Nat}
    {x : Session}
    {actions : List Action}
    (hSize : 1 ≤ w)
    (hRun :
      runActions step Connected (fresh config w) actions =
        some x) :
    let labels := shown step shows (fresh config w) actions
    Run config.maxWindowSize [] labels x.channel ∧
      x.channel.length ≤ config.maxWindowSize ∧
      accepted labels = x.sender.history.packets ∧
      delivered labels ++ x.channel = accepted labels ∧
      Event.written x.receiver.trace =
        (delivered labels).flatMap Packet.payload := by
  intro labels
  have hSimulated :
      Sized config x ∧
        Run config.maxWindowSize (fresh config w).channel
          labels x.channel ∧
        x.built = (fresh config w).built ++ accepted labels :=
    run_of_simulation (sized_fresh config hSize) hRun
      (fun _ _ _ hCurrent hNext hAllowed =>
        channel_step hCurrent hNext hAllowed)
  rcases hSimulated with ⟨hSized, hChannel, hEntered⟩
  have hConserved := hChannel.conserved
  have hBuilt :
      accepted labels = x.sender.history.packets :=
    hEntered.symm
  have hDelivered :
      delivered labels =
        x.sender.history.packets.take
          x.receiver.window.1 := by
    have hHere :
        delivered labels ++ x.channel =
          x.sender.history.packets :=
      hConserved.symm.trans hBuilt
    have hSplit :=
      (List.take_append_drop x.receiver.window.1
        x.sender.history.packets).symm
    exact List.append_cancel_right (hHere.trans hSplit)
  refine ⟨hChannel, hChannel.bounded (Nat.zero_le _), hBuilt,
    hConserved.symm, ?_⟩
  rw [hDelivered]
  exact hSized.sustained.joined.written_eq_take

/- A stream goes through a channel with room for one packet. -/
theorem implements_channel_sent :
    ∃ x,
      runActions step Connected
          (fresh ⟨1, 0, 1, false, false⟩ 1)
          (connecting ++ sending) = some x ∧
      Event.written x.receiver.trace = [1, 2, 3] ∧
      Run 1 []
        (shown step shows (fresh ⟨1, 0, 1, false, false⟩ 1)
          (connecting ++ sending)) x.channel := by
  have hRun :
      (runActions step Connected
          (fresh ⟨1, 0, 1, false, false⟩ 1)
          (connecting ++ sending)).any
        (fun x =>
          decide
            (Event.written x.receiver.trace = [1, 2, 3])) =
        true := by
    decide +kernel
  rcases (Option.any_eq_true _ _).mp hRun with
    ⟨x, hSome, hWritten⟩
  exact ⟨x, hSome, of_decide_eq_true hWritten,
    (implements_channel (by decide) hSome).1⟩

end Session

end Nkurdt
