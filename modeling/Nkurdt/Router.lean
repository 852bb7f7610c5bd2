import Nkurdt.Packet.Socket
import Mathlib

/-
  The router that loses and delays packets.

  It stands between a client and the server at its remote
  address. Every datagram is handled to its end before the
  next one is read, so a delay keeps the order; a draw of
  the loss probability, and a socket that raises, drop it.
  The datagrams it has passed on are kept in order.

  Main declarations:
    * `Router`
    * `Router.iterate`
    * `Router.Relays`
    * `Router.relays_iterate`
    * `Router.relays_run`
-/

------------------------------------------------------------
-- The Loop of the Router
------------------------------------------------------------

namespace Nkurdt

/-
  The options that the loop reads. The remote is given as
  the numeric address that `recvfrom` reports of the server:
  the loop compares the two.
-/
structure RouterArgs where
  remote : SocketAddr
  delayServer : Bool

/-
  What an iteration draws: whether the packet is lost, and
  whether `sendto` raises a socket error.
-/
structure Luck where
  lossPacket : Bool
  raises : Bool

structure Router where
  clientAddr : Option SocketAddr
  totalCount : Nat
  lossCount : Nat
  sent : List (List UInt8 × SocketAddr)
deriving DecidableEq

namespace Router

def main : Router :=
  ⟨none, 0, 0, []⟩

/- A socket error is caught and the loop goes on. -/
def sendto
    (r : Router)
    (luck : Luck)
    (data : List UInt8)
    (dest : SocketAddr) : Router :=
  if luck.raises then
    r
  else
    { r with sent := r.sent ++ [(data, dest)] }

/- A counted datagram is lost, or it is sent on. -/
def simulate
    (r : Router)
    (luck : Luck)
    (data : List UInt8)
    (dest : SocketAddr) : Router :=
  let counted := { r with totalCount := r.totalCount + 1 }
  if luck.lossPacket then
    { counted with lossCount := counted.lossCount + 1 }
  else
    counted.sendto luck data dest

/- The first address that is not the server's is kept. -/
def meet (r : Router) (addr : SocketAddr) : Router :=
  { r with clientAddr := some (r.clientAddr.getD addr) }

def iterate
    (args : RouterArgs)
    (r : Router)
    (result : RecvResult)
    (luck : Luck) : Router :=
  match result with
  | .error _ => r
  | .datagram data addr =>
      if addr ≠ args.remote then
        (r.meet addr).simulate luck data args.remote
      else
        match r.clientAddr with
        | none => r
        | some client =>
            if args.delayServer then
              r.simulate luck data client
            else
              r.sendto luck data client

/-
  The loop, up to the interrupt that stops it. The interrupt
  comes between two iterations: one that comes inside, as
  during a delay, would leave a datagram counted that is
  neither lost nor sent.
-/
def run
    (args : RouterArgs)
    (inputs : List (RecvResult × Luck)) : Router :=
  inputs.foldl
    (fun r input => r.iterate args input.1 input.2) main

/-
  The loss rate that is printed when the router is stopped.
  It divides by the number of packets.
-/
def lossRate (r : Router) : Option ℚ :=
  if r.totalCount = 0 then
    none
  else
    some (r.lossCount / r.totalCount)

end Router

end Nkurdt

------------------------------------------------------------
-- Two Directions
------------------------------------------------------------

namespace Nkurdt

namespace Router

/- What has come from clients, and from the server. -/
def fromClients
    (args : RouterArgs)
    (inputs : List (RecvResult × Luck)) :
    List (List UInt8) :=
  inputs.filterMap fun input =>
    match input.1 with
    | .error _ => none
    | .datagram data addr =>
        if addr ≠ args.remote then some data else none

def fromServer
    (args : RouterArgs)
    (inputs : List (RecvResult × Luck)) :
    List (List UInt8) :=
  inputs.filterMap fun input =>
    match input.1 with
    | .error _ => none
    | .datagram data addr =>
        if addr = args.remote then some data else none

/- What has gone to the server, and elsewhere. -/
def toServer
    (args : RouterArgs)
    (sent : List (List UInt8 × SocketAddr)) :
    List (List UInt8) :=
  (sent.filter (fun d => d.2 = args.remote)).map Prod.fst

def toClient
    (args : RouterArgs)
    (sent : List (List UInt8 × SocketAddr)) :
    List (List UInt8) :=
  (sent.filter (fun d => d.2 ≠ args.remote)).map Prod.fst

/- The source of the first datagram from a client. -/
def firstClient
    (args : RouterArgs)
    (inputs : List (RecvResult × Luck)) :
    Option SocketAddr :=
  inputs.findSome? fun input =>
    match input.1 with
    | .error _ => none
    | .datagram _ addr =>
        if addr ≠ args.remote then some addr else none

/-
  What the router has done with its inputs so far. In either
  direction it keeps the order and adds nothing, and it
  answers only the first client. Every packet it has lost or
  passed on to the server is counted.
-/
structure Relays
    (args : RouterArgs)
    (inputs : List (RecvResult × Luck))
    (r : Router) : Prop where
  server :
    (toServer args r.sent).Sublist (fromClients args inputs)
  client :
    (toClient args r.sent).Sublist (fromServer args inputs)
  known : r.clientAddr = firstClient args inputs
  dest :
    ∀ d ∈ r.sent, d.2 = args.remote ∨ d.2 ∈ r.clientAddr
  counted :
    r.lossCount + (toServer args r.sent).length ≤
      r.totalCount
  heard :
    (fromClients args inputs).length ≤ r.totalCount
  bounded :
    r.totalCount ≤
      (fromClients args inputs).length +
        (fromServer args inputs).length
  silent : r.clientAddr = none → r.totalCount = 0

theorem relays_main
    (args : RouterArgs) :
    Relays args [] main where
  server := .slnil
  client := .slnil
  known := rfl
  dest := fun _ hMember => by cases hMember
  counted := le_rfl
  heard := le_rfl
  bounded := le_rfl
  silent := fun _ => rfl

theorem toServer_append
    (args : RouterArgs)
    (sent kept : List (List UInt8 × SocketAddr)) :
    toServer args (sent ++ kept) =
      toServer args sent ++ toServer args kept := by
  simp [toServer]

theorem toClient_append
    (args : RouterArgs)
    (sent kept : List (List UInt8 × SocketAddr)) :
    toClient args (sent ++ kept) =
      toClient args sent ++ toClient args kept := by
  simp [toClient]

theorem toServer_sublist
    (args : RouterArgs)
    {sent kept : List (List UInt8 × SocketAddr)}
    (hKept : kept.Sublist sent) :
    (toServer args kept).Sublist (toServer args sent) :=
  (hKept.filter _).map _

theorem toClient_sublist
    (args : RouterArgs)
    {sent kept : List (List UInt8 × SocketAddr)}
    (hKept : kept.Sublist sent) :
    (toClient args kept).Sublist (toClient args sent) :=
  (hKept.filter _).map _

/- Without a datagram from a client there is none to answer. -/
theorem firstClient_eq_none
    {args : RouterArgs}
    {inputs : List (RecvResult × Luck)} :
    firstClient args inputs = none ↔
      fromClients args inputs = [] := by
  unfold firstClient fromClients
  rw [List.findSome?_eq_none_iff, List.filterMap_eq_nil_iff]
  refine forall₂_congr fun input _ => ?_
  rcases input.1 with value | ⟨data, addr⟩
  · simp
  · by_cases hAddr : addr = args.remote
    · simp [hAddr]
    · simp [hAddr]

/- A client is not the server. -/
theorem firstClient_ne_remote
    {args : RouterArgs}
    {inputs : List (RecvResult × Luck)}
    {addr : SocketAddr}
    (hClient : firstClient args inputs = some addr) :
    addr ≠ args.remote := by
  unfold firstClient at hClient
  rcases List.exists_of_findSome?_eq_some hClient with
    ⟨input, _, hInput⟩
  rcases hResult : input.1 with value | ⟨data, source⟩
  · simp [hResult] at hInput
  · rw [hResult] at hInput
    dsimp only at hInput
    split_ifs at hInput with hAddr
    cases hInput
    exact hAddr

end Router

end Nkurdt

------------------------------------------------------------
-- Iterations of the Router
------------------------------------------------------------

namespace Nkurdt

namespace Router

section Steps

variable {args : RouterArgs}
variable {inputs : List (RecvResult × Luck)}
variable {input : RecvResult × Luck}
variable {r r' : Router}

/- What one input adds. -/
theorem Relays.extend
    {kept : List (List UInt8 × SocketAddr)}
    (hRelays : Relays args inputs r)
    (hSent : r'.sent = r.sent ++ kept)
    (hServer :
      (toServer args kept).Sublist (fromClients args [input]))
    (hClient :
      (toClient args kept).Sublist (fromServer args [input]))
    (hKnown :
      r'.clientAddr =
        r.clientAddr.or (firstClient args [input]))
    (hDest :
      ∀ d ∈ kept, d.2 = args.remote ∨ d.2 ∈ r'.clientAddr)
    (hCounted :
      r'.lossCount + (toServer args kept).length +
          r.totalCount ≤
        r'.totalCount + r.lossCount)
    (hHeard :
      r.totalCount + (fromClients args [input]).length ≤
        r'.totalCount)
    (hBounded :
      r'.totalCount ≤
        r.totalCount + (fromClients args [input]).length +
          (fromServer args [input]).length)
    (hSilent :
      r'.clientAddr = none → r'.totalCount = r.totalCount) :
    Relays args (inputs ++ [input]) r' := by
  have hClients :
      fromClients args (inputs ++ [input]) =
        fromClients args inputs ++ fromClients args [input] :=
    List.filterMap_append
  have hServers :
      fromServer args (inputs ++ [input]) =
        fromServer args inputs ++ fromServer args [input] :=
    List.filterMap_append
  have hOldCounted := hRelays.counted
  have hOldHeard := hRelays.heard
  have hOldBounded := hRelays.bounded
  refine ⟨?_, ?_, ?_, ?_, ?_, ?_, ?_, ?_⟩
  · rw [hSent, hClients, toServer_append]
    exact hRelays.server.append hServer
  · rw [hSent, hServers, toClient_append]
    exact hRelays.client.append hClient
  · rw [hKnown, hRelays.known]
    exact List.findSome?_append.symm
  · intro d hMember
    rw [hSent, List.mem_append] at hMember
    rcases hMember with hOld | hNew
    · refine (hRelays.dest d hOld).imp_right ?_
      intro hAddr
      rw [hKnown, Option.mem_def.mp hAddr]
      rfl
    · exact hDest d hNew
  · rw [hSent, toServer_append, List.length_append]
    omega
  · rw [hClients, List.length_append]
    omega
  · rw [hClients, hServers, List.length_append,
      List.length_append]
    omega
  · intro hNone
    rw [hSilent hNone]
    rw [hKnown] at hNone
    exact hRelays.silent (Option.or_eq_none_iff.mp hNone).1

/- A datagram is passed on, or it is not. -/
theorem sendto_eq
    (r : Router)
    (luck : Luck)
    (data : List UInt8)
    (dest : SocketAddr) :
    ∃ kept : List (List UInt8 × SocketAddr),
      kept.Sublist [(data, dest)] ∧
        r.sendto luck data dest =
          { r with sent := r.sent ++ kept } := by
  unfold sendto
  split_ifs
  · exact ⟨[], List.nil_sublist _, by simp⟩
  · exact ⟨_, List.Sublist.refl _, rfl⟩

/- In either case a simulated one is counted once. -/
theorem simulate_eq
    (r : Router)
    (luck : Luck)
    (data : List UInt8)
    (dest : SocketAddr) :
    ∃ (lost : Nat) (kept : List (List UInt8 × SocketAddr)),
      kept.Sublist [(data, dest)] ∧
        lost + kept.length ≤ 1 ∧
        r.simulate luck data dest =
          { r with
            totalCount := r.totalCount + 1
            lossCount := r.lossCount + lost
            sent := r.sent ++ kept } := by
  unfold simulate
  dsimp only
  split_ifs
  · exact ⟨1, [], List.nil_sublist _, le_rfl, by simp⟩
  · rcases sendto_eq
        { r with totalCount := r.totalCount + 1 } luck data
        dest with ⟨kept, hKept, hStep⟩
    refine ⟨0, kept, hKept, ?_, hStep⟩
    have hLength := hKept.length_le
    simpa using hLength

/- A datagram of a client. -/
theorem relays_client
    {data : List UInt8}
    {addr : SocketAddr}
    (hRelays : Relays args inputs r)
    (luck : Luck)
    (hAddr : addr ≠ args.remote) :
    Relays args (inputs ++ [(.datagram data addr, luck)])
      ((r.meet addr).simulate luck data args.remote) := by
  rcases simulate_eq (r.meet addr) luck data args.remote with
    ⟨lost, kept, hKept, hOnce, hStep⟩
  have hServer := toServer_sublist args hKept
  have hClient := toClient_sublist args hKept
  have hLength :
      (toServer args kept).length ≤ kept.length := by
    unfold toServer
    rw [List.length_map]
    exact List.length_filter_le _ _
  rw [hStep]
  refine hRelays.extend rfl ?_ ?_ ?_ ?_ ?_ ?_ ?_ ?_
  · simpa [toServer, fromClients, hAddr] using hServer
  · simpa [toClient, fromServer, hAddr] using hClient
  · cases hKnown : r.clientAddr <;>
      simp [meet, firstClient, hAddr, hKnown]
  · intro d hMember
    have hSame := List.mem_singleton.mp (hKept.subset hMember)
    exact Or.inl (by rw [hSame])
  · dsimp only [meet]
    omega
  · simp [fromClients, hAddr]
    exact le_rfl
  · simp [fromClients, hAddr, meet]
  · intro hNone
    cases hNone

/- A datagram of the server. -/
theorem relays_server
    {data : List UInt8}
    {client : SocketAddr}
    (hRelays : Relays args inputs r)
    (luck : Luck)
    (hClient : r.clientAddr = some client) :
    Relays args (inputs ++ [(.datagram data args.remote, luck)])
      (if args.delayServer then
        r.simulate luck data client
      else
        r.sendto luck data client) := by
  have hForeign : client ≠ args.remote :=
    firstClient_ne_remote (hRelays.known ▸ hClient)
  have hNone :
      firstClient args [(.datagram data args.remote, luck)] =
        none := by
    simp [firstClient]
  have hAll :
      ∀ kept : List (List UInt8 × SocketAddr),
        kept.Sublist [(data, client)] →
          toServer args kept = [] ∧
            (toClient args kept).Sublist
              (fromServer args
                [(.datagram data args.remote, luck)]) ∧
            ∀ d ∈ kept,
              d.2 = args.remote ∨ d.2 ∈ r.clientAddr := by
    intro kept hKept
    have hServer := toServer_sublist args hKept
    have hBack := toClient_sublist args hKept
    refine ⟨?_, ?_, ?_⟩
    · apply List.sublist_nil.mp
      simpa [toServer, hForeign] using hServer
    · simpa [toClient, fromServer, hForeign] using hBack
    · intro d hMember
      have hSame :=
        List.mem_singleton.mp (hKept.subset hMember)
      right
      rw [hSame, hClient]
      rfl
  split_ifs
  · rcases simulate_eq r luck data client with
      ⟨lost, kept, hKept, hOnce, hStep⟩
    obtain ⟨hServer, hBack, hDest⟩ := hAll kept hKept
    rw [hStep]
    refine hRelays.extend rfl ?_ hBack ?_ hDest ?_ ?_ ?_ ?_
    · rw [hServer]
      exact List.nil_sublist _
    · rw [hNone, Option.or_none]
    · rw [hServer]
      dsimp only [List.length_nil]
      omega
    · simp [fromClients]
    · simp [fromClients, fromServer]
    · intro hUnknown
      dsimp only at hUnknown
      rw [hClient] at hUnknown
      cases hUnknown
  · rcases sendto_eq r luck data client with
      ⟨kept, hKept, hStep⟩
    obtain ⟨hServer, hBack, hDest⟩ := hAll kept hKept
    rw [hStep]
    refine hRelays.extend rfl ?_ hBack ?_ hDest ?_ ?_ ?_ ?_
    · rw [hServer]
      exact List.nil_sublist _
    · rw [hNone, Option.or_none]
    · rw [hServer]
      dsimp only [List.length_nil]
      omega
    · simp [fromClients]
    · simp [fromClients, fromServer]
    · exact fun _ => rfl

/- An input that the router ignores. -/
theorem relays_ignored
    (hRelays : Relays args inputs r)
    (hClients : fromClients args [input] = []) :
    Relays args (inputs ++ [input]) r := by
  have hNone : firstClient args [input] = none :=
    firstClient_eq_none.mpr hClients
  have hNothing : r.sent = r.sent ++ [] :=
    (List.append_nil _).symm
  refine hRelays.extend hNothing (List.nil_sublist _)
    (List.nil_sublist _) ?_ (fun _ hMember => by cases hMember)
    ?_ ?_ ?_ (fun _ => rfl)
  · rw [hNone, Option.or_none]
  · exact (Nat.add_comm _ _).le
  · rw [hClients]
    exact le_rfl
  · omega

theorem relays_iterate
    (hRelays : Relays args inputs r)
    (input : RecvResult × Luck) :
    Relays args (inputs ++ [input])
      (r.iterate args input.1 input.2) := by
  rcases input with ⟨value | ⟨data, addr⟩, luck⟩
  · exact relays_ignored hRelays rfl
  · unfold iterate
    dsimp only
    by_cases hAddr : addr = args.remote
    · subst hAddr
      rw [if_neg (not_not_intro rfl)]
      cases hClient : r.clientAddr with
      | none =>
          apply relays_ignored hRelays
          simp [fromClients]
      | some client =>
          exact relays_server hRelays luck hClient
    · rw [if_pos hAddr]
      exact relays_client hRelays luck hAddr

end Steps

/- Every sequence of inputs is relayed. -/
theorem relays_of_run
    (args : RouterArgs)
    (inputs : List (RecvResult × Luck)) :
    Relays args inputs (run args inputs) := by
  induction inputs using List.reverseRecOn with
  | nil => exact relays_main args
  | append_singleton inputs input ih =>
      have hRun :
          run args (inputs ++ [input]) =
            (run args inputs).iterate args input.1
              input.2 := by
        unfold run
        rw [List.foldl_append]
        rfl
      rw [hRun]
      exact relays_iterate ih input

/-
  Whatever arrives, is lost, and fails to be sent: in either
  direction the router passes on some of what has arrived,
  in order, without repeats. It sends to the server and to
  the source of the first datagram from anywhere else, and
  to nobody before that. When it is stopped, its loss rate
  is between zero and one, unless no client has sent it
  anything: then it divides by zero.
-/
theorem relays_run
    (args : RouterArgs)
    (inputs : List (RecvResult × Luck)) :
    let r := run args inputs
    (toServer args r.sent).Sublist
        (fromClients args inputs) ∧
      (toClient args r.sent).Sublist
        (fromServer args inputs) ∧
      (∀ d ∈ r.sent,
        d.2 = args.remote ∨
          d.2 ∈ firstClient args inputs) ∧
      r.lossCount + (toServer args r.sent).length ≤
        r.totalCount ∧
      (r.lossRate = none ↔ fromClients args inputs = []) ∧
      ∀ rate ∈ r.lossRate, 0 ≤ rate ∧ rate ≤ 1 := by
  intro r
  have hRelays : Relays args inputs r :=
    relays_of_run args inputs
  have hCounted := hRelays.counted
  have hHeard := hRelays.heard
  refine ⟨hRelays.server, hRelays.client, ?_, hCounted,
    ?_, ?_⟩
  · rw [← hRelays.known]
    exact hRelays.dest
  · have hTotal :
        r.totalCount = 0 ↔ fromClients args inputs = [] := by
      constructor
      · intro hZero
        exact List.length_eq_zero_iff.mp (by omega)
      · intro hNothing
        apply hRelays.silent
        rw [hRelays.known, firstClient_eq_none]
        exact hNothing
    rw [← hTotal]
    unfold lossRate
    split_ifs with hZero
    · simp [hZero]
    · simp [hZero]
  · intro rate hRate
    unfold lossRate at hRate
    split_ifs at hRate with hZero
    · cases hRate
    · cases hRate
      have hPositive : (0 : ℚ) < r.totalCount := by
        exact_mod_cast Nat.pos_of_ne_zero hZero
      have hLost : (r.lossCount : ℚ) ≤ r.totalCount := by
        exact_mod_cast (by omega : r.lossCount ≤ r.totalCount)
      refine ⟨by positivity, ?_⟩
      rw [div_le_one hPositive]
      exact hLost

end Router

end Nkurdt
