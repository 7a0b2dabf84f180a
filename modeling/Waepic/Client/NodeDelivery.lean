import Waepic.Client.Subscriptions
import Waepic.Connection.NodeStream

/-!
# From the server to its subscribers

The nodes of the server reach the receivers of the event channel through the whole of the
connection: the WebSocket and its read pump, the frame decoder, the decryption, the loop of
`read_loop`, which waits for room before it broadcasts a node, and the channel.

Whatever the WebSocket makes of the bytes, and whatever the receivers do meanwhile, a
receiver from before the connection hears the nodes of the server in order, without a gap,
and all of them once all bytes were processed; one that is made meanwhile hears those that
follow (`nodes_delivered`).

Reading the wire is handling the nodes (`follows_of_run`), so it is enough to say what a
reader of the nodes does to the channel.
-/

namespace Waepic.Client

open Transition Binary Framing Broadcast Connection

/-! ## What the receivers hear -/

/-- A receiver of `c₀` hears the nodes that were handled since, a later one the last of
them. -/
def HeardSince (c₀ : Channel RawEvent) (handled : List Node) (id : Nat)
    (heard : List RawEvent) : Prop :=
  (id < c₀.nextId →
    ∃ r ∈ c₀.receivers, r.id = id ∧ nodesOf heard = nodesOf r.heard ++ handled) ∧
  (c₀.nextId ≤ id → nodesOf heard <:+ handled)

structure Hearing (c₀ : Channel RawEvent) (handled : List Node) (c : Channel RawEvent) : Prop where
  heard : c.All (HeardSince c₀ handled)
  /-- Once the last receiver is dropped nothing is heard. -/
  closed : c.closed = true → c.All fun id heard => c₀.nextId ≤ id ∧ nodesOf heard = []
  nextId : c₀.nextId ≤ c.nextId

section Hearing

variable {c₀ c : Channel RawEvent} {handled : List Node} {n : Node} {id : Nat}
  {events : List RawEvent}

theorem nodesOf_of_not_node {e : RawEvent} (he : ∀ n, e ≠ .node n) :
    nodesOf (events ++ [e]) = nodesOf events := by
  rw [nodesOf_append]
  cases e with
  | node n => exact absurd rfl (he n)
  | _ => exact List.append_nil _

theorem HeardSince.push (h : HeardSince c₀ handled id events) :
    HeardSince c₀ (handled ++ [n]) id (events ++ [.node n]) := by
  have hnodes : nodesOf (events ++ [.node n]) = nodesOf events ++ [n] := nodesOf_append events _
  refine ⟨fun hid => ?_, fun hid => ?_⟩
  · obtain ⟨r, hr, hrid, hheard⟩ := h.1 hid
    exact ⟨r, hr, hrid, by rw [hnodes, hheard, List.append_assoc]⟩
  · obtain ⟨before, hbefore⟩ := h.2 hid
    exact ⟨before, by rw [hnodes, ← hbefore, List.append_assoc]⟩

theorem hearing_start (hopen : c₀.closed = false) : Hearing c₀ [] c₀ where
  heard r hr := ⟨fun _ => ⟨r, hr, rfl, (List.append_nil _).symm⟩,
    fun hid => absurd (c₀.id_lt r hr) (Nat.not_lt.mpr hid)⟩
  closed h := by rw [hopen] at h; cases h
  nextId := Nat.le_refl _

/-- A node is broadcast once there is room. -/
theorem Hearing.node (h : Hearing c₀ handled c) (hroom : c.full = false ∨ c.closed = true) :
    Hearing c₀ (handled ++ [n]) (c.tryBroadcast (.node n)) := by
  cases hclosed : c.closed with
  | true =>
      rw [Channel.tryBroadcast_of_closed _ _ hclosed]
      refine ⟨fun r hr => ?_, h.closed, h.nextId⟩
      obtain ⟨hid, hnone⟩ := h.closed hclosed r hr
      exact ⟨fun hlt => absurd hlt (Nat.not_lt.mpr hid), fun _ => hnone ▸ List.nil_suffix⟩
  | false =>
      have haccepts : c.accepts = true := by simpa [Channel.accepts, hclosed] using hroom
      refine ⟨Channel.all_tryBroadcast.mpr fun r hr => ?_, fun hclosed' => ?_, ?_⟩
      · show HeardSince c₀ _ r.id (if c.accepts = true then r.heard ++ [.node n] else r.heard)
        rw [if_pos haccepts]
        exact (h.heard r hr).push
      · rw [Channel.tryBroadcast_closed, hclosed] at hclosed'
        cases hclosed'
      · rw [Channel.tryBroadcast_nextId]
        exact h.nextId

/-- Another event is heard or lost. -/
theorem Hearing.announce (h : Hearing c₀ handled c) {e : RawEvent} (he : ∀ n, e ≠ .node n) :
    Hearing c₀ handled (c.tryBroadcast e) := by
  refine ⟨(Channel.all_tryBroadcast_of_ignored fun id events => ?_).mpr h.heard, fun hclosed => ?_,
    ?_⟩
  · rw [HeardSince, HeardSince, nodesOf_of_not_node he]
  · rw [Channel.tryBroadcast_closed] at hclosed
    rw [Channel.tryBroadcast_of_closed _ _ hclosed]
    exact h.closed hclosed
  · rw [Channel.tryBroadcast_nextId]
    exact h.nextId

/-- What other tasks do leaves the nodes as they are. -/
theorem Hearing.others (h : Hearing c₀ handled c) {c' : Channel RawEvent} (hacts : OthersAct c c') :
    Hearing c₀ handled c' := by
  cases hacts with
  | idle => exact h
  | recv =>
      exact ⟨Channel.all_recv.mpr h.heard, fun hclosed => Channel.all_recv.mpr (h.closed hclosed),
        h.nextId⟩
  | newReceiver =>
      refine ⟨Channel.all_newReceiver.mpr ⟨h.heard, ?_⟩, fun hclosed =>
        Channel.all_newReceiver.mpr ⟨h.closed hclosed, h.nextId, rfl⟩, Nat.le_succ_of_le h.nextId⟩
      exact ⟨fun hlt => absurd hlt (Nat.not_lt.mpr h.nextId), fun _ => List.nil_suffix⟩
  | @dropReceiver id =>
      refine ⟨Channel.all_dropReceiver.mpr fun r hr _ => h.heard r hr, fun hclosed =>
        Channel.all_dropReceiver.mpr fun r hr hne => ?_, h.nextId⟩
      rcases Channel.dropReceiver_closed_iff.mp hclosed with hclosed | hnone
      · exact h.closed hclosed r hr
      · exact absurd ⟨r, hr, hne⟩ hnone
  | announce he => exact h.announce he

end Hearing

/-! ## Handling the nodes -/

section Nodes

variable [WacoreBinary] {env : FrameEnv} {ns : List Node} {c₀ : Channel RawEvent} {n : Node}
  {w w' : FrameWorld}

/-- A node waits for room at the end of its route, or is broadcast. -/
theorem processNode_events {outcome : FrameOutcome} (h : processNode env n w = (outcome, w')) :
    let c := (w.follow env (routeNode n) n).events
    (outcome = .waiting n ∧ w'.events = c) ∨
      (outcome = .returned (.ok ()) ∧ (c.full = false ∨ c.closed = true) ∧
        w'.events = c.tryBroadcast (.node n)) := by
  rw [processNode_eq_route] at h
  generalize w.follow env (routeNode n) n = v at h ⊢
  unfold FrameWorld.broadcastNode at h
  split at h
  · cases h
    exact .inl ⟨rfl, rfl⟩
  · next hroom =>
      cases h
      refine .inr ⟨rfl, ?_, rfl⟩
      cases hclosed : v.events.closed with
      | true => exact .inr rfl
      | false =>
          rw [hclosed] at hroom
          exact .inl (Bool.eq_false_of_not_eq_true hroom)

/-- The route of a node announces no node. -/
theorem Hearing.follow {handled : List Node} (h : Hearing c₀ handled w.events) :
    Hearing c₀ handled (w.follow env (routeNode n) n).events := by
  rw [FrameWorld.follow_events]
  split
  · exact h.announce nofun
  · exact h

/-- The receivers have heard the nodes that were handled, and the others are left. -/
def Hears (ns : List Node) (c₀ : Channel RawEvent) (s : NodesState) : Prop :=
  ∃ handled, ns = handled ++ s.waiting.toList ++ s.nodes ∧ Hearing c₀ handled s.world.events

theorem Hears.step {s t : NodesState} {a : NodesAction} (h : Hears ns c₀ s)
    (hstep : NodesStep env s a t) : Hears ns c₀ t := by
  obtain ⟨handled, hsplit, hhearing⟩ := h
  cases hstep with
  | @handle n rest w hwaiting hnodes hprocess =>
      rw [hwaiting, hnodes, Option.toList_none, List.append_nil] at hsplit
      rcases processNode_events hprocess with ⟨hout, -⟩ | ⟨-, hroom, hevents⟩
      · cases hout
      · refine ⟨handled ++ [n], ?_, ?_⟩
        · rw [hwaiting, hsplit, Option.toList_none, List.append_nil, List.append_assoc]
          rfl
        · show Hearing c₀ _ w.events
          rw [hevents]
          exact hhearing.follow.node hroom
  | @waits n m rest w hwaiting hnodes hprocess =>
      rw [hwaiting, hnodes, Option.toList_none, List.append_nil] at hsplit
      rcases processNode_events hprocess with ⟨hout, hevents⟩ | ⟨hout, -⟩
      · cases hout
        refine ⟨handled, ?_, ?_⟩
        · rw [hsplit, List.append_assoc]
          rfl
        · show Hearing c₀ _ w.events
          rw [hevents]
          exact hhearing.follow
      · cases hout
  | @broadcast n hwaiting hroom =>
      rw [hwaiting] at hsplit
      exact ⟨handled ++ [n], by rw [hsplit]; simp, hhearing.node hroom⟩
  | others hacts => exact ⟨handled, hsplit, hhearing.others hacts⟩

theorem hears_of_run (hopen : w.events.closed = false) {as : List NodesAction} {s : NodesState}
    (hrun : (nodeReader env ns w).Run as s) : Hears ns w.events s := by
  refine hrun.invariant ?_ fun s a t => Hears.step
  rintro s rfl
  exact ⟨[], rfl, hearing_start hopen⟩

end Nodes

/-! ## End to end -/

section Delivery

variable [WacoreBinary] {env : ReaderEnv} {wire writer : Wire} {decoder : FrameDecoder}
  {x : XxHandshake} {ns : List Node} {ps : List Bytes} {fs : List Payload}

/-- The nodes of the server are those that the receivers have heard, one that waits for room,
and those that are left. -/
theorem hearing_of_run (hwire : wire.Lawful) {first : Payload}
    (hhello : sendClientHello x = .ok ()) (hfinish : finishHandshake x first = .ok (writer, wire))
    (henc : Encrypts wire 0 ps fs) (hmarshals : List.Forall₂ env.Marshals ns ps)
    {ws : Nat → WsItem}
    (hstream : ∀ k, GoesOn ws k →
      (payloads ws k).flatten <+: frameCode.encode first ++ frameCode.encodeAll fs)
    (hends : ∀ k, GoesOn ws k → frameCode.encode first <+: (payloads ws k).flatten →
      EndsChunk first (payloads ws k))
    {p : PumpState} (hpump : (readPump ws).Reachable p) {events : List TransportEvent}
    (hevents : events <+: p.put) {w : FrameWorld} (hopen : w.events.closed = false)
    {as : List ReaderAction} {s : ReaderState decoder.State}
    (hrun : (wireReader env.frameEnv decoder x events w).Run as s) :
    ∃ handled left, ns = handled ++ s.phase.waiting.toList ++ left ∧
      Hearing w.events handled s.world.events ∧
      (receivedBytes events = frameCode.encode first ++ frameCode.encodeAll fs →
        receivedBytes s.events = [] → s.phase.Idle → left = []) := by
  obtain ⟨missing, t, hnodes, hfollows, hmissing⟩ :=
    follows_of_run hwire hhello hfinish henc hmarshals hstream hends hpump hevents hrun
  obtain ⟨handled, hsplit, hhearing⟩ := hears_of_run (w := w.connected writer wire) hopen hnodes
  refine ⟨handled, t.nodes, by rw [hsplit, hfollows.waiting], ?_, fun hbytes hleft hidle => ?_⟩
  · rw [hfollows.world.events]
    exact hhearing
  · rw [hmissing hbytes] at hfollows
    exact hfollows.nodes_eq_nil hidle hleft

/-- In every run of the read pump and of the reader: a receiver from before the connection
has heard a first part of the nodes of the server, in order and without a gap, a later one
the last of them; and once all bytes were received and processed, this part is all. -/
theorem nodes_delivered (hwire : wire.Lawful) {first : Payload}
    (hhello : sendClientHello x = .ok ()) (hfinish : finishHandshake x first = .ok (writer, wire))
    (henc : Encrypts wire 0 ps fs) (hmarshals : List.Forall₂ env.Marshals ns ps)
    {ws : Nat → WsItem}
    (hstream : ∀ k, GoesOn ws k →
      (payloads ws k).flatten <+: frameCode.encode first ++ frameCode.encodeAll fs)
    (hends : ∀ k, GoesOn ws k → frameCode.encode first <+: (payloads ws k).flatten →
      EndsChunk first (payloads ws k))
    {p : PumpState} (hpump : (readPump ws).Reachable p) {events : List TransportEvent}
    (hevents : events <+: p.put) {w : FrameWorld} (hopen : w.events.closed = false)
    {as : List ReaderAction} {s : ReaderState decoder.State}
    (hrun : (wireReader env.frameEnv decoder x events w).Run as s) :
    ∃ handled, handled <+: ns ∧ s.world.events.All (HeardSince w.events handled) ∧
      (receivedBytes events = frameCode.encode first ++ frameCode.encodeAll fs →
        receivedBytes s.events = [] → s.phase.Idle → handled = ns) := by
  obtain ⟨handled, left, hsplit, hhearing, hleft⟩ :=
    hearing_of_run hwire hhello hfinish henc hmarshals hstream hends hpump hevents hopen hrun
  refine ⟨handled, ⟨s.phase.waiting.toList ++ left, by rw [hsplit, List.append_assoc]⟩,
    hhearing.heard, fun hbytes hrest hidle => ?_⟩
  rw [hsplit, hidle.waiting_eq_none, hleft hbytes hrest hidle, Option.toList_none,
    List.append_nil, List.append_nil]

omit [WacoreBinary] in
/-- A receiver hears the two nodes of a stream that was cut, the second once it took the first. -/
theorem nodes_delivered_cut :
    letI := plainWacore
    ∃ p u s, (readPump cutItems).Reachable p ∧
      (wireReader (cutEnv messageNode).frameEnv bufferDecoder plainHandshake p.put
        listeningWorld).Run
          [.take, .drained, .take, .frame, .drained, .take, .frame, .others u, .broadcast,
            .drained] s ∧
      s.world.events.All (HeardSince listeningWorld.events [messageNode, logoutNode]) := by
  let _ := plainWacore
  obtain ⟨p, u, s, hpump, hbytes, hrun, hevents, hphase, -⟩ := cutItems_read (n := messageNode) rfl
  obtain ⟨handled, -, hheard, hall⟩ := nodes_delivered shiftWire_lawful rfl rfl cutItems_encrypts
    (cutEnv_marshals messageNode) cutItems_stream cutItems_ends hpump List.prefix_rfl
    (w := listeningWorld) rfl hrun
  obtain rfl : handled = [messageNode, logoutNode] :=
    hall hbytes (by rw [hevents]; rfl) (by rw [hphase]; trivial)
  exact ⟨p, u, s, hpump, hrun, hheard⟩

end Delivery

end Waepic.Client
