import Waepic.Client.NodeDelivery
import Waepic.Client.UpdateOrder

/-!
# From the server to the application

The whole way of a node: the WebSocket and its read pump, the frame decoder, the decryption,
the loop of `read_loop`, the event channel, a receiver, the event loop of an update stream, and
the channel of the application.

The nodes that an update stream has taken are a first part of the nodes of the server, in
order and without a gap, and the updates that came out for them, but those of history syncs,
stand in the order of the nodes; nothing is missing once all bytes were received and processed
and the loop waits (`updates_delivered`).

The stream is linked to its receiver by what it took: the events that the loop has taken are
those that the receiver has received.
-/

namespace Waepic.Client

open Transition Binary Framing Broadcast Connection

variable [WacoreBinary] {ρ σ κ τ : Type} {lib : HandlerLibrary σ κ τ} {clears : Bool}

variable {env : ReaderEnv} {wire writer : Wire} {decoder : FrameDecoder}
  {x : XxHandshake} {ns : List Node} {ps : List Bytes} {fs : List Payload}

/-- In every run of the read pump, of the reader and of an update stream that subscribed before
the connection: the nodes that the stream has taken are, behind those from before, a first part
of the nodes of the server, and its updates that are no history sync are a first part of those
of the events taken, in order; once all bytes were received and processed, the receiver has
taken what it heard and the loop waits, both parts are all. -/
theorem updates_delivered (hwire : wire.Lawful) {first : Payload}
    (hhello : sendClientHello x = .ok ()) (hfinish : finishHandshake x first = .ok (writer, wire))
    (henc : Encrypts wire 0 ps fs) (hmarshals : List.Forall₂ env.Marshals ns ps)
    {ws : Nat → WsItem}
    (hstream : ∀ k, GoesOn ws k →
      (payloads ws k).flatten <+: frameCode.encode first ++ frameCode.encodeAll fs)
    (hends : ∀ k, GoesOn ws k → frameCode.encode first <+: (payloads ws k).flatten →
      EndsChunk first (payloads ws k))
    {p : PumpState} (hpump : (readPump ws).Reachable p) {events : List TransportEvent}
    (hevents : events <+: p.put) {w : FrameWorld} (hopen : w.events.closed = false)
    {as : List ReaderAction} {s : ReaderState decoder.State}
    (hrun : (wireReader env.frameEnv decoder x events w).Run as s)
    {r : Receiver RawEvent} (hr : r ∈ s.world.events.receivers) (hid : r.id < w.events.nextId)
    {l : LoopState ρ σ κ τ} (hloop : (eventLoop lib clears).Reachable l)
    (htaken : l.taken.map (·.event) = r.received) :
    ∃ r₀ ∈ w.events.receivers, r₀.id = r.id ∧
      nodesOf (l.taken.map (·.event)) <+: nodesOf r₀.heard ++ ns ∧
      l.channel.filter (!·.isHistory) <+: l.taken.flatMap lib.eventUpdates ∧
      (receivedBytes events = frameCode.encode first ++ frameCode.encodeAll fs →
        receivedBytes s.events = [] → s.phase.Idle → r.pending = [] →
        l.schedule.pending .loop = [] →
        nodesOf (l.taken.map (·.event)) = nodesOf r₀.heard ++ ns ∧
          l.channel.filter (!·.isHistory) = l.taken.flatMap lib.eventUpdates) := by
  obtain ⟨handled, left, hsplit, hhearing, hleft⟩ :=
    hearing_of_run hwire hhello hfinish henc hmarshals hstream hends hpump hevents hopen hrun
  obtain ⟨r₀, hr₀, hr₀id, hheard⟩ := (hhearing.heard r hr).1 hid
  obtain ⟨hchannel, hwaits⟩ := channel_of_run hloop
  have hnodes : nodesOf r.heard = nodesOf r.received ++ nodesOf r.pending := List.filterMap_append
  refine ⟨r₀, hr₀, hr₀id, ?_, hchannel, fun hbytes hrest hidle hpending hloop => ⟨?_, hwaits hloop⟩⟩
  · rw [htaken, hsplit]
    calc nodesOf r.received
        <+: nodesOf r.heard := ⟨nodesOf r.pending, hnodes.symm⟩
      _ = nodesOf r₀.heard ++ handled := hheard
      _ <+: nodesOf r₀.heard ++ (handled ++ s.phase.waiting.toList ++ left) := by
          rw [List.append_assoc, ← List.append_assoc]
          exact List.prefix_append ..
  · have hreceived : r.received = r.heard := by rw [Receiver.heard, hpending, List.append_nil]
    rw [htaken, hreceived, hheard, hsplit, hidle.waiting_eq_none, hleft hbytes hrest hidle,
      Option.toList_none, List.append_nil, List.append_nil]

omit [WacoreBinary] in
/-- The stream takes both nodes of bytes that were cut.  The first is a history sync, whose
updates come out on both sides of what the loop does for the second. -/
theorem updates_delivered_cut :
    letI := plainWacore
    ∃ p s, ∃ (l : LoopState Unit (List SenderKeyName) (Option String) Bool)
        (u v : MessageUpdate _), (readPump cutItems).Reachable p ∧
      (wireReader (cutEnv aliceHistorySync).frameEnv bufferDecoder plainHandshake p.put
        listeningWorld).Reachable s ∧
      (∃ r ∈ s.world.events.receivers,
        r.received = [.node aliceHistorySync, .node logoutNode]) ∧
      (eventLoop exampleLibrary true).Reachable l ∧
      l.channel = [.message u, .message v, .failure .loggedOut] ∧
      nodesOf (l.taken.map (·.event)) = [aliceHistorySync, logoutNode] ∧
      l.channel.filter (!·.isHistory) = l.taken.flatMap exampleLibrary.eventUpdates := by
  let _ := plainWacore
  obtain ⟨p, _, s, hpump, hbytes, hrun, hevents, hphase, -, hreceivers⟩ :=
    cutItems_read (n := aliceHistorySync) rfl
  obtain ⟨l, u, v, hl, htaken, hlog, hidle⟩ := run_historyAndLogout
  have hnext := hrun.tail (.others (u := { s.world with events := s.world.events.recv 0 }) .recv)
  have hr : (⟨0, [.node aliceHistorySync, .node logoutNode], []⟩ : Receiver RawEvent) ∈
      (s.world.events.recv 0).receivers :=
    List.mem_map.mpr ⟨_, by rw [hreceivers]; exact List.mem_cons_self, rfl⟩
  obtain ⟨r₀, hr₀, -, -, -, hall⟩ := updates_delivered shiftWire_lawful rfl rfl cutItems_encrypts
    (cutEnv_marshals aliceHistorySync) cutItems_stream cutItems_ends hpump List.prefix_rfl
    (w := listeningWorld) rfl hnext hr Nat.one_pos hl htaken
  obtain rfl : r₀ = .new 0 := List.mem_singleton.mp hr₀
  have hrest : receivedBytes s.events = [] := by
    rw [hevents]
    rfl
  have hwaits : s.phase.Idle := by
    rw [hphase]
    trivial
  obtain ⟨hnodes, hupdates⟩ := hall hbytes hrest hwaits rfl hidle
  refine ⟨p, _, l, u, v, hpump, ⟨_, hnext⟩, ⟨_, hr, rfl⟩, hl, ?_, hnodes, hupdates⟩
  rw [LoopState.channel, hlog]
  rfl

end Waepic.Client
