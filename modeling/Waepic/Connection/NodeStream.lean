import Waepic.Connection.ByteStream
import Waepic.Connection.FrameEffects
import Waepic.Library.Simulation

/-!
# From the WebSocket to the nodes

`read_loop` takes the events of the transport one by one, drains its frame decoder after
each, and decrypts, parses and handles every frame (`wireReader`).  In between, and while it
waits for room to broadcast a node, other tasks change what it shares with them: receivers
take events, calls leave waiters, commands and keepalives are sent.

A reader that is given the nodes of the server themselves would only handle them, one after
the other (`nodeReader`).  Reading the wire is no different, whatever the WebSocket made of
the bytes: each run of `read_loop` on a connection is a run of that reader, with the same
acts of the others at the same places (`wire_transparent`).

The acknowledgement of a node is one act with its handling, though `read_loop` awaits it.
-/

namespace Waepic.Connection

open Transition Binary Framing Broadcast Client

/-! ## What reading uses -/

/-- What is wacore's, or of the write half of the socket. -/
structure ReaderEnv where
  unpackBytes : Bytes → Except String Bytes
  parseNode : Bytes → Except String Node
  /-- What `handle_send_node` returns, and leaves of the write half. -/
  writeNode : Wire → SocketState → Node → Result Unit × SocketState

def ReaderEnv.frameEnv (env : ReaderEnv) : FrameEnv where
  unpackBytes := env.unpackBytes
  parseNode := env.parseNode
  handleSendNode socket n :=
    let r := env.writeNode socket.writeCipher socket.write n
    (r.1, { socket with write := r.2 })

/-- The plaintext is the node. -/
def ReaderEnv.Marshals (env : ReaderEnv) (n : Node) (plaintext : Bytes) : Prop :=
  ∃ unpacked, env.unpackBytes plaintext = .ok unpacked ∧ env.parseNode unpacked = .ok n

namespace FrameWorld

/-- The socket of a new connection. -/
def connected (w : FrameWorld) (writer reader : Wire) : FrameWorld :=
  { w with noiseSocket := .new writer reader }

/-- With another read half. -/
def withRead (w : FrameWorld) (read : ReadHalf) (decrypted : List Payload) : FrameWorld :=
  { w with noiseSocket := { w.noiseSocket with read := read, decrypted := decrypted } }

/-- Other tasks leave `u` of all but the read half. -/
def changeTo (w u : FrameWorld) : FrameWorld :=
  { u with
    noiseSocket := { w.noiseSocket with
      writeCipher := u.noiseSocket.writeCipher
      write := u.noiseSocket.write } }

/-- The worlds differ by their read halves at most. -/
def SameButRead (w u : FrameWorld) : Prop :=
  w = u.withRead w.noiseSocket.read w.noiseSocket.decrypted

variable {w u : FrameWorld}

theorem SameButRead.events (h : w.SameButRead u) : w.events = u.events := by rw [h]; rfl

theorem SameButRead.announce (h : w.SameButRead u) (e : RawEvent) :
    (w.announce e).SameButRead (u.announce e) := by
  show w.announce e = (u.announce e).withRead w.noiseSocket.read w.noiseSocket.decrypted
  rw [h]
  rfl

theorem SameButRead.readCipher (h : w.SameButRead u) :
    w.noiseSocket.readCipher = u.noiseSocket.readCipher := by rw [h]; rfl

theorem SameButRead.changeTo (h : w.SameButRead u) (v : FrameWorld) :
    (w.changeTo v).SameButRead (u.changeTo v) := by
  show w.changeTo v = (u.changeTo v).withRead w.noiseSocket.read w.noiseSocket.decrypted
  rw [h]
  rfl

end FrameWorld

/-- What other tasks do to the event channel: only `process_incoming_frame` broadcasts nodes. -/
inductive OthersAct (c : Channel RawEvent) : Channel RawEvent → Prop where
  | idle : OthersAct c c
  | recv {id : Nat} : OthersAct c (c.recv id)
  | newReceiver : OthersAct c c.newReceiver
  | dropReceiver {id : Nat} : OthersAct c (c.dropReceiver id)
  | announce {e : RawEvent} : (∀ n, e ≠ .node n) → OthersAct c (c.tryBroadcast e)

/-! ## Reading the wire -/

/-- Where `read_loop` is. -/
inductive ReaderPhase where
  /-- At its select. -/
  | selecting
  /-- In the loop over the frames of a chunk. -/
  | draining
  /-- Waiting for room for the node of a frame. -/
  | broadcasting (n : Node)
  | returned

def ReaderPhase.waiting : ReaderPhase → Option Node
  | broadcasting n => some n
  | _ => none

/-- No frame is being processed. -/
def ReaderPhase.Idle : ReaderPhase → Prop
  | selecting | returned => True
  | draining | broadcasting _ => False

theorem ReaderPhase.Idle.waiting_eq_none {phase : ReaderPhase} (h : phase.Idle) :
    phase.waiting = none := by
  cases phase with
  | broadcasting n => exact h.elim
  | _ => rfl

structure ReaderState (State : Type) where
  /-- The events of the transport that were not taken. -/
  events : List TransportEvent
  decoder : State
  phase : ReaderPhase
  world : FrameWorld

inductive ReaderAction where
  /-- The next event of the transport is taken. -/
  | take
  /-- The next frame is decoded and processed. -/
  | frame
  /-- No further frame is complete. -/
  | drained
  | broadcast
  /-- A command, or the end of the events, ends the loop. -/
  | quit
  | others (u : FrameWorld)

variable [WacoreBinary]

inductive ReaderStep (env : FrameEnv) (decoder : FrameDecoder) :
    ReaderState decoder.State → ReaderAction → ReaderState decoder.State → Prop where
  | connected {s : ReaderState decoder.State} {rest : List TransportEvent} :
      s.phase = .selecting → s.events = .connected :: rest →
      ReaderStep env decoder s .take { s with events := rest }
  | dataReceived {s : ReaderState decoder.State} {data : Bytes} {rest : List TransportEvent} :
      s.phase = .selecting → s.events = .dataReceived data :: rest →
      ReaderStep env decoder s .take
        { s with events := rest, decoder := decoder.feed s.decoder data, phase := .draining }
  | disconnected {s : ReaderState decoder.State} {rest : List TransportEvent} :
      s.phase = .selecting → s.events = .disconnected :: rest →
      ReaderStep env decoder s .take { s with events := rest, phase := .returned }
  | processed {s : ReaderState decoder.State} {frame : Payload} {d : decoder.State}
      {w : FrameWorld} :
      s.phase = .draining → decoder.decodeFrame s.decoder = some (frame, d) →
      processIncomingFrame env frame s.world = (.returned (.ok ()), w) →
      ReaderStep env decoder s .frame { s with decoder := d, world := w }
  | failed {s : ReaderState decoder.State} {frame : Payload} {d : decoder.State}
      {w : FrameWorld} {e : ConnectionError} :
      s.phase = .draining → decoder.decodeFrame s.decoder = some (frame, d) →
      processIncomingFrame env frame s.world = (.returned (.error e), w) →
      ReaderStep env decoder s .frame { s with decoder := d, world := w.announce (.error e.toText) }
  | waits {s : ReaderState decoder.State} {frame : Payload} {d : decoder.State} {w : FrameWorld}
      {n : Node} :
      s.phase = .draining → decoder.decodeFrame s.decoder = some (frame, d) →
      processIncomingFrame env frame s.world = (.waiting n, w) →
      ReaderStep env decoder s .frame
        { s with decoder := d, world := w, phase := .broadcasting n }
  | drained {s : ReaderState decoder.State} :
      s.phase = .draining → decoder.decodeFrame s.decoder = none →
      ReaderStep env decoder s .drained { s with phase := .selecting }
  | broadcast {s : ReaderState decoder.State} {n : Node} :
      s.phase = .broadcasting n → s.world.events.full = false ∨ s.world.events.closed = true →
      ReaderStep env decoder s .broadcast
        { s with world := s.world.announce (.node n), phase := .draining }
  | quit {s : ReaderState decoder.State} :
      s.phase = .selecting → ReaderStep env decoder s .quit { s with phase := .returned }
  | others {s : ReaderState decoder.State} {u : FrameWorld} :
      OthersAct s.world.events u.events →
      ReaderStep env decoder s (.others u) { s with world := s.world.changeTo u }

/-- The runs of `read_loop` after `connect_once` on a transport with these events. -/
def wireReader (env : FrameEnv) (decoder : FrameDecoder) (x : XxHandshake)
    (events : List TransportEvent) (w : FrameWorld) :
    System (ReaderState decoder.State) ReaderAction where
  init s := ∃ ciphers rest, connectOnce decoder x events = .ok (ciphers, rest) ∧
    s = ⟨rest, decoder.new, .selecting, w.connected ciphers.1 ciphers.2⟩
  step := ReaderStep env decoder

/-! ## Handling the nodes -/

structure NodesState where
  /-- The nodes that were not handled. -/
  nodes : List Node
  /-- The node that waits for room. -/
  waiting : Option Node
  world : FrameWorld

inductive NodesAction where
  | handle
  | broadcast
  | others (u : FrameWorld)

inductive NodesStep (env : FrameEnv) : NodesState → NodesAction → NodesState → Prop where
  | handle {s : NodesState} {n : Node} {rest : List Node} {w : FrameWorld} :
      s.waiting = none → s.nodes = n :: rest →
      processNode env n s.world = (.returned (.ok ()), w) →
      NodesStep env s .handle { s with nodes := rest, world := w }
  | waits {s : NodesState} {n m : Node} {rest : List Node} {w : FrameWorld} :
      s.waiting = none → s.nodes = n :: rest → processNode env n s.world = (.waiting m, w) →
      NodesStep env s .handle { nodes := rest, waiting := some m, world := w }
  | broadcast {s : NodesState} {n : Node} :
      s.waiting = some n → s.world.events.full = false ∨ s.world.events.closed = true →
      NodesStep env s .broadcast
        { s with waiting := none, world := s.world.announce (.node n) }
  | others {s : NodesState} {u : FrameWorld} :
      OthersAct s.world.events u.events →
      NodesStep env s (.others u) { s with world := s.world.changeTo u }

/-- The runs of a reader that is given the nodes. -/
def nodeReader (env : FrameEnv) (ns : List Node) (w : FrameWorld) :
    System NodesState NodesAction where
  init s := s = ⟨ns, none, w⟩
  step := NodesStep env

/-- What a reader of nodes does meanwhile. -/
def ReaderAction.seen : ReaderAction → List NodesAction
  | take | drained | quit => []
  | frame => [.handle]
  | broadcast => [.broadcast]
  | others u => [.others u]

/-! ## The read half -/

section ReadHalf

variable {env : ReaderEnv} {n : Node} {w : FrameWorld} (read : ReadHalf)
  (decrypted : List Payload)

omit [WacoreBinary] in
theorem follow_withRead (r : FrameRoute) :
    (w.withRead read decrypted).follow env.frameEnv r n =
      (w.follow env.frameEnv r n).withRead read decrypted := by
  rw [FrameWorld.follow_eq, FrameWorld.follow_eq]
  cases r.ack <;> rfl

omit [WacoreBinary] in
theorem broadcastNode_withRead :
    (w.withRead read decrypted).broadcastNode n =
      ((w.broadcastNode n).1, (w.broadcastNode n).2.withRead read decrypted) := by
  simp only [FrameWorld.broadcastNode, show (w.withRead read decrypted).events = w.events from rfl]
  cases !w.events.closed && w.events.full <;> rfl

/-- Handling a node neither reads nor changes the read half. -/
theorem processNode_withRead :
    processNode env.frameEnv n (w.withRead read decrypted) =
      ((processNode env.frameEnv n w).1,
        (processNode env.frameEnv n w).2.withRead read decrypted) := by
  rw [processNode_eq_route, processNode_eq_route, follow_withRead, broadcastNode_withRead]

theorem processNode_readCipher :
    (processNode env.frameEnv n w).2.noiseSocket.readCipher = w.noiseSocket.readCipher := by
  have hfollow : (w.follow env.frameEnv (routeNode n) n).noiseSocket.readCipher =
      w.noiseSocket.readCipher := by
    rw [FrameWorld.follow_eq]
    cases (routeNode n).ack <;> rfl
  rw [processNode_eq_route, ← hfollow]
  generalize w.follow env.frameEnv (routeNode n) n = v
  unfold FrameWorld.broadcastNode
  cases !v.events.closed && v.events.full <;> rfl

theorem processNode_ne_error (e : ConnectionError) :
    (processNode env.frameEnv n w).1 ≠ .returned (.error e) := by
  rw [processNode_eq_route]
  generalize w.follow env.frameEnv (routeNode n) n = v
  unfold FrameWorld.broadcastNode
  cases !v.events.closed && v.events.full <;> nofun

end ReadHalf

/-! ## The nodes behind the bytes -/

/-- The reader of the wire has handled what the reader of the nodes has, and what it has
before it, with the bytes that do not arrive, is what that one has. -/
structure Follows (env : ReaderEnv) (wire : Wire) (decoder : FrameDecoder) (missing : Bytes)
    (s : ReaderState decoder.State) (t : NodesState) : Prop where
  world : s.world.SameButRead t.world
  readCipher : s.world.noiseSocket.readCipher = wire
  left : ∃ ps fs, Encrypts wire s.world.noiseSocket.read.counter ps fs ∧
    List.Forall₂ env.Marshals t.nodes ps ∧
    decoder.buffered s.decoder ++ receivedBytes s.events ++ missing = frameCode.encodeAll fs
  waiting : t.waiting = s.phase.waiting
  idle : s.phase.Idle → frameCode.Incomplete (decoder.buffered s.decoder)

section Steps

variable {env : ReaderEnv} {wire : Wire} {decoder : FrameDecoder} {missing : Bytes}
  {s s' : ReaderState decoder.State} {t : NodesState} {frame : Payload} {d : decoder.State}

omit [WacoreBinary] in
/-- The next frame is the next node. -/
theorem Follows.next (h : Follows env wire decoder missing s t) (hwire : wire.Lawful)
    (hdecode : decoder.decodeFrame s.decoder = some (frame, d)) :
    ∃ n ns ps fs counter, t.nodes = n :: ns ∧
      frameNode env.frameEnv s.world.noiseSocket frame = .ok n ∧
      (s.world.noiseSocket.decryptFrame frame).2 =
        { s.world.noiseSocket with
          read := ⟨counter⟩, decrypted := s.world.noiseSocket.decrypted ++ [frame] } ∧
      Encrypts wire counter ps fs ∧ List.Forall₂ env.Marshals ns ps ∧
      decoder.buffered d ++ receivedBytes s.events ++ missing = frameCode.encodeAll fs := by
  obtain ⟨ps, fs, henc, hmarshals, hstream⟩ := h.left
  rw [decoder.decodeFrame_some hdecode, List.append_assoc, List.append_assoc] at hstream
  cases henc with
  | nil => exact absurd (List.append_eq_nil_iff.mp hstream).1 (frameCode.encode_ne_nil frame)
  | @cons counter plaintext frame' ps fs hmax hencrypt hrest =>
      obtain ⟨rfl, hbytes⟩ := Code.cancel hstream
      cases hnodes : t.nodes with
      | nil =>
          rw [hnodes] at hmarshals
          cases hmarshals
      | cons n ns =>
          rw [hnodes] at hmarshals
          obtain ⟨⟨unpacked, hunpack, hparse⟩, hns⟩ := List.forall₂_cons.mp hmarshals
          have hdecrypt : s.world.noiseSocket.read.decryptFrame s.world.noiseSocket.readCipher
              frame.1 = (.ok plaintext, ⟨s.world.noiseSocket.read.counter + 1⟩) := by
            rw [h.readCipher, ReadHalf.decryptFrame, if_neg hmax, decryptFrame,
              hwire.decrypt_encrypt _ _ _ hencrypt]
          refine ⟨n, ns, ps, fs, _, rfl, ?_, ?_, hrest, hns, ?_⟩
          · simp only [frameNode, NoiseSocket.decryptFrame, hdecrypt, ReaderEnv.frameEnv,
              hunpack, hparse]
          · simp only [NoiseSocket.decryptFrame, hdecrypt]
          · rw [List.append_assoc]
            exact hbytes

/-- A frame is handled as its node is. -/
theorem Follows.handle (h : Follows env wire decoder missing s t) (hwire : wire.Lawful)
    (hdecode : decoder.decodeFrame s.decoder = some (frame, d))
    {outcome : FrameOutcome} {w : FrameWorld}
    (hprocess : processIncomingFrame env.frameEnv frame s.world = (outcome, w)) :
    ∃ n ns, t.nodes = n :: ns ∧ (processNode env.frameEnv n t.world).1 = outcome ∧
      ∀ phase, ¬ ReaderPhase.Idle phase →
        Follows env wire decoder missing { s with decoder := d, world := w, phase := phase }
          ⟨ns, phase.waiting, (processNode env.frameEnv n t.world).2⟩ := by
  obtain ⟨n, ns, ps, fs, counter, hnodes, hnode, hsocket, henc, hmarshals, hbytes⟩ :=
    h.next hwire hdecode
  have hworld : { s.world with noiseSocket := (s.world.noiseSocket.decryptFrame frame).2 } =
      t.world.withRead ⟨counter⟩ (s.world.noiseSocket.decrypted ++ [frame]) := by
    rw [hsocket, h.world]
    rfl
  rw [processIncomingFrame_eq] at hprocess
  simp only [hnode, hworld, processNode_withRead] at hprocess
  obtain ⟨hout, rfl⟩ := Prod.mk.inj hprocess
  refine ⟨n, ns, hnodes, hout, fun phase hbusy => ⟨rfl, ?_, ⟨ps, fs, henc, hmarshals, hbytes⟩, rfl,
    fun hidle => absurd hidle hbusy⟩⟩
  show (processNode env.frameEnv n t.world).2.noiseSocket.readCipher = wire
  rw [processNode_readCipher, ← h.world.readCipher, h.readCipher]

/-- What the reader of the wire does is what is seen of it. -/
theorem Follows.step (h : Follows env wire decoder missing s t) (hwire : wire.Lawful)
    {ns : List Node} {w : FrameWorld} {a : ReaderAction}
    (hstep : ReaderStep env.frameEnv decoder s a s') :
    ∃ t', (nodeReader env.frameEnv ns w).Steps t a.seen t' ∧
      Follows env wire decoder missing s' t' := by
  obtain ⟨ps, fs, henc, hmarshals, hbytes⟩ := h.left
  have hwaiting (phase : ReaderPhase) (hphase : s.phase = phase) : t.waiting = phase.waiting := by
    rw [h.waiting, hphase]
  have hselecting (hphase : s.phase = .selecting) :
      frameCode.Incomplete (decoder.buffered s.decoder) := h.idle (by rw [hphase]; trivial)
  cases hstep with
  | connected hphase hevents =>
      rw [hevents] at hbytes
      exact ⟨t, .refl, h.world, h.readCipher, ⟨ps, fs, henc, hmarshals, hbytes⟩, h.waiting, h.idle⟩
  | @dataReceived data rest hphase hevents =>
      refine ⟨t, .refl, h.world, h.readCipher, ⟨ps, fs, henc, hmarshals, ?_⟩,
        hwaiting .selecting hphase, False.elim⟩
      rw [← hbytes, hevents, decoder.buffered_feed, receivedBytes_dataReceived]
      simp only [List.append_assoc]
  | disconnected hphase hevents =>
      rw [hevents] at hbytes
      exact ⟨t, .refl, h.world, h.readCipher, ⟨ps, fs, henc, hmarshals, hbytes⟩,
        hwaiting .selecting hphase, fun _ => hselecting hphase⟩
  | processed hphase hdecode hprocess =>
      obtain ⟨n, ns, hnodes, hout, hfollows⟩ := h.handle hwire hdecode hprocess
      refine ⟨_, .single (.handle (hwaiting .draining hphase) hnodes (Prod.ext hout rfl)), ?_⟩
      rw [hwaiting .draining hphase, hphase]
      exact hfollows .draining id
  | failed hphase hdecode hprocess =>
      obtain ⟨n, ns, -, hout, -⟩ := h.handle hwire hdecode hprocess
      exact absurd hout (processNode_ne_error _)
  | @waits _ _ _ m hphase hdecode hprocess =>
      obtain ⟨n, ns, hnodes, hout, hfollows⟩ := h.handle hwire hdecode hprocess
      exact ⟨_, .single (.waits (hwaiting .draining hphase) hnodes (Prod.ext hout rfl)),
        hfollows (.broadcasting m) id⟩
  | drained hphase hdecode =>
      exact ⟨t, .refl, h.world, h.readCipher, ⟨ps, fs, henc, hmarshals, hbytes⟩,
        hwaiting .draining hphase, fun _ => decoder.decodeFrame_none hdecode⟩
  | @broadcast n hphase hroom =>
      rw [h.world.events] at hroom
      exact ⟨_, .single (.broadcast (hwaiting (.broadcasting n) hphase) hroom),
        h.world.announce _, h.readCipher, ⟨ps, fs, henc, hmarshals, hbytes⟩, rfl, False.elim⟩
  | quit hphase =>
      exact ⟨t, .refl, h.world, h.readCipher, ⟨ps, fs, henc, hmarshals, hbytes⟩,
        hwaiting .selecting hphase, fun _ => hselecting hphase⟩
  | @others u hacts =>
      rw [h.world.events] at hacts
      exact ⟨_, .single (.others hacts), h.world.changeTo u, h.readCipher,
        ⟨ps, fs, henc, hmarshals, hbytes⟩, h.waiting, h.idle⟩

omit [WacoreBinary] in
/-- Nothing is left to handle once every byte was processed. -/
theorem Follows.nodes_eq_nil (h : Follows env wire decoder [] s t) (hidle : s.phase.Idle)
    (hevents : receivedBytes s.events = []) : t.nodes = [] := by
  obtain ⟨ps, fs, henc, hmarshals, hbytes⟩ := h.left
  rw [hevents, List.append_nil, List.append_nil] at hbytes
  cases henc with
  | nil => exact List.forall₂_nil_right_iff.mp hmarshals
  | @cons _ _ frame _ fs _ _ _ => exact absurd hbytes (h.idle hidle frame _)

end Steps

section Connection

variable {env : ReaderEnv} {wire writer : Wire} {decoder : FrameDecoder} {x : XxHandshake}
  {ns : List Node} {ps : List Bytes} {fs : List Payload}

/-- Reading what `connect_once` leaves is handling its nodes. -/
theorem wireReader_simulates (hwire : wire.Lawful) {events rest : List TransportEvent}
    {missing : Bytes} {w : FrameWorld}
    (hconnect : connectOnce decoder x events = .ok ((writer, wire), rest))
    (henc : Encrypts wire 0 ps fs) (hmarshals : List.Forall₂ env.Marshals ns ps)
    (hbytes : receivedBytes rest ++ missing = frameCode.encodeAll fs) :
    (wireReader env.frameEnv decoder x events w).Simulates
      (nodeReader env.frameEnv ns (w.connected writer wire)) (Follows env wire decoder missing)
      ReaderAction.seen where
  init := by
    rintro s ⟨ciphers, rest', hconnect', rfl⟩
    rw [hconnect] at hconnect'
    cases hconnect'
    refine ⟨_, rfl, rfl, rfl, ⟨ps, fs, henc, hmarshals, ?_⟩, rfl, fun _ => ?_⟩
    · rw [decoder.buffered_new]
      exact hbytes
    · rw [decoder.buffered_new]
      exact Code.incomplete_nil
  step _ _ _ _ hfollows hstep := hfollows.step hwire hstep

/-- A run of the reader on what a read pump put is a run of a reader that is given the
nodes. -/
theorem follows_of_run (hwire : wire.Lawful) {first : Payload}
    (hhello : sendClientHello x = .ok ()) (hfinish : finishHandshake x first = .ok (writer, wire))
    (henc : Encrypts wire 0 ps fs) (hmarshals : List.Forall₂ env.Marshals ns ps)
    {ws : Nat → WsItem}
    (hstream : ∀ k, GoesOn ws k →
      (payloads ws k).flatten <+: frameCode.encode first ++ frameCode.encodeAll fs)
    (hends : ∀ k, GoesOn ws k → frameCode.encode first <+: (payloads ws k).flatten →
      EndsChunk first (payloads ws k))
    {p : PumpState} (hpump : (readPump ws).Reachable p) {events : List TransportEvent}
    (hevents : events <+: p.put) {w : FrameWorld} {as : List ReaderAction}
    {s : ReaderState decoder.State}
    (hrun : (wireReader env.frameEnv decoder x events w).Run as s) :
    ∃ missing t, (nodeReader env.frameEnv ns (w.connected writer wire)).Run
        (as.flatMap ReaderAction.seen) t ∧
      Follows env wire decoder missing s t ∧
      (receivedBytes events = frameCode.encode first ++ frameCode.encodeAll fs → missing = []) := by
  obtain ⟨bs, hpump⟩ := hpump
  obtain ⟨s₀, ⟨ciphers, rest, hconnect, -⟩, -⟩ := id hrun
  rcases prefix_of_put (pumpInv_of_run hpump) hevents with
    rfl | ⟨k, chunks, tail, hgoes, hchunks, htail, rfl⟩
  · cases hconnect
  · obtain ⟨hciphers, received, rfl, ⟨missing, hmissing⟩, hflatten⟩ :=
      connectOnce_leaves ⟨hhello, _, hfinish⟩ (hstream k hgoes) (hends k hgoes) hchunks htail
        hconnect
    rw [hfinish] at hciphers
    cases hciphers
    have hreceived : receivedBytes (received.map .dataReceived ++ tail) = received.flatten :=
      receivedBytes_deliver htail
    rw [← hreceived] at hmissing
    obtain ⟨t, hnodes, hfollows⟩ :=
      (wireReader_simulates hwire hconnect henc hmarshals hmissing).run hrun
    refine ⟨missing, t, hnodes, hfollows, fun hall => ?_⟩
    rw [receivedBytes_deliver htail, hflatten, ← hreceived, ← hmissing] at hall
    simpa using hall

/-- In every run of the read pump and of the reader: reading the wire is handling the nodes of
the server in order, and all of them were handled once all bytes were received and processed. -/
theorem wire_transparent (hwire : wire.Lawful) {first : Payload}
    (hhello : sendClientHello x = .ok ()) (hfinish : finishHandshake x first = .ok (writer, wire))
    (henc : Encrypts wire 0 ps fs) (hmarshals : List.Forall₂ env.Marshals ns ps)
    {ws : Nat → WsItem}
    (hstream : ∀ k, GoesOn ws k →
      (payloads ws k).flatten <+: frameCode.encode first ++ frameCode.encodeAll fs)
    (hends : ∀ k, GoesOn ws k → frameCode.encode first <+: (payloads ws k).flatten →
      EndsChunk first (payloads ws k))
    {p : PumpState} (hpump : (readPump ws).Reachable p) {events : List TransportEvent}
    (hevents : events <+: p.put) {w : FrameWorld} {as : List ReaderAction}
    {s : ReaderState decoder.State}
    (hrun : (wireReader env.frameEnv decoder x events w).Run as s) :
    ∃ t, (nodeReader env.frameEnv ns (w.connected writer wire)).Run
        (as.flatMap ReaderAction.seen) t ∧
      s.world.SameButRead t.world ∧ t.waiting = s.phase.waiting ∧
      (receivedBytes events = frameCode.encode first ++ frameCode.encodeAll fs →
        receivedBytes s.events = [] → s.phase.Idle → t.nodes = []) := by
  obtain ⟨missing, t, hnodes, hfollows, hmissing⟩ :=
    follows_of_run hwire hhello hfinish henc hmarshals hstream hends hpump hevents hrun
  refine ⟨t, hnodes, hfollows.world, hfollows.waiting, fun hall hleft hidle => ?_⟩
  rw [hmissing hall] at hfollows
  exact hfollows.nodes_eq_nil hidle hleft

def logoutNode : Node := .mk "failure" [] none

/-- The first plaintext of the stream that is cut is the node, and the other a `failure`. -/
def cutEnv (n : Node) : ReaderEnv where
  unpackBytes := .ok
  parseNode plaintext := .ok (if plaintext = [5] then n else logoutNode)
  writeNode _ socket _ := (.ok (), socket)

omit [WacoreBinary] in
theorem cutEnv_marshals (n : Node) :
    List.Forall₂ (cutEnv n).Marshals [n, logoutNode] [[5], [8]] :=
  .cons ⟨_, rfl, rfl⟩ (.cons ⟨_, rfl, rfl⟩ .nil)

/-- A frame with a node that is neither acknowledged nor waited for. -/
theorem cutEnv_frame {n m : Node} {w : FrameWorld} {frame : Payload} {plaintext : Bytes}
    {read : ReadHalf} {logout : Bool}
    (hdecrypt : w.noiseSocket.read.decryptFrame w.noiseSocket.readCipher frame.1 =
      (.ok plaintext, read))
    (hparse : (if plaintext = [5] then n else logoutNode) = m)
    (hroute : routeNode m = ⟨false, none, none, logout⟩) :
    processIncomingFrame (cutEnv n).frameEnv frame w =
      ((w.withRead read (w.noiseSocket.decrypted ++ [frame])).markLoggedOut logout).broadcastNode
        m := by
  simp only [processIncomingFrame, NoiseSocket.decryptFrame, hdecrypt, cutEnv,
    ReaderEnv.frameEnv, hparse]
  rw [processNode_eq_route, hroute]
  rfl

/-- A world with a receiver, in whose channel there is room for one event. -/
def listeningWorld : FrameWorld := ⟨.new shiftWire shiftWire, .new 1, ∅, false, [], []⟩

omit [WacoreBinary] in
/-- The whole stream is read; the second node waits until the receiver takes the first. -/
theorem cutItems_read {n : Node}
    (hn : letI := plainWacore; routeNode n = ⟨false, none, none, false⟩) :
    letI := plainWacore
    ∃ p u s, (readPump cutItems).Reachable p ∧
      receivedBytes p.put =
        frameCode.encode (bytePayload 1) ++ frameCode.encodeAll cutFrames ∧
      (wireReader (cutEnv n).frameEnv bufferDecoder plainHandshake p.put listeningWorld).Run
        [.take, .drained, .take, .frame, .drained, .take, .frame, .others u, .broadcast, .drained]
        s ∧
      s.events = [] ∧ s.phase = .selecting ∧ s.world.loggedOut = true ∧
      s.world.events.receivers = [⟨0, [.node n], [.node logoutNode]⟩] := by
  let _ := plainWacore
  obtain ⟨p, hpump, hput⟩ := cutItems_put
  have hinit : (wireReader (cutEnv n).frameEnv bufferDecoder plainHandshake p.put
      listeningWorld).init
      ⟨[.dataReceived [0, 0], .dataReceived [1, 5, 0], .dataReceived [0, 1, 9]], ([] : Bytes),
        .selecting, listeningWorld⟩ := by
    rw [hput]
    exact ⟨(shiftWire, shiftWire), _, rfl, rfl⟩
  have h0 := System.Run.start hinit
  have h1 := h0.tail (.dataReceived rfl rfl)
  have h2 := h1.tail (.drained rfl rfl)
  have h3 := h2.tail (.dataReceived rfl rfl)
  obtain ⟨d, hframe, hd⟩ := Decoder.decodeFrame_of_buffered (D := bufferDecoder)
    (show bufferDecoder.buffered (bufferDecoder.feed [0, 0] [1, 5, 0]) =
      frameCode.encode (bytePayload 5) ++ [0] from rfl)
  obtain rfl : d = ([0] : Bytes) := hd
  have hprocess : processIncomingFrame (cutEnv n).frameEnv (bytePayload 5) listeningWorld =
      (.returned (.ok ()), (listeningWorld.announce (.node n)).withRead ⟨1⟩ [bytePayload 5]) :=
    cutEnv_frame (m := n) (show ReadHalf.decryptFrame shiftWire ⟨0⟩ [5] = (.ok [5], ⟨1⟩) from rfl)
      rfl hn
  have h4 := h3.tail (.processed rfl hframe hprocess)
  have h5 := h4.tail (.drained rfl rfl)
  have h6 := h5.tail (.dataReceived rfl rfl)
  obtain ⟨d, hframe, hd⟩ := Decoder.decodeFrame_of_buffered (D := bufferDecoder)
    (show bufferDecoder.buffered (bufferDecoder.feed [0] [0, 1, 9]) =
      frameCode.encode (bytePayload 9) ++ [] from rfl)
  obtain rfl : d = ([] : Bytes) := hd
  have hwaits : processIncomingFrame (cutEnv n).frameEnv (bytePayload 9)
      ((listeningWorld.announce (.node n)).withRead ⟨1⟩ [bytePayload 5]) =
        (.waiting logoutNode, ((listeningWorld.announce (.node n)).withRead ⟨2⟩
          [bytePayload 5, bytePayload 9]).markLoggedOut true) :=
    cutEnv_frame (m := logoutNode)
      (show ReadHalf.decryptFrame shiftWire ⟨1⟩ [9] = (.ok [8], ⟨2⟩) from rfl) rfl rfl
  have h7 := h6.tail (.waits rfl hframe hwaits)
  have h8 := h7.tail (.others (u := { listeningWorld with
    events := (listeningWorld.events.tryBroadcast (.node n)).recv 0, loggedOut := true }) .recv)
  have h9 := h8.tail (.broadcast rfl (.inl rfl))
  have h10 := h9.tail (.drained rfl rfl)
  exact ⟨p, _, _, hpump, by rw [hput]; rfl, h10, rfl, rfl, rfl, rfl⟩

/-- A message. -/
def messageNode : Node := .mk "message" [] none

omit [WacoreBinary] in
theorem wire_transparent_cut :
    letI := plainWacore
    ∃ u t, (nodeReader (cutEnv messageNode).frameEnv [messageNode, logoutNode]
        (listeningWorld.connected shiftWire shiftWire)).Run
          [.handle, .handle, .others u, .broadcast] t ∧
      t.nodes = [] ∧ t.waiting = none ∧ t.world.loggedOut = true := by
  let _ := plainWacore
  obtain ⟨p, u, s, hpump, hbytes, hrun, hevents, hphase, hlogout, -⟩ :=
    cutItems_read (n := messageNode) rfl
  obtain ⟨t, hnodes, hworld, hwaiting, hall⟩ := wire_transparent shiftWire_lawful rfl rfl
    cutItems_encrypts (cutEnv_marshals messageNode) cutItems_stream cutItems_ends hpump
    List.prefix_rfl hrun
  refine ⟨u, t, hnodes, hall hbytes ?_ ?_, ?_, ?_⟩
  · rw [hevents]
    rfl
  · rw [hphase]
    trivial
  · rw [hwaiting, hphase]
    rfl
  · rw [hworld] at hlogout
    exact hlogout

end Connection

end Waepic.Connection
