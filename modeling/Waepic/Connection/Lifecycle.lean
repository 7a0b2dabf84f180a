import Waepic.Connection.Runner
import Waepic.Connection.Handshake
import Waepic.Connection.SecureChannel

/-!
# Connections of a runner

`ConnectionRunner::run` with what it shares: the transport, the socket and the
event channel of the current connection, each behind a mutex of its own, and the
flag `is_connected`.  `connect_once` fills them one after the other, `read_loop`
copies them to its locals one after the other, and `cleanup_connection` clears
them one after the other; each of these is a step.

Transports, event channels and sockets are named by the number of the attempt
that made them.  Names are copied from locals to mutexes and back; what a name
stands for is in `links` and `sockets`.

`arrive` and `close` are steps of the network and `abort` drops the future of
`run`; all others are the runner's.
-/

namespace Waepic.Connection

open Transition Binary

/-! ## Transports and sockets -/

/-- A transport and its event channel. -/
structure Link where
  /-- The frames handed to `Transport::send`, newest first. -/
  sent : List Bytes
  /-- The events in the channel, oldest first. -/
  pending : List TransportEvent
  closed : Bool
  /-- The events that a read loop has taken, oldest first. -/
  received : List TransportEvent

def Link.new : Link where
  sent := []
  pending := []
  closed := false
  received := []

structure NoiseSocket where
  writeCipher : Wire
  readCipher : Wire
  write : SocketState
  read : ReadHalf
  /-- The frames given to `decrypt_frame`, oldest first. -/
  decrypted : List Payload

/-- `NoiseSocket::new`. -/
def NoiseSocket.new (writeCipher readCipher : Wire) : NoiseSocket where
  writeCipher := writeCipher
  readCipher := readCipher
  write := .new
  read := ⟨0⟩
  decrypted := []

/-- `NoiseSocket::decrypt_frame`. -/
def NoiseSocket.decryptFrame (socket : NoiseSocket) (frame : Payload) :
    Result Bytes × NoiseSocket :=
  let r := socket.read.decryptFrame socket.readCipher frame.1
  (r.1, { socket with read := r.2, decrypted := socket.decrypted ++ [frame] })

/-- The encoding of nodes, as wacore provides it. -/
structure NodeCodec where
  marshal : Node → Except String Bytes
  /-- `unpack_bytes` and `OwnedNodeRef::new`. -/
  unpack : Bytes → Except String Node

/-- The keepalive. -/
def pingNode : Node :=
  .mk "iq" [("to", .string "s.whatsapp.net"), ("xmlns", .string "w:p"), ("type", .string "get")]
    none

/-! ## Where the runner is -/

/-- The values that `connect_once` stores, in its order. -/
inductive SharedValue where
  | transport
  | noiseSocket
  | transportEvents
  | isConnected
deriving DecidableEq, Repr

/-- Where `connect_once` is, with its locals. -/
inductive ConnectStage (State : Type) where
  /-- The device is loaded and the transport created. -/
  | creating
  /-- At the first event. -/
  | created (transport events : Nat)
  | hello (transport events : Nat)
  /-- In `recv_handshake_frame`. -/
  | receiving (transport events : Nat) (decoder : State)
  | responding (transport events : Nat) (respFrame : Payload)
  /-- `next` is stored next. -/
  | storing (transport noiseSocket events : Nat) (next : SharedValue)

/-- Where `read_loop` is before its loop, with its locals. -/
inductive StartStage where
  | transport
  | noiseSocket (transport : Nat)
  | transportEvents (transport noiseSocket : Nat)

/-- The locals of the loop of `read_loop`. -/
structure ReadLocals (State : Type) where
  transport : Nat
  noiseSocket : Nat
  transportEvents : Nat
  decoder : State

/-- Why a node is sent. -/
inductive SendKind where
  | command
  | keepalive
  /-- It acknowledges this frame. -/
  | ack (n : Node)

inductive LoopStage where
  | select
  /-- At `decode_frame`. -/
  | draining
  /-- In `handle_send_node`, before `encrypt_and_send`. -/
  | marshalling (n : Node) (kind : SendKind)
  /-- In the call `c` of `encrypt_and_send`. -/
  | sending (c : SenderId) (kind : SendKind)
  /-- Broadcasting a frame. -/
  | routing (n : Node)

/-- Where the loop is once the node is sent. -/
def SendKind.after : SendKind → LoopStage
  | .command => .select
  | .keepalive => .select
  | .ack n => .routing n

/-- What `cleanup_connection` does next. -/
inductive CleanupStage where
  | waiters
  | transport
  | noiseSocket
  | transportEvents

inductive LifecyclePhase (State : Type) where
  /-- At the top of the loop of `run`. -/
  | top
  | connecting (stage : ConnectStage State)
  /-- `connect_once` has returned an error. -/
  | connectFailed
  | starting (stage : StartStage)
  | looping (locals : ReadLocals State) (stage : LoopStage)
  /-- `read_loop` has returned. -/
  | leaving (r : Result Unit)
  | cleaning (r : Result Unit) (stage : CleanupStage)
  | ending (r : Result Unit)
  | delaying
  | stopped

structure LifecycleState (State : Type) where
  phase : LifecyclePhase State
  /-- The number of the attempts to connect. -/
  attempt : Nat
  loggedOut : Bool
  transport : Option Nat
  noiseSocket : Option Nat
  transportEvents : Option Nat
  isConnected : Bool
  links : Nat → Link
  sockets : Nat → Option NoiseSocket

def LifecycleState.new {State : Type} : LifecycleState State where
  phase := .top
  attempt := 0
  loggedOut := false
  transport := none
  noiseSocket := none
  transportEvents := none
  isConnected := false
  links := fun _ => .new
  sockets := fun _ => none

namespace LifecycleState

variable {State : Type} (s : LifecycleState State)

def setPhase (phase : LifecyclePhase State) : LifecycleState State := { s with phase := phase }

def modifyLink (k : Nat) (f : Link → Link) : LifecycleState State :=
  { s with links := Function.update s.links k (f (s.links k)) }

def setSocket (k : Nat) (socket : NoiseSocket) : LifecycleState State :=
  { s with sockets := Function.update s.sockets k (some socket) }

/-- `transport.send(framed)`. -/
def handOver (k : Nat) (framed : Bytes) : LifecycleState State :=
  s.modifyLink k fun link => { link with sent := framed :: link.sent }

/-- The handshake takes an event out of its channel, and `rest` stays. -/
def take (k : Nat) (rest : List TransportEvent) : LifecycleState State :=
  s.modifyLink k fun link => { link with pending := rest }

/-- A read loop takes an event out of its channel, and `rest` stays. -/
def receive (k : Nat) (e : TransportEvent) (rest : List TransportEvent) : LifecycleState State :=
  s.modifyLink k fun link => { link with pending := rest, received := link.received ++ [e] }

/-- After a failure `run` returns if it may not reconnect. -/
def retryOrStop (config : ConnectionConfig) : LifecycleState State :=
  s.setPhase (if !config.autoReconnect || s.loggedOut then .stopped else .delaying)

end LifecycleState

/-- A step of the call `c` between its start and its end, the hand-over apart.
Only a keepalive is dropped, by its timer. -/
def SendKind.Allows (kind : SendKind) (c : SenderId) : SocketAction → Prop
  | .lock d | .exhausted d | .rejected d _ | .sent d | .sendFailed d _ => d = c
  | .cancelWaiting d | .cancelSending d => d = c ∧ kind = .keepalive
  | .call _ _ | .handOver _ => False

/-! ## Steps -/

inductive LifecycleAction where
  | arrive (k : Nat) (e : TransportEvent)
  | close (k : Nat)
  | run
  | abort
deriving DecidableEq, Repr

/-- `connect_once`, with the handshake `x`. -/
inductive ConnectOnceStep (decoder : FrameDecoder) (x : XxHandshake) :
    LifecycleState decoder.State → LifecycleState decoder.State → Prop where
  /-- There is no device, or no transport. -/
  | createFailed {s : LifecycleState decoder.State} :
      s.phase = .connecting .creating →
      ConnectOnceStep decoder x s (s.setPhase .connectFailed)
  | created {s : LifecycleState decoder.State} :
      s.phase = .connecting .creating →
      ConnectOnceStep decoder x s
        (s.setPhase (.connecting (.created s.attempt s.attempt)))
  | firstEvent {s : LifecycleState decoder.State} {t e : Nat} {event : TransportEvent}
      {rest : List TransportEvent} :
      s.phase = .connecting (.created t e) → (s.links e).pending = event :: rest →
      event ≠ .disconnected →
      ConnectOnceStep decoder x s
        ((s.take e rest).setPhase (.connecting (.hello t e)))
  | firstDisconnected {s : LifecycleState decoder.State} {t e : Nat}
      {rest : List TransportEvent} :
      s.phase = .connecting (.created t e) → (s.links e).pending = .disconnected :: rest →
      ConnectOnceStep decoder x s ((s.take e rest).setPhase .connectFailed)
  | firstClosed {s : LifecycleState decoder.State} {t e : Nat} :
      s.phase = .connecting (.created t e) → (s.links e).pending = [] →
      (s.links e).closed = true →
      ConnectOnceStep decoder x s (s.setPhase .connectFailed)
  | helloFailed {s : LifecycleState decoder.State} {t e : Nat} {err : ConnectionError} :
      s.phase = .connecting (.hello t e) →
      clientHelloFrame x = .error err →
      ConnectOnceStep decoder x s (s.setPhase .connectFailed)
  | helloRefused {s : LifecycleState decoder.State} {t e : Nat} {framed : Bytes}
      {err : ConnectionError} :
      s.phase = .connecting (.hello t e) →
      clientHelloFrame x = .ok framed →
      sendClientHello x = .error err →
      ConnectOnceStep decoder x s
        ((s.handOver t framed).setPhase .connectFailed)
  | helloSent {s : LifecycleState decoder.State} {t e : Nat} {framed : Bytes} :
      s.phase = .connecting (.hello t e) →
      clientHelloFrame x = .ok framed →
      sendClientHello x = .ok () →
      ConnectOnceStep decoder x s
        ((s.handOver t framed).setPhase (.connecting (.receiving t e decoder.new)))
  /-- A chunk that completes no frame. -/
  | handshakeChunk {s : LifecycleState decoder.State} {t e : Nat} {d : decoder.State}
      {data : Bytes} {rest : List TransportEvent} :
      s.phase = .connecting (.receiving t e d) →
      (s.links e).pending = .dataReceived data :: rest →
      decoder.decodeFrame (decoder.feed d data) = none →
      ConnectOnceStep decoder x s
        ((s.take e rest).setPhase (.connecting (.receiving t e (decoder.feed d data))))
  | handshakeFrame {s : LifecycleState decoder.State} {t e : Nat} {d d' : decoder.State}
      {data : Bytes} {rest : List TransportEvent} {respFrame : Payload} :
      s.phase = .connecting (.receiving t e d) →
      (s.links e).pending = .dataReceived data :: rest →
      decoder.decodeFrame (decoder.feed d data) = some (respFrame, d') →
      ConnectOnceStep decoder x s
        ((s.take e rest).setPhase (.connecting (.responding t e respFrame)))
  | handshakeConnected {s : LifecycleState decoder.State} {t e : Nat} {d : decoder.State}
      {rest : List TransportEvent} :
      s.phase = .connecting (.receiving t e d) → (s.links e).pending = .connected :: rest →
      ConnectOnceStep decoder x s (s.take e rest)
  | handshakeDisconnected {s : LifecycleState decoder.State} {t e : Nat} {d : decoder.State}
      {rest : List TransportEvent} :
      s.phase = .connecting (.receiving t e d) → (s.links e).pending = .disconnected :: rest →
      ConnectOnceStep decoder x s ((s.take e rest).setPhase .connectFailed)
  /-- The channel is closed, or no event comes in time. -/
  | handshakeTimeout {s : LifecycleState decoder.State} {t e : Nat} {d : decoder.State} :
      s.phase = .connecting (.receiving t e d) → (s.links e).pending = [] →
      ConnectOnceStep decoder x s (s.setPhase .connectFailed)
  | finishFailed {s : LifecycleState decoder.State} {t e : Nat} {respFrame : Payload}
      {err : ConnectionError} :
      s.phase = .connecting (.responding t e respFrame) →
      clientFinishFrame x respFrame = .error err →
      ConnectOnceStep decoder x s (s.setPhase .connectFailed)
  /-- The send fails, or wacore finds no keys. -/
  | finishRefused {s : LifecycleState decoder.State} {t e : Nat} {respFrame : Payload}
      {framed : Bytes} {err : ConnectionError} :
      s.phase = .connecting (.responding t e respFrame) →
      clientFinishFrame x respFrame = .ok framed →
      finishHandshake x respFrame = .error err →
      ConnectOnceStep decoder x s
        ((s.handOver t framed).setPhase .connectFailed)
  | finished {s : LifecycleState decoder.State} {t e : Nat} {respFrame : Payload}
      {framed : Bytes} {ciphers : Wire × Wire} :
      s.phase = .connecting (.responding t e respFrame) →
      clientFinishFrame x respFrame = .ok framed →
      finishHandshake x respFrame = .ok ciphers →
      ConnectOnceStep decoder x s
        (((s.handOver t framed).setSocket s.attempt (.new ciphers.1 ciphers.2)).setPhase
          (.connecting (.storing t s.attempt e .transport)))
  | storeTransport {s : LifecycleState decoder.State} {t j e : Nat} :
      s.phase = .connecting (.storing t j e .transport) →
      ConnectOnceStep decoder x s
        { s with transport := some t, phase := .connecting (.storing t j e .noiseSocket) }
  | storeNoiseSocket {s : LifecycleState decoder.State} {t j e : Nat} :
      s.phase = .connecting (.storing t j e .noiseSocket) →
      ConnectOnceStep decoder x s
        { s with noiseSocket := some j, phase := .connecting (.storing t j e .transportEvents) }
  | storeTransportEvents {s : LifecycleState decoder.State} {t j e : Nat} :
      s.phase = .connecting (.storing t j e .transportEvents) →
      ConnectOnceStep decoder x s
        { s with transportEvents := some e, phase := .connecting (.storing t j e .isConnected) }
  | storeIsConnected {s : LifecycleState decoder.State} {t j e : Nat} :
      s.phase = .connecting (.storing t j e .isConnected) →
      ConnectOnceStep decoder x s
        { s with isConnected := true, phase := .starting .transport }

/-- `read_loop`. -/
inductive ReadLoopStep [WacoreBinary] (codec : NodeCodec) (decoder : FrameDecoder) :
    LifecycleState decoder.State → LifecycleState decoder.State → Prop where
  | loadTransport {s : LifecycleState decoder.State} :
      s.phase = .starting .transport →
      ReadLoopStep codec decoder s
        (s.setPhase (match s.transport with
          | some t => .starting (.noiseSocket t)
          | none => .leaving (.error (.protocol "transport not set in read loop"))))
  | loadNoiseSocket {s : LifecycleState decoder.State} {t : Nat} :
      s.phase = .starting (.noiseSocket t) →
      ReadLoopStep codec decoder s
        (s.setPhase (match s.noiseSocket with
          | some j => .starting (.transportEvents t j)
          | none => .leaving (.error (.protocol "noise_socket not set in read loop"))))
  | takeTransportEvents {s : LifecycleState decoder.State} {t j : Nat} :
      s.phase = .starting (.transportEvents t j) →
      ReadLoopStep codec decoder s
        { s with
          transportEvents := none
          phase := match s.transportEvents with
            | some e => .looping ⟨t, j, e, decoder.new⟩ .select
            | none => .leaving (.error (.protocol "transport_events not set in read loop")) }
  | data {s : LifecycleState decoder.State} {l : ReadLocals decoder.State} {data : Bytes}
      {rest : List TransportEvent} :
      s.phase = .looping l .select →
      (s.links l.transportEvents).pending = .dataReceived data :: rest →
      ReadLoopStep codec decoder s
        ((s.receive l.transportEvents (.dataReceived data) rest).setPhase
          (.looping { l with decoder := decoder.feed l.decoder data } .draining))
  | reconnected {s : LifecycleState decoder.State} {l : ReadLocals decoder.State}
      {rest : List TransportEvent} :
      s.phase = .looping l .select →
      (s.links l.transportEvents).pending = .connected :: rest →
      ReadLoopStep codec decoder s
        (s.receive l.transportEvents .connected rest)
  | disconnected {s : LifecycleState decoder.State} {l : ReadLocals decoder.State}
      {rest : List TransportEvent} :
      s.phase = .looping l .select →
      (s.links l.transportEvents).pending = .disconnected :: rest →
      ReadLoopStep codec decoder s
        ((s.receive l.transportEvents .disconnected rest).setPhase
          (.leaving (.error (.socket "disconnected"))))
  | closed {s : LifecycleState decoder.State} {l : ReadLocals decoder.State} :
      s.phase = .looping l .select → (s.links l.transportEvents).pending = [] →
      (s.links l.transportEvents).closed = true →
      ReadLoopStep codec decoder s
        (s.setPhase (.leaving (.error (.socket "transport event channel closed"))))
  /-- A disconnect command, or the command channel is closed. -/
  | disconnect {s : LifecycleState decoder.State} {l : ReadLocals decoder.State} :
      s.phase = .looping l .select →
      ReadLoopStep codec decoder s (s.setPhase (.leaving (.ok ())))
  | command {s : LifecycleState decoder.State} {l : ReadLocals decoder.State} {n : Node} :
      s.phase = .looping l .select →
      ReadLoopStep codec decoder s
        (s.setPhase (.looping l (.marshalling n .command)))
  | keepalive {s : LifecycleState decoder.State} {l : ReadLocals decoder.State} :
      s.phase = .looping l .select →
      ReadLoopStep codec decoder s
        (s.setPhase (.looping l (.marshalling pingNode .keepalive)))
  | drained {s : LifecycleState decoder.State} {l : ReadLocals decoder.State} :
      s.phase = .looping l .draining → decoder.decodeFrame l.decoder = none →
      ReadLoopStep codec decoder s (s.setPhase (.looping l .select))
  /-- A frame that is not a node. -/
  | frameRefused {s : LifecycleState decoder.State} {l : ReadLocals decoder.State}
      {frame : Payload} {d : decoder.State} {socket : NoiseSocket} :
      s.phase = .looping l .draining → decoder.decodeFrame l.decoder = some (frame, d) →
      s.sockets l.noiseSocket = some socket →
      (∀ plaintext n, (socket.decryptFrame frame).1 = .ok plaintext →
        codec.unpack plaintext ≠ .ok n) →
      ReadLoopStep codec decoder s
        ((s.setSocket l.noiseSocket (socket.decryptFrame frame).2).setPhase
          (.looping { l with decoder := d } .draining))
  | frame {s : LifecycleState decoder.State} {l : ReadLocals decoder.State}
      {frame : Payload} {d : decoder.State} {socket : NoiseSocket} {plaintext : Bytes} {n : Node} :
      s.phase = .looping l .draining → decoder.decodeFrame l.decoder = some (frame, d) →
      s.sockets l.noiseSocket = some socket →
      (socket.decryptFrame frame).1 = .ok plaintext → codec.unpack plaintext = .ok n →
      ReadLoopStep codec decoder s
        { s.setSocket l.noiseSocket (socket.decryptFrame frame).2 with
          loggedOut := s.loggedOut || (routeNode n).logout
          phase := .looping { l with decoder := d } (match (routeNode n).ack with
            | some reply => .marshalling reply (.ack n)
            | none => .routing n) }
  | routed {s : LifecycleState decoder.State} {l : ReadLocals decoder.State} {n : Node} :
      s.phase = .looping l (.routing n) →
      ReadLoopStep codec decoder s (s.setPhase (.looping l .draining))
  | marshalFailed {s : LifecycleState decoder.State} {l : ReadLocals decoder.State} {n : Node}
      {kind : SendKind} {err : String} :
      s.phase = .looping l (.marshalling n kind) → codec.marshal n = .error err →
      ReadLoopStep codec decoder s (s.setPhase (.looping l kind.after))
  | call {s : LifecycleState decoder.State} {l : ReadLocals decoder.State} {n : Node}
      {kind : SendKind} {payload : Bytes} {socket : NoiseSocket} {c : SenderId}
      {write : SocketState} :
      s.phase = .looping l (.marshalling n kind) → codec.marshal n = .ok payload →
      s.sockets l.noiseSocket = some socket →
      SocketStep socket.writeCipher socket.write (.call c payload) write →
      ReadLoopStep codec decoder s
        ((s.setSocket l.noiseSocket { socket with write := write }).setPhase
          (.looping l (.sending c kind)))
  | encrypt {s : LifecycleState decoder.State} {l : ReadLocals decoder.State}
      {kind : SendKind} {socket : NoiseSocket} {c : SenderId} {a : SocketAction}
      {write : SocketState} :
      s.phase = .looping l (.sending c kind) → s.sockets l.noiseSocket = some socket →
      kind.Allows c a → SocketStep socket.writeCipher socket.write a write →
      ReadLoopStep codec decoder s
        (s.setSocket l.noiseSocket { socket with write := write })
  | handOver {s : LifecycleState decoder.State} {l : ReadLocals decoder.State}
      {kind : SendKind} {socket : NoiseSocket} {c : SenderId} {write : SocketState}
      {frame : Handed} {older : List Handed} :
      s.phase = .looping l (.sending c kind) → s.sockets l.noiseSocket = some socket →
      SocketStep socket.writeCipher socket.write (.handOver c) write →
      write.handed = frame :: older →
      ReadLoopStep codec decoder s
        ((s.setSocket l.noiseSocket { socket with write := write }).handOver l.transport
          frame.framed)
  | returned {s : LifecycleState decoder.State} {l : ReadLocals decoder.State}
      {kind : SendKind} {socket : NoiseSocket} {c : SenderId} :
      s.phase = .looping l (.sending c kind) → s.sockets l.noiseSocket = some socket →
      socket.write.calls c = none →
      ReadLoopStep codec decoder s (s.setPhase (.looping l kind.after))

/-- What `run` does once `read_loop` has returned: the flag is cleared, and then
`cleanup_connection` clears the mutexes. -/
inductive CleanupStep {State : Type} : LifecycleState State → LifecycleState State → Prop where
  | left {s : LifecycleState State} {r : Result Unit} :
      s.phase = .leaving r →
      CleanupStep s
        { s with isConnected := false, phase := .cleaning r .waiters }
  | drainWaiters {s : LifecycleState State} {r : Result Unit} :
      s.phase = .cleaning r .waiters →
      CleanupStep s (s.setPhase (.cleaning r .transport))
  /-- The transport is taken and disconnected. -/
  | clearTransport {s : LifecycleState State} {r : Result Unit} :
      s.phase = .cleaning r .transport →
      CleanupStep s
        { s with transport := none, phase := .cleaning r .noiseSocket }
  | clearNoiseSocket {s : LifecycleState State} {r : Result Unit} :
      s.phase = .cleaning r .noiseSocket →
      CleanupStep s
        { s with noiseSocket := none, phase := .cleaning r .transportEvents }
  | clearTransportEvents {s : LifecycleState State} {r : Result Unit} :
      s.phase = .cleaning r .transportEvents →
      CleanupStep s
        { s with transportEvents := none, phase := .ending r }

/-- The steps of `run`, one for each stretch between two awaits.  The handshake
of the `k`-th attempt is `handshake k`. -/
inductive LifecycleStep [WacoreBinary] (config : ConnectionConfig) (codec : NodeCodec)
    (decoder : FrameDecoder) (handshake : Nat → XxHandshake) :
    LifecycleState decoder.State → LifecycleAction → LifecycleState decoder.State → Prop where
  | arrive {s : LifecycleState decoder.State} {k : Nat} {e : TransportEvent} :
      k ≤ s.attempt → (s.links k).closed = false →
      LifecycleStep config codec decoder handshake s (.arrive k e)
        (s.modifyLink k fun link => { link with pending := link.pending ++ [e] })
  | close {s : LifecycleState decoder.State} {k : Nat} :
      k ≤ s.attempt →
      LifecycleStep config codec decoder handshake s (.close k)
        (s.modifyLink k fun link => { link with closed := true })
  | loggedOut {s : LifecycleState decoder.State} :
      s.phase = .top → s.loggedOut = true →
      LifecycleStep config codec decoder handshake s .run (s.setPhase .stopped)
  | connect {s : LifecycleState decoder.State} :
      s.phase = .top → s.loggedOut = false →
      LifecycleStep config codec decoder handshake s .run
        { s with phase := .connecting .creating, attempt := s.attempt + 1 }
  | connectOnce {s t : LifecycleState decoder.State} :
      ConnectOnceStep decoder (handshake s.attempt) s t →
      LifecycleStep config codec decoder handshake s .run t
  | connectFailed {s : LifecycleState decoder.State} :
      s.phase = .connectFailed →
      LifecycleStep config codec decoder handshake s .run (s.retryOrStop config)
  | readLoop {s t : LifecycleState decoder.State} :
      ReadLoopStep codec decoder s t → LifecycleStep config codec decoder handshake s .run t
  | cleanup {s t : LifecycleState decoder.State} :
      CleanupStep s t → LifecycleStep config codec decoder handshake s .run t
  | endedOk {s : LifecycleState decoder.State} :
      s.phase = .ending (.ok ()) →
      LifecycleStep config codec decoder handshake s .run (s.setPhase .stopped)
  | endedError {s : LifecycleState decoder.State} {e : ConnectionError} :
      s.phase = .ending (.error e) →
      LifecycleStep config codec decoder handshake s .run (s.retryOrStop config)
  | delayElapsed {s : LifecycleState decoder.State} :
      s.phase = .delaying →
      LifecycleStep config codec decoder handshake s .run (s.setPhase .top)
  /-- The future of `run` is dropped. -/
  | abort {s : LifecycleState decoder.State} :
      LifecycleStep config codec decoder handshake s .abort (s.setPhase .stopped)

/-- The runs of `ConnectionRunner::run`. -/
def lifecycle [WacoreBinary] (config : ConnectionConfig) (codec : NodeCodec)
    (decoder : FrameDecoder) (handshake : Nat → XxHandshake) :
    System (LifecycleState decoder.State) LifecycleAction where
  init s := s = .new
  step := LifecycleStep config codec decoder handshake

end Waepic.Connection
