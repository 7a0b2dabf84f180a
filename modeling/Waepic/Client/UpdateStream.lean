import Waepic.Client.PreKeys
import Waepic.Connection.Waiters

/-!
# The update stream

`read_loop` broadcasts what it reads to a queue of 256 events and waits while
the queue is full; one `run_update_stream` task receives the events and handles
one at a time.  A handler may send, and waits for the answers: after `Connected`
it runs `run_post_connect_init`, which sends up to two nodes and nine IQs.

A handler is a tree of the sends it awaits.  Its calls are calls on the
connection handle like those of any other task.  The stream borrows a handle, so
the handles stay alive.
-/

namespace Waepic.Client

open Transition Binary Connection

/-! ## Handlers -/

/-- What remains of a handler: the next send it awaits, and what follows its
answer. -/
inductive Handler where
  | done
  | sendNode (node : Node) (next : Result (Option Node) → Handler)
  | sendIq (spec : IqSpec) (next : Result (Option Node) → Handler)

/-- Send each request, whatever the responses. -/
def Handler.sendIqs : List IqSpec → Handler
  | [] => .done
  | spec :: specs => .sendIq spec fun _ => sendIqs specs

/-- `APP_STATE_COLLECTIONS`. -/
def appStateCollections : List String :=
  ["critical_block", "critical_unblock_low", "regular_low", "regular_high", "regular"]

/-- What `run_post_connect_init` makes of a stored device that is paired. -/
structure PostConnect where
  unifiedSession : Node
  preKeyCountSpec : IqSpec
  /-- The count in a response. -/
  count : Node → Nat
  /-- The upload of so many new prekeys. -/
  preKeyUploadSpec : Nat → IqSpec
  passiveModeSpec : IqSpec
  deviceListSpec : IqSpec
  /-- The presence node, if a push name is set. -/
  presence : Option Node
  appStateSyncSpec : String → IqSpec

/-- `upload_prekeys_if_needed`; its errors are logged. -/
def uploadPrekeysIfNeeded (p : PostConnect) (next : Handler) : Handler :=
  .sendIq p.preKeyCountSpec fun
    | .ok (some response) =>
        if minPrekeyCount ≤ p.count response then next
        else .sendIq (p.preKeyUploadSpec (minPrekeyCount - p.count response)) fun _ => next
    | _ => next

/-- `run_post_connect_init`, for what the session holds: nothing is sent without
a paired device. -/
def runPostConnectInit : Option PostConnect → Handler
  | none => .done
  | some p =>
      .sendNode p.unifiedSession fun _ =>
        uploadPrekeysIfNeeded p <|
          .sendIq p.passiveModeSpec fun _ =>
            .sendIq p.deviceListSpec fun _ =>
              match p.presence with
              | some presence =>
                  .sendNode presence fun _ => .sendIqs (appStateCollections.map p.appStateSyncSpec)
              | none => .sendIqs (appStateCollections.map p.appStateSyncSpec)

/-! ## Events and frames -/

inductive RawEvent where
  | node (n : Node)
  | connected
  | disconnected
  | error (text : String)

/-- The capacity of the event queue. -/
def eventCapacity : Nat := 256

/-- `try_broadcast`: an event that finds the queue full is dropped. -/
def tryBroadcast (events : List RawEvent) (e : RawEvent) : List RawEvent :=
  if events.length < eventCapacity then events ++ [e] else events

/-- A frame from the transport: a node, or bytes that do not decode. -/
inductive Frame where
  | node (n : Node)
  | invalid (e : ConnectionError)

/-! ## The answers of a call -/

section

variable [WacoreBinary]

/-- What a call returns once its send succeeded: nothing for a `send_node`, and
for a `send_iq` what its response gives. -/
def responseOutcome (iq : Option (String × IqSpec)) (response : Slot (Result Node)) :
    Option (Result (Option Node)) :=
  match iq, response with
  | none, _ => some (.ok none)
  | some _, .empty => none
  | some _, .closed => some (.error .notConnected)
  | some _, .filled (.error e) => some (.error e)
  | some (_, spec), .filled (.ok n) => some ((iqResult spec n).map fun _ => some n)

/-- What a call returns after its send returned `r`. -/
def sendOutcome (iq : Option (String × IqSpec)) (response : Slot (Result Node)) :
    Result Unit → Option (Result (Option Node))
  | .error e => some (.error e)
  | .ok () => responseOutcome iq response

/-- What a call returned, or will return on the answers that it has. -/
def outcome (call : Call) : Option (Result (Option Node)) :=
  match call.stage with
  | .returned r => sendOutcome call.iq call.response r
  | .awaiting => if call.iq.isSome then responseOutcome call.iq call.response else none
  | .sending =>
      match call.sendResult with
      | .empty => none
      | .closed => some (.error .notConnected)
      | .filled r => sendOutcome call.iq call.response r
  | _ => none

end

/-! ## States -/

inductive StreamPhase where
  /-- At `raw_rx.recv`. -/
  | idle
  | handling (h : Handler)
  /-- A handler awaits a call. -/
  | awaiting (c : CallId) (next : Result (Option Node) → Handler)

structure StreamState where
  conn : ConnState
  /-- What the transport has received and `read_loop` has not, by chunk. -/
  inbox : List (List Frame)
  /-- The frames left of the chunk that `read_loop` works on. -/
  decoded : List Frame
  /-- The event queue, oldest first. -/
  events : List RawEvent
  phase : StreamPhase

def StreamState.new : StreamState where
  conn := .new
  inbox := []
  decoded := []
  events := []
  phase := .idle

variable [WacoreBinary]

/-- The queue after what a node announces before it is broadcast itself. -/
def StreamState.announced (s : StreamState) (n : Node) : List RawEvent :=
  if (routeNode n).announce then tryBroadcast s.events .connected else s.events

/-! ## Steps -/

structure StreamConfig where
  connection : ConnectionConfig
  /-- What the handler of a node may send. -/
  nodeHandlers : Node → Handler → Prop
  handled : ∀ n, ∃ h, nodeHandlers n h

inductive StreamAction where
  /-- The server sends. -/
  | deliver (chunk : List Frame)
  | receive
  | invalid
  | conn (a : ConnAction)
  | recv
  /-- A handler starts a call. -/
  | call (c : CallId)
  | resume
  | finish

/-- `read_loop` takes the action at its select, which asks the transport first. -/
def AtSelect : ConnAction → Prop
  | .takeNode _ | .takeDisconnect | .commandsClosed => True
  | .move .ping | .move .transportClosed => True
  | _ => False

/-- The actions of the runner and of the calls that neither read nor broadcast.
The call that the stream awaits is not dropped, nor is its handle. -/
def Quiet (phase : StreamPhase) : ConnAction → Prop
  | .sendNode _ _ | .sendIq _ _ | .register _ _ | .enqueue _ | .disconnect => True
  | .sendAnswered _ | .sendTimeout _ | .responseAnswered _ | .responseTimeout _ => True
  | .drop c => ∀ next, phase ≠ .awaiting c next
  | .move .top | .move .delayElapsed | .move .acked => True
  | .sendRefused _ _ | .handOver _ | .transportSent _ _ | .cleanup | .abort | .discard => True
  | _ => False

/-- What the other actions of the runner broadcast. -/
inductive Announces (config : ConnectionConfig) (s : StreamState) :
    ConnAction → List RawEvent → Prop where
  | quiet {a : ConnAction} : Quiet s.phase a → Announces config s a []
  | connectFailed :
      config.autoReconnect = true → s.conn.runner.loggedOut = false →
      Announces config s (.move .connectFailed) []
  | connectStopped {e : ConnectionError} :
      config.autoReconnect = false ∨ s.conn.runner.loggedOut = true →
      Announces config s (.move .connectFailed)
        [.error ("connect failed and auto_reconnect is disabled: " ++ e.toText)]
  | pinged : Announces config s (.move .pinged) []
  | pingFailed {e : ConnectionError} :
      Announces config s (.move .pinged) [.error ("keepalive failed: " ++ e.toText)]
  | endedOk :
      s.conn.runner.phase = .closing (.ok ()) → Announces config s (.move .ended) [.disconnected]
  | endedError {e : ConnectionError} :
      s.conn.runner.phase = .closing (.error e) →
      config.autoReconnect = true → s.conn.runner.loggedOut = false →
      Announces config s (.move .ended) [.disconnected]
  | endedStopped {e : ConnectionError} :
      s.conn.runner.phase = .closing (.error e) →
      config.autoReconnect = false ∨ s.conn.runner.loggedOut = true →
      Announces config s (.move .ended)
        [.disconnected, .error ("disconnected: " ++ e.toText)]

/-- The steps of the connection, of the calls on its handles, and of the stream. -/
inductive StreamStep (config : StreamConfig) : StreamState → StreamAction → StreamState → Prop where
  | deliver {s : StreamState} {chunk : List Frame} :
      s.conn.runner.isConnected = true →
      StreamStep config s (.deliver chunk) { s with inbox := s.inbox ++ [chunk] }
  /-- `DataReceived`. -/
  | receive {s : StreamState} {chunk : List Frame} {rest : List (List Frame)} :
      s.conn.runner.phase = .reading → s.decoded = [] → s.inbox = chunk :: rest →
      StreamStep config s .receive { s with decoded := chunk, inbox := rest }
  | invalid {s : StreamState} {e : ConnectionError} {rest : List Frame} :
      s.conn.runner.phase = .reading → s.decoded = .invalid e :: rest →
      StreamStep config s .invalid
        { s with decoded := rest, events := tryBroadcast s.events (.error e.toText) }
  | frame {s : StreamState} {n : Node} {rest : List Frame} {t : ConnState} :
      s.decoded = .node n :: rest → ConnStep config.connection s.conn (.frame n) t →
      StreamStep config s (.conn (.frame n))
        { s with conn := t, decoded := rest, events := s.announced n }
  /-- `broadcast` waits for room. -/
  | routed {s : StreamState} {n : Node} {t : ConnState} :
      s.conn.runner.phase = .routing n → s.events.length < eventCapacity →
      ConnStep config.connection s.conn (.move .routed) t →
      StreamStep config s (.conn (.move .routed))
        { s with conn := t, events := s.events ++ [.node n] }
  | connected {s : StreamState} {t : ConnState} :
      ConnStep config.connection s.conn (.move .connected) t →
      StreamStep config s (.conn (.move .connected))
        { s with conn := t, inbox := [], decoded := [], events := tryBroadcast s.events .connected }
  | select {s : StreamState} {a : ConnAction} {t : ConnState} :
      AtSelect a → s.decoded = [] → s.inbox = [] → ConnStep config.connection s.conn a t →
      StreamStep config s (.conn a) { s with conn := t }
  | conn {s : StreamState} {a : ConnAction} {t : ConnState} {es : List RawEvent} :
      Announces config.connection s a es → ConnStep config.connection s.conn a t →
      StreamStep config s (.conn a) { s with conn := t, events := es.foldl tryBroadcast s.events }
  | recvConnected {s : StreamState} {rest : List RawEvent} (stored : Option PostConnect) :
      s.phase = .idle → s.events = .connected :: rest →
      StreamStep config s .recv
        { s with events := rest, phase := .handling (runPostConnectInit stored) }
  | recvNode {s : StreamState} {n : Node} {rest : List RawEvent} {h : Handler} :
      s.phase = .idle → s.events = .node n :: rest → config.nodeHandlers n h →
      StreamStep config s .recv { s with events := rest, phase := .handling h }
  | recvDisconnected {s : StreamState} {rest : List RawEvent} :
      s.phase = .idle → s.events = .disconnected :: rest →
      StreamStep config s .recv { s with events := rest }
  | recvError {s : StreamState} {text : String} {rest : List RawEvent} :
      s.phase = .idle → s.events = .error text :: rest →
      StreamStep config s .recv { s with events := rest }
  | callNode {s : StreamState} {c : CallId} {node : Node} {next : Result (Option Node) → Handler}
      {t : ConnState} :
      s.phase = .handling (.sendNode node next) →
      ConnStep config.connection s.conn (.sendNode c node) t →
      StreamStep config s (.call c) { s with conn := t, phase := .awaiting c next }
  | callIq {s : StreamState} {c : CallId} {spec : IqSpec} {next : Result (Option Node) → Handler}
      {t : ConnState} :
      s.phase = .handling (.sendIq spec next) →
      ConnStep config.connection s.conn (.sendIq c spec) t →
      StreamStep config s (.call c) { s with conn := t, phase := .awaiting c next }
  | resume {s : StreamState} {c : CallId} {next : Result (Option Node) → Handler} {call : Call}
      {r : Result Unit} {o : Result (Option Node)} :
      s.phase = .awaiting c next → s.conn.calls c = some call → call.stage = .returned r →
      outcome call = some o → StreamStep config s .resume { s with phase := .handling (next o) }
  | finish {s : StreamState} :
      s.phase = .handling .done → StreamStep config s .finish { s with phase := .idle }

/-- The runs of a connection with one stream. -/
def updateStream (config : StreamConfig) : System StreamState StreamAction where
  init s := s = .new
  step := StreamStep config

end Waepic.Client
