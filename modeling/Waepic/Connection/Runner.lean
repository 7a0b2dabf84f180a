import Waepic.Connection.Frame
import Waepic.Connection.Handle
import Waepic.Library.Transition
import Mathlib.Algebra.Group.Nat.Defs
import Mathlib.Data.List.AList
import Mathlib.Logic.Function.Basic

/-!
# The runner and its handles

One runner serves the commands of any number of calls.  It connects, reads
frames and commands one at a time, cleans the connection up and connects again;
`Phase` says where it awaits.  `RunnerStep` are its moves that touch no call,
`ConnStep` all steps of the runner and of the calls.

The command queue has no bound and outlives a connection; when the runner
stops, the queue is closed.  The waiters are shared: a call inserts its own, a
frame removes the one of its id, and a cleanup drains them all.

`handed` and `accepted` are histories, newest first: the calls whose node was
handed to `Transport::send`, and those whose send returned `Ok`, with the
number of the connection.
-/

namespace Waepic.Connection

open Transition Binary

structure ConnectionConfig where
  autoReconnect : Bool
deriving DecidableEq, Repr

/-! ## The runner -/

/-- Where the runner is. -/
inductive Phase where
  /-- At the top of the loop of `run`. -/
  | idle
  | connecting
  /-- At the select of `read_loop`. -/
  | reading
  /-- In `handle_send_node` for a command, before `transport.send`. -/
  | sendingNode (c : CallId)
  /-- At `transport.send` for a command. -/
  | transmitting (c : CallId)
  | pinging
  /-- Sending the acknowledgement of a frame. -/
  | acking (n : Node)
  /-- Broadcasting a frame. -/
  | routing (n : Node)
  /-- `read_loop` has returned. -/
  | leaving (r : Result Unit)
  /-- The waiters are drained; the transport is closed next, and `run` goes on. -/
  | closing (r : Result Unit)
  | delaying
  /-- `run` has returned or was dropped. -/
  | stopped

structure Runner where
  phase : Phase
  /-- The number of the current or last connection. -/
  connection : Nat
  isConnected : Bool
  loggedOut : Bool
  reconnectAttempt : Nat

/-- `reconnect_attempt.saturating_add(1)`. -/
def Runner.retry (r : Runner) : Runner :=
  { r with phase := .delaying, reconnectAttempt := min (r.reconnectAttempt + 1) (2 ^ 64 - 1) }

/-- After a failure `run` returns if it may not reconnect. -/
def Runner.retryOrStop (r : Runner) (config : ConnectionConfig) : Runner :=
  if !config.autoReconnect || r.loggedOut then { r with phase := .stopped } else r.retry

inductive RunnerMove where
  | top
  | connected
  | connectFailed
  | delayElapsed
  | ping
  | pinged
  | acked
  | routed
  | transportClosed
  | ended
deriving DecidableEq, Repr

inductive RunnerStep (config : ConnectionConfig) : Runner → RunnerMove → Runner → Prop where
  | loggedOut {r : Runner} :
      r.phase = .idle → r.loggedOut = true →
      RunnerStep config r .top { r with phase := .stopped }
  | connect {r : Runner} :
      r.phase = .idle → r.loggedOut = false →
      RunnerStep config r .top { r with phase := .connecting }
  | connected {r : Runner} :
      r.phase = .connecting →
      RunnerStep config r .connected
        { r with phase := .reading, connection := r.connection + 1
                 isConnected := true, reconnectAttempt := 0 }
  | connectFailed {r : Runner} :
      r.phase = .connecting → RunnerStep config r .connectFailed (r.retryOrStop config)
  | delayElapsed {r : Runner} :
      r.phase = .delaying → RunnerStep config r .delayElapsed { r with phase := .idle }
  | ping {r : Runner} :
      r.phase = .reading → RunnerStep config r .ping { r with phase := .pinging }
  /-- A keepalive that fails or times out is logged only. -/
  | pinged {r : Runner} :
      r.phase = .pinging → RunnerStep config r .pinged { r with phase := .reading }
  /-- An acknowledgement that fails is logged only. -/
  | acked {r : Runner} {n : Node} :
      r.phase = .acking n → RunnerStep config r .acked { r with phase := .routing n }
  | routed {r : Runner} {n : Node} :
      r.phase = .routing n → RunnerStep config r .routed { r with phase := .reading }
  | transportClosed {r : Runner} {e : ConnectionError} :
      r.phase = .reading →
      RunnerStep config r .transportClosed { r with phase := .leaving (.error e) }
  | endedOk {r : Runner} :
      r.phase = .closing (.ok ()) → RunnerStep config r .ended { r with phase := .stopped }
  | endedError {r : Runner} {e : ConnectionError} :
      r.phase = .closing (.error e) → RunnerStep config r .ended (r.retryOrStop config)

/-- The call whose command the runner is executing. -/
def Phase.serves : Phase → Option CallId
  | .sendingNode c => some c
  | .transmitting c => some c
  | _ => none

/-! ## States -/

inductive Command where
  /-- `SendNode` of the node and the oneshot of a call. -/
  | sendNode (c : CallId)
  | disconnect
deriving DecidableEq, Repr

structure ConnState where
  runner : Runner
  /-- Some handle is alive. -/
  handlesAlive : Bool
  /-- The command queue, oldest first. -/
  commands : List Command
  waiters : AList fun _ : String => CallId
  iqIdCounter : UInt64
  calls : CallId → Option Call
  handed : List CallId
  accepted : List (CallId × Nat)

/-- What `Connection::new` gives, with the runner at the start of `run`. -/
def ConnState.new : ConnState where
  runner :=
    { phase := .idle, connection := 0, isConnected := false, loggedOut := false
      reconnectAttempt := 0 }
  handlesAlive := true
  commands := []
  waiters := ∅
  iqIdCounter := 0
  calls := fun _ => none
  handed := []
  accepted := []

namespace ConnState

def setCall (s : ConnState) (c : CallId) (call : Call) : ConnState :=
  { s with calls := Function.update s.calls c (some call) }

def modifyCall (s : ConnState) (c : CallId) (f : Call → Call) : ConnState :=
  { s with calls := Function.update s.calls c ((s.calls c).map f) }

def setPhase (s : ConnState) (phase : Phase) : ConnState :=
  { s with runner := { s.runner with phase := phase } }

/-- The runner answers the command of `c`. -/
def answerSend (s : ConnState) (c : CallId) (r : Result Unit) : ConnState :=
  s.modifyCall c fun call => { call with sendResult := call.sendResult.fill r }

/-- The command of `c` is dropped. -/
def dropSend (s : ConnState) (c : CallId) : ConnState :=
  s.modifyCall c fun call => { call with sendResult := call.sendResult.close }

/-- `waiters.insert(id, sender)`: the sender that was there is dropped. -/
def insertWaiter (s : ConnState) (id : String) (c : CallId) : ConnState :=
  match s.waiters.lookup id with
  | none => { s with waiters := s.waiters.insert id c }
  | some d =>
      { s.modifyCall d fun call => { call with response := call.response.close } with
          waiters := s.waiters.insert id c }

/-- `waiters.remove(id)`, and the node for the sender that was there. -/
def resolveWaiter (s : ConnState) (id : String) (n : Node) : ConnState :=
  match s.waiters.lookup id with
  | none => s
  | some d =>
      { s.modifyCall d fun call => { call with response := call.response.fill (.ok n) } with
          waiters := s.waiters.erase id }

/-- The waiter of `c` is in the map. -/
def Waits (s : ConnState) (c : CallId) : Prop := ∃ e ∈ s.waiters.entries, e.2 = c

instance (s : ConnState) (c : CallId) : Decidable (s.Waits c) :=
  inferInstanceAs (Decidable (∃ e ∈ s.waiters.entries, e.2 = c))

/-- `waiters.drain()`, with `NotConnected` for each sender. -/
def drainWaiters (s : ConnState) : ConnState :=
  { s with
    waiters := ∅
    calls := fun c =>
      if s.Waits c then
        (s.calls c).map fun call =>
          { call with response := call.response.fill (.error .notConnected) }
      else s.calls c }

/-- The queued commands are dropped with the queue. -/
def dropCommands (s : ConnState) : ConnState :=
  { s with
    commands := []
    calls := fun c =>
      if .sendNode c ∈ s.commands then
        (s.calls c).map fun call => { call with sendResult := call.sendResult.close }
      else s.calls c }

/-! ### What the operations change -/

section Operations

variable (s : ConnState) (c d : CallId) (call : Call) (f : Call → Call) (phase : Phase)
  (id : String) (n : Node)

@[simp] theorem setCall_calls_self : (s.setCall c call).calls c = some call :=
  Function.update_self ..

@[simp] theorem setCall_calls_of_ne {c d : CallId} (h : d ≠ c) :
    (s.setCall c call).calls d = s.calls d :=
  Function.update_of_ne h ..

@[simp] theorem setCall_waiters : (s.setCall c call).waiters = s.waiters := rfl
@[simp] theorem setCall_commands : (s.setCall c call).commands = s.commands := rfl
@[simp] theorem setCall_iqIdCounter : (s.setCall c call).iqIdCounter = s.iqIdCounter := rfl
@[simp] theorem setCall_runner : (s.setCall c call).runner = s.runner := rfl
@[simp] theorem setCall_handed : (s.setCall c call).handed = s.handed := rfl
@[simp] theorem setCall_accepted : (s.setCall c call).accepted = s.accepted := rfl

@[simp] theorem modifyCall_calls_self : (s.modifyCall c f).calls c = (s.calls c).map f :=
  Function.update_self ..

@[simp] theorem modifyCall_calls_of_ne {c d : CallId} (h : d ≠ c) :
    (s.modifyCall c f).calls d = s.calls d :=
  Function.update_of_ne h ..

@[simp] theorem modifyCall_waiters : (s.modifyCall c f).waiters = s.waiters := rfl
@[simp] theorem modifyCall_commands : (s.modifyCall c f).commands = s.commands := rfl
@[simp] theorem modifyCall_runner : (s.modifyCall c f).runner = s.runner := rfl
@[simp] theorem modifyCall_handed : (s.modifyCall c f).handed = s.handed := rfl
@[simp] theorem modifyCall_accepted : (s.modifyCall c f).accepted = s.accepted := rfl

@[simp] theorem setPhase_calls : (s.setPhase phase).calls = s.calls := rfl
@[simp] theorem setPhase_waiters : (s.setPhase phase).waiters = s.waiters := rfl
@[simp] theorem setPhase_commands : (s.setPhase phase).commands = s.commands := rfl
@[simp] theorem setPhase_iqIdCounter : (s.setPhase phase).iqIdCounter = s.iqIdCounter := rfl
@[simp] theorem setPhase_phase : (s.setPhase phase).runner.phase = phase := rfl
@[simp] theorem setPhase_handed : (s.setPhase phase).handed = s.handed := rfl
@[simp] theorem setPhase_accepted : (s.setPhase phase).accepted = s.accepted := rfl

@[simp] theorem insertWaiter_commands : (s.insertWaiter id c).commands = s.commands := by
  simp only [insertWaiter]
  split <;> rfl

@[simp] theorem insertWaiter_runner : (s.insertWaiter id c).runner = s.runner := by
  simp only [insertWaiter]
  split <;> rfl

@[simp] theorem insertWaiter_iqIdCounter :
    (s.insertWaiter id c).iqIdCounter = s.iqIdCounter := by
  simp only [insertWaiter]
  split <;> rfl

@[simp] theorem insertWaiter_handlesAlive :
    (s.insertWaiter id c).handlesAlive = s.handlesAlive := by
  simp only [insertWaiter]
  split <;> rfl

@[simp] theorem insertWaiter_handed : (s.insertWaiter id c).handed = s.handed := by
  simp only [insertWaiter]
  split <;> rfl

@[simp] theorem insertWaiter_accepted : (s.insertWaiter id c).accepted = s.accepted := by
  simp only [insertWaiter]
  split <;> rfl

/-- The sender that `insert` replaces is dropped, and no other call changes. -/
theorem insertWaiter_calls :
    (s.insertWaiter id c).calls d =
      if s.waiters.lookup id = some d then
        (s.calls d).map fun call => { call with response := call.response.close }
      else s.calls d := by
  simp only [insertWaiter]
  cases hl : s.waiters.lookup id with
  | none => simp
  | some e => rcases eq_or_ne e d with rfl | hed <;> simp [*, Ne.symm]

theorem insertWaiter_lookup (id' : String) :
    (s.insertWaiter id c).waiters.lookup id' =
      if id' = id then some c else s.waiters.lookup id' := by
  have hw : (s.insertWaiter id c).waiters = s.waiters.insert id c := by
    simp only [insertWaiter]
    split <;> rfl
  rw [hw]
  split
  · next h => rw [h, AList.lookup_insert]
  · next h => rw [AList.lookup_insert_ne h]

@[simp] theorem resolveWaiter_commands : (s.resolveWaiter id n).commands = s.commands := by
  simp only [resolveWaiter]
  split <;> rfl

@[simp] theorem resolveWaiter_runner : (s.resolveWaiter id n).runner = s.runner := by
  simp only [resolveWaiter]
  split <;> rfl

@[simp] theorem resolveWaiter_iqIdCounter :
    (s.resolveWaiter id n).iqIdCounter = s.iqIdCounter := by
  simp only [resolveWaiter]
  split <;> rfl

@[simp] theorem resolveWaiter_handlesAlive :
    (s.resolveWaiter id n).handlesAlive = s.handlesAlive := by
  simp only [resolveWaiter]
  split <;> rfl

@[simp] theorem resolveWaiter_handed : (s.resolveWaiter id n).handed = s.handed := by
  simp only [resolveWaiter]
  split <;> rfl

@[simp] theorem resolveWaiter_accepted : (s.resolveWaiter id n).accepted = s.accepted := by
  simp only [resolveWaiter]
  split <;> rfl

/-- A frame changes the call that waits for its id, and no other. -/
theorem resolveWaiter_calls :
    (s.resolveWaiter id n).calls d =
      if s.waiters.lookup id = some d then
        (s.calls d).map fun call => { call with response := call.response.fill (.ok n) }
      else s.calls d := by
  simp only [resolveWaiter]
  cases hl : s.waiters.lookup id with
  | none => simp
  | some e => rcases eq_or_ne e d with rfl | hed <;> simp [*, Ne.symm]

theorem resolveWaiter_lookup (id' : String) :
    (s.resolveWaiter id n).waiters.lookup id' =
      if id' = id then none else s.waiters.lookup id' := by
  simp only [resolveWaiter]
  cases hl : s.waiters.lookup id with
  | none =>
      rcases eq_or_ne id' id with rfl | h
      · simp [hl]
      · simp [h]
  | some e =>
      rcases eq_or_ne id' id with rfl | h
      · simp
      · simp [h, AList.lookup_erase_ne h]

theorem waits_iff : s.Waits c ↔ ∃ id, s.waiters.lookup id = some c := by
  constructor
  · rintro ⟨⟨id, c'⟩, hmem, rfl⟩
    exact ⟨id, AList.mem_lookup_iff.mpr hmem⟩
  · rintro ⟨id, hl⟩
    exact ⟨⟨id, c⟩, AList.mem_lookup_iff.mp hl, rfl⟩

end Operations

end ConnState

/-! ## Steps -/

inductive ConnAction where
  | sendNode (c : CallId) (node : Node)
  | sendIq (c : CallId) (spec : IqSpec)
  | register (c : CallId) (id : String)
  | enqueue (c : CallId)
  | sendAnswered (c : CallId)
  | sendTimeout (c : CallId)
  | responseAnswered (c : CallId)
  | responseTimeout (c : CallId)
  | drop (c : CallId)
  | disconnect
  | dropHandles
  | move (m : RunnerMove)
  | frame (n : Node)
  | takeNode (c : CallId)
  | sendRefused (c : CallId) (e : ConnectionError)
  | handOver (c : CallId)
  | transportSent (c : CallId) (r : Result Unit)
  | takeDisconnect
  | commandsClosed
  | cleanup
  | abort
  | discard

variable [WacoreBinary]

/-- The steps of the runner and of the calls. -/
inductive ConnStep (config : ConnectionConfig) : ConnState → ConnAction → ConnState → Prop where
  | sendNode {s : ConnState} {c : CallId} {node : Node} :
      s.calls c = none → s.handlesAlive = true →
      ConnStep config s (.sendNode c node) (s.setCall c (.ofNode node))
  | sendIqSupplied {s : ConnState} {c : CallId} {spec : IqSpec} {id : String} :
      s.calls c = none → s.handlesAlive = true → spec.query.id = some id →
      ConnStep config s (.sendIq c spec) (s.setCall c (.ofIq spec id))
  /-- `next_iq_id`. -/
  | sendIqGenerated {s : ConnState} {c : CallId} {spec : IqSpec} :
      s.calls c = none → s.handlesAlive = true → spec.query.id = none →
      ConnStep config s (.sendIq c spec)
        { s.setCall c (.ofIq spec (iqIdOf s.iqIdCounter.toNat)) with
            iqIdCounter := s.iqIdCounter + 1 }
  | register {s : ConnState} {c : CallId} {call : Call} {id : String} :
      s.calls c = some call → call.stage = .created → call.iqId = some id →
      ConnStep config s (.register c id)
        ((s.insertWaiter id c).setCall c { call with stage := .registered })
  /-- The command is queued: `send_node` starts to wait. -/
  | enqueue {s : ConnState} {c : CallId} {call : Call} :
      s.calls c = some call →
      call.stage = .registered ∨ call.stage = .created ∧ call.iq = none →
      s.runner.phase ≠ .stopped →
      ConnStep config s (.enqueue c)
        { s.setCall c { call with stage := .sending } with
            commands := s.commands ++ [.sendNode c] }
  /-- The queue is closed: `send_node` returns at once. -/
  | enqueueClosed {s : ConnState} {c : CallId} {call : Call} :
      s.calls c = some call →
      call.stage = .registered ∨ call.stage = .created ∧ call.iq = none →
      s.runner.phase = .stopped →
      ConnStep config s (.enqueue c) (s.setCall c (call.sendReturned (.error .notConnected)))
  | sendAnswered {s : ConnState} {c : CallId} {call : Call} {r : Result Unit} :
      s.calls c = some call → call.stage = .sending → call.sendResult = .filled r →
      ConnStep config s (.sendAnswered c) (s.setCall c (call.sendReturned r))
  | sendAbandoned {s : ConnState} {c : CallId} {call : Call} :
      s.calls c = some call → call.stage = .sending → call.sendResult = .closed →
      ConnStep config s (.sendAnswered c) (s.setCall c (call.sendReturned (.error .notConnected)))
  /-- The timer wins only if there is no answer: `select` polls the answer first. -/
  | sendTimeout {s : ConnState} {c : CallId} {call : Call} :
      s.calls c = some call → call.stage = .sending → call.sendResult = .empty →
      ConnStep config s (.sendTimeout c) (s.setCall c (call.sendReturned (.error sendTimedOut)))
  | responseAnswered {s : ConnState} {c : CallId} {call : Call} {r : Result Node} :
      s.calls c = some call → call.stage = .awaiting → call.response = .filled r →
      ConnStep config s (.responseAnswered c)
        (s.setCall c { call with stage := .returned (call.responded r) })
  | responseAbandoned {s : ConnState} {c : CallId} {call : Call} :
      s.calls c = some call → call.stage = .awaiting → call.response = .closed →
      ConnStep config s (.responseAnswered c)
        (s.setCall c { call with stage := .returned (.error .notConnected) })
  | responseTimeout {s : ConnState} {c : CallId} {call : Call} :
      s.calls c = some call → call.stage = .awaiting → call.response = .empty →
      ConnStep config s (.responseTimeout c)
        (s.setCall c { call with stage := .returned (.error iqTimedOut) })
  /-- The future of a call is dropped. -/
  | drop {s : ConnState} {c : CallId} {call : Call} :
      s.calls c = some call → call.stage.InFlight →
      ConnStep config s (.drop c) (s.setCall c { call with stage := .dropped })
  | disconnect {s : ConnState} :
      s.handlesAlive = true → s.runner.phase ≠ .stopped →
      ConnStep config s .disconnect { s with commands := s.commands ++ [.disconnect] }
  /-- The last handle is dropped: no call borrows one. -/
  | dropHandles {s : ConnState} :
      (∀ c call, s.calls c = some call → ¬ call.stage.InFlight) →
      ConnStep config s .dropHandles { s with handlesAlive := false }
  | move {s : ConnState} {m : RunnerMove} {r : Runner} :
      RunnerStep config s.runner m r → ConnStep config s (.move m) { s with runner := r }
  /-- A frame for which no waiter is looked up. -/
  | frameOther {s : ConnState} {n : Node} :
      s.runner.phase = .reading → (routeNode n).waiter = none →
      ConnStep config s (.frame n)
        { s with runner := { s.runner with
            phase := if (routeNode n).ack.isSome then .acking n else .routing n
            loggedOut := s.runner.loggedOut || (routeNode n).logout } }
  /-- A frame that looks for the waiter of its id. -/
  | frameIq {s : ConnState} {n : Node} {id : String} :
      s.runner.phase = .reading → (routeNode n).waiter = some id →
      ConnStep config s (.frame n) ((s.resolveWaiter id n).setPhase (.routing n))
  | takeNode {s : ConnState} {c : CallId} {rest : List Command} :
      s.runner.phase = .reading → s.commands = .sendNode c :: rest →
      ConnStep config s (.takeNode c) { s.setPhase (.sendingNode c) with commands := rest }
  /-- Marshalling or encryption fails. -/
  | sendRefused {s : ConnState} {c : CallId} {e : ConnectionError} :
      s.runner.phase = .sendingNode c →
      ConnStep config s (.sendRefused c e) ((s.answerSend c (.error e)).setPhase .reading)
  | handOver {s : ConnState} {c : CallId} :
      s.runner.phase = .sendingNode c →
      ConnStep config s (.handOver c)
        { s.setPhase (.transmitting c) with handed := c :: s.handed }
  | transportAccepts {s : ConnState} {c : CallId} :
      s.runner.phase = .transmitting c →
      ConnStep config s (.transportSent c (.ok ()))
        { (s.answerSend c (.ok ())).setPhase .reading with
            accepted := (c, s.runner.connection) :: s.accepted }
  | transportFails {s : ConnState} {c : CallId} {e : ConnectionError} :
      s.runner.phase = .transmitting c →
      ConnStep config s (.transportSent c (.error e))
        ((s.answerSend c (.error e)).setPhase .reading)
  | takeDisconnect {s : ConnState} {rest : List Command} :
      s.runner.phase = .reading → s.commands = .disconnect :: rest →
      ConnStep config s .takeDisconnect { s.setPhase (.leaving (.ok ())) with commands := rest }
  | commandsClosed {s : ConnState} :
      s.runner.phase = .reading → s.commands = [] → s.handlesAlive = false →
      ConnStep config s .commandsClosed (s.setPhase (.leaving (.ok ())))
  /-- `cleanup_connection`, up to the drained waiters. -/
  | cleanup {s : ConnState} {r : Result Unit} :
      s.runner.phase = .leaving r →
      ConnStep config s .cleanup
        { s.drainWaiters with runner :=
            { s.runner with phase := .closing r, isConnected := false } }
  /-- The future of `run` is dropped, with the command it executes. -/
  | abort {s : ConnState} :
      s.runner.phase.serves = none → ConnStep config s .abort (s.setPhase .stopped)
  | abortSending {s : ConnState} {c : CallId} :
      s.runner.phase.serves = some c →
      ConnStep config s .abort ((s.dropSend c).setPhase .stopped)
  /-- The queue is freed some time after its receiver. -/
  | discard {s : ConnState} :
      s.runner.phase = .stopped → ConnStep config s .discard s.dropCommands

/-- The runs of a runner and the calls on its handles. -/
def connection (config : ConnectionConfig) : System ConnState ConnAction where
  init s := s = .new
  step := ConnStep config

end Waepic.Connection
