import Waepic.Client.UpdateStream
import Waepic.Connection.Lifecycle
import Waepic.Library.Broadcast

/-!
# The effects of a frame

`process_incoming_frame` acts on four objects that it shares: the socket, the
event channel, the waiters and the flag `logged_out`.  It is here in full, from
the ciphertext on: three stages that may fail, and then the node, with an early
return for a `set` IQ that repeats the end of the function.

Both ends do the same, so a node has the effects of its route
(`processNode_eq_route`), and these are read off the route (`frame_effects`).
The last broadcast waits while the channel is full; a frame that fails at a stage
changes the socket only, and the loop of `read_loop` goes on.
-/

namespace Waepic.Connection

open Binary Broadcast Client

/-! ## What a frame acts on -/

/-- What is wacore's, or the transport's. -/
structure FrameEnv where
  unpackBytes : Bytes → Except String Bytes
  /-- `OwnedNodeRef::new` and `to_owned_node`. -/
  parseNode : Bytes → Except String Node
  /-- What `handle_send_node` returns, and leaves of the socket. -/
  handleSendNode : NoiseSocket → Node → Result Unit × NoiseSocket

structure FrameWorld where
  noiseSocket : NoiseSocket
  events : Channel RawEvent
  waiters : AList fun _ : String => CallId
  loggedOut : Bool
  /-- What was sent to removed waiters, oldest first. -/
  resolved : List (CallId × Node)
  /-- The acknowledgements given to `handle_send_node`, oldest first. -/
  acked : List Node

/-- `process_incoming_frame` returns, or waits for room for the node. -/
inductive FrameOutcome where
  | returned (r : Result Unit)
  | waiting (n : Node)

namespace FrameWorld

/-- `event_tx.try_broadcast`; an event that is refused is lost. -/
def announce (w : FrameWorld) (e : RawEvent) : FrameWorld :=
  { w with events := w.events.tryBroadcast e }

/-- Send an acknowledgement.  A failure is logged only. -/
def acknowledge (w : FrameWorld) (env : FrameEnv) (n : Node) : FrameWorld :=
  { w with noiseSocket := (env.handleSendNode w.noiseSocket n).2, acked := w.acked ++ [n] }

/-- `waiters.remove(&id)`, and the node for what was removed. -/
def resolve (w : FrameWorld) (id : String) (n : Node) : FrameWorld :=
  match w.waiters.lookup id with
  | none => w
  | some c => { w with waiters := w.waiters.erase id, resolved := w.resolved ++ [(c, n)] }

def markLoggedOut (w : FrameWorld) (failure : Bool) : FrameWorld :=
  if failure then { w with loggedOut := true } else w

/-- `event_tx.broadcast(RawEvent::Node(n)).await`.  A closed channel is logged only. -/
def broadcastNode (w : FrameWorld) (n : Node) : FrameOutcome × FrameWorld :=
  if !w.events.closed && w.events.full then (.waiting n, w)
  else (.returned (.ok ()), w.announce (.node n))

end FrameWorld

variable [WacoreBinary]

/-! ## `process_incoming_frame` -/

/-- The frame is a node. -/
def processNode (env : FrameEnv) (n : Node) (w : FrameWorld) : FrameOutcome × FrameWorld :=
  if IsSetIq n then
    let w := if n.hasChild "success" then w.announce .connected else w
    let w :=
      if n.hasChild "pair-success" then w
      else
        match n.attrText "id" with
        | some serverId => w.acknowledge env (ackNode serverId)
        | none => w
    (w.markLoggedOut (n.tag = "failure")).broadcastNode n
  else
    let w :=
      if n.tag = "iq" then
        match n.attrText "id" with
        | some id => w.resolve id n
        | none => w
      else w
    (w.markLoggedOut (n.tag = "failure")).broadcastNode n

def processIncomingFrame (env : FrameEnv) (frame : Payload) (w : FrameWorld) :
    FrameOutcome × FrameWorld :=
  let decrypted := w.noiseSocket.decryptFrame frame
  let w := { w with noiseSocket := decrypted.2 }
  match decrypted.1 with
  | .error e => (.returned (.error e), w)
  | .ok plaintext =>
      match env.unpackBytes plaintext with
      | .error e => (.returned (.error (.protocol ("frame unpack failed: " ++ e))), w)
      | .ok unpacked =>
          match env.parseNode unpacked with
          | .error e => (.returned (.error (.protocol ("node parse failed: " ++ e))), w)
          | .ok n => processNode env n w

/-- The loop of `read_loop` over the frames that are complete. -/
def drainFrames (env : FrameEnv) (decoder : FrameDecoder) (d : decoder.State) (w : FrameWorld) :
    FrameOutcome × FrameWorld :=
  match _h : decoder.decodeFrame d with
  | none => (.returned (.ok ()), w)
  | some (frame, d') =>
      match processIncomingFrame env frame w with
      | (.returned (.ok ()), w) => drainFrames env decoder d' w
      | (.returned (.error e), w) => drainFrames env decoder d' (w.announce (.error e.toText))
      | (.waiting n, w) => (.waiting n, w)
termination_by (decoder.buffered d).length
decreasing_by
  · exact decoder.length_lt _h
  · exact decoder.length_lt _h

/-! ## The route of a node -/

/-- The effects of a route, in the order they happen. -/
def FrameWorld.follow (w : FrameWorld) (env : FrameEnv) (r : FrameRoute) (n : Node) : FrameWorld :=
  let w := if r.announce then w.announce .connected else w
  let w := match r.ack with
    | some reply => w.acknowledge env reply
    | none => w
  let w := match r.waiter with
    | some id => w.resolve id n
    | none => w
  w.markLoggedOut r.logout

/-- Both ends of the function broadcast the node after the effects of its route. -/
theorem processNode_eq_route (env : FrameEnv) (n : Node) (w : FrameWorld) :
    processNode env n w = (w.follow env (routeNode n) n).broadcastNode n := by
  by_cases hset : IsSetIq n
  · simp only [processNode, routeNode, if_pos hset, FrameWorld.follow]
    cases hpair : n.hasChild "pair-success" with
    | true => rfl
    | false => cases hid : n.attrText "id" <;> rfl
  · simp only [processNode, routeNode, if_neg hset, FrameWorld.follow]
    by_cases hiq : n.tag = "iq"
    · cases hid : n.attrText "id" <;> simp [hiq]
    · simp [hiq]

section

variable (w : FrameWorld) (env : FrameEnv) (r : FrameRoute) (n : Node)

omit [WacoreBinary] in
/-- The waiter of the id is removed and sent the node, if there is one. -/
theorem FrameWorld.resolve_eq (id : String) :
    w.resolve id n =
      { w with
        waiters := w.waiters.erase id
        resolved := w.resolved ++ (w.waiters.lookup id).toList.map (·, n) } := by
  simp only [resolve]
  cases hl : w.waiters.lookup id with
  | none =>
      have herase : w.waiters.erase id = w.waiters :=
        AList.ext (List.kerase_of_notMem_keys (AList.lookup_eq_none.mp hl))
      rw [herase]
      simp
  | some c => rfl

omit [WacoreBinary] in
/-- What each field is after the effects of a route. -/
theorem FrameWorld.follow_eq :
    w.follow env r n =
      { noiseSocket := r.ack.elim w.noiseSocket fun reply =>
          (env.handleSendNode w.noiseSocket reply).2
        events := if r.announce then w.events.tryBroadcast .connected else w.events
        waiters := r.waiter.elim w.waiters w.waiters.erase
        loggedOut := w.loggedOut || r.logout
        resolved := w.resolved ++ (r.waiter.bind w.waiters.lookup).toList.map (·, n)
        acked := w.acked ++ r.ack.toList } := by
  obtain ⟨announce, ack, waiter, logout⟩ := r
  cases announce <;> cases ack <;> cases waiter <;> cases logout <;>
    simp [follow, FrameWorld.announce, acknowledge, markLoggedOut, resolve_eq]

omit [WacoreBinary] in
theorem FrameWorld.follow_events :
    (w.follow env r n).events =
      if r.announce then w.events.tryBroadcast .connected else w.events := by
  rw [follow_eq]

omit [WacoreBinary] in
/-- The waiter of the route is removed, and no other. -/
theorem FrameWorld.follow_lookup (id : String) :
    (w.follow env r n).waiters.lookup id =
      if r.waiter = some id then none else w.waiters.lookup id := by
  rw [follow_eq]
  dsimp only
  cases hwaiter : r.waiter with
  | none => rfl
  | some id' =>
      rcases eq_or_ne id id' with rfl | hne
      · rw [if_pos rfl]
        exact AList.lookup_erase _ _
      · rw [if_neg (by simpa using hne.symm)]
        exact AList.lookup_erase_ne hne

end

/-! ## What a frame does -/

/-- What a node puts on the event channel. -/
def frameEvents (n : Node) : List RawEvent :=
  (if IsSetIq n ∧ n.hasChild "success" = true then [.connected] else []) ++ [.node n]

/-- The node is an answer, under this id. -/
def Answers (n : Node) (id : String) : Prop :=
  n.tag = "iq" ∧ ¬ IsSetIq n ∧ n.attrText "id" = some id

instance (n : Node) (id : String) : Decidable (Answers n id) :=
  inferInstanceAs (Decidable (_ ∧ _ ∧ _))

/-- What the node of a frame changes. -/
structure FrameEffects (n : Node) (w w' : FrameWorld) : Prop where
  /-- Every receiver is sent the events of the node. -/
  events : w'.events.receivers = w.events.receivers.map (Receiver.pushAll · (frameEvents n))
  /-- The waiter that the node answers is removed, and no other. -/
  waiters : ∀ id, w'.waiters.lookup id = if Answers n id then none else w.waiters.lookup id
  /-- It gets the node. -/
  resolved : ∀ id c, Answers n id → w.waiters.lookup id = some c →
    w'.resolved = w.resolved ++ [(c, n)]
  unresolved : (∀ id, Answers n id → w.waiters.lookup id = none) → w'.resolved = w.resolved
  loggedOut : w'.loggedOut = true ↔ w.loggedOut = true ∨ n.tag = "failure"

theorem routeNode_waiter_iff_answers {n : Node} {id : String} :
    (routeNode n).waiter = some id ↔ Answers n id := by
  rw [routeNode_waiter_iff]
  constructor
  · rintro ⟨htag, htype, hid⟩
    exact ⟨htag, fun hset => htype hset.2, hid⟩
  · rintro ⟨htag, hset, hid⟩
    exact ⟨htag, fun htype => hset ⟨htag, htype⟩, hid⟩

theorem routeNode_announce_iff {n : Node} :
    (routeNode n).announce = true ↔ IsSetIq n ∧ n.hasChild "success" = true := by
  simp only [routeNode]
  by_cases hset : IsSetIq n <;> simp [hset]

theorem routeNode_logout {n : Node} : (routeNode n).logout = decide (n.tag = "failure") := by
  simp only [routeNode]
  split <;> rfl

/-- The events of a node are announced along its route and broadcast at its end. -/
theorem frameEvents_eq (env : FrameEnv) (n : Node) (w : FrameWorld) :
    (w.follow env (routeNode n) n).events.tryBroadcast (.node n) =
      (frameEvents n).foldl Channel.tryBroadcast w.events := by
  rw [FrameWorld.follow_events, frameEvents]
  by_cases hannounce : IsSetIq n ∧ n.hasChild "success" = true
  · rw [if_pos hannounce, if_pos (routeNode_announce_iff.mpr hannounce)]
    rfl
  · rw [if_neg hannounce, if_neg (mt routeNode_announce_iff.mp hannounce)]
    rfl

/-- With room for its events, a node does not wait at the end of its route. -/
theorem follow_not_full (env : FrameEnv) {n : Node} {w : FrameWorld}
    (hroom : w.events.HasRoom (frameEvents n).length) :
    (w.follow env (routeNode n) n).events.full = false := by
  rw [FrameWorld.follow_events]
  by_cases hannounce : IsSetIq n ∧ n.hasChild "success" = true
  · rw [frameEvents, if_pos hannounce] at hroom
    rw [if_pos (routeNode_announce_iff.mpr hannounce)]
    exact hroom.tryBroadcast.not_full
  · rw [frameEvents, if_neg hannounce] at hroom
    rw [if_neg (mt routeNode_announce_iff.mp hannounce)]
    exact hroom.not_full

theorem processNode_effects (env : FrameEnv) {n : Node} {w : FrameWorld}
    (hopen : w.events.closed = false) (hroom : w.events.HasRoom (frameEvents n).length) :
    ∃ w', processNode env n w = (.returned (.ok ()), w') ∧ FrameEffects n w w' := by
  refine ⟨(w.follow env (routeNode n) n).announce (.node n), ?_, ?_, ?_, ?_, ?_, ?_⟩
  · rw [processNode_eq_route, FrameWorld.broadcastNode, follow_not_full env hroom]
    simp
  · show ((w.follow env (routeNode n) n).events.tryBroadcast (.node n)).receivers = _
    rw [frameEvents_eq, hroom.foldl_tryBroadcast_receivers hopen]
  · intro id
    show (w.follow env (routeNode n) n).waiters.lookup id = _
    rw [FrameWorld.follow_lookup]
    simp only [routeNode_waiter_iff_answers]
  · intro id c hanswers hlookup
    show (w.follow env (routeNode n) n).resolved = _
    rw [FrameWorld.follow_eq, routeNode_waiter_iff_answers.mpr hanswers, Option.bind_some,
      hlookup]
    rfl
  · intro hnone
    show (w.follow env (routeNode n) n).resolved = _
    rw [FrameWorld.follow_eq]
    cases hwaiter : (routeNode n).waiter with
    | none => exact List.append_nil _
    | some id =>
        rw [Option.bind_some, hnone id (routeNode_waiter_iff_answers.mp hwaiter)]
        exact List.append_nil _
  · show (w.follow env (routeNode n) n).loggedOut = true ↔ _
    rw [FrameWorld.follow_eq, routeNode_logout]
    simp

/-- The node of a frame, if no stage fails. -/
def frameNode (env : FrameEnv) (socket : NoiseSocket) (frame : Payload) : Result Node :=
  match (socket.decryptFrame frame).1 with
  | .error e => .error e
  | .ok plaintext =>
      match env.unpackBytes plaintext with
      | .error e => .error (.protocol ("frame unpack failed: " ++ e))
      | .ok unpacked =>
          match env.parseNode unpacked with
          | .error e => .error (.protocol ("node parse failed: " ++ e))
          | .ok n => .ok n

theorem processIncomingFrame_eq (env : FrameEnv) (frame : Payload) (w : FrameWorld) :
    processIncomingFrame env frame w =
      let w' := { w with noiseSocket := (w.noiseSocket.decryptFrame frame).2 }
      match frameNode env w.noiseSocket frame with
      | .error e => (.returned (.error e), w')
      | .ok n => processNode env n w' := by
  simp only [processIncomingFrame, frameNode]
  cases (w.noiseSocket.decryptFrame frame).1 with
  | error e => rfl
  | ok plaintext =>
      cases hunpack : env.unpackBytes plaintext with
      | error e => simp only [hunpack]
      | ok unpacked =>
          cases hparse : env.parseNode unpacked with
          | error e => simp only [hunpack, hparse]
          | ok n => simp only [hunpack, hparse]

/-- A frame that is a node has the effects of the node, if there is room for its
events; any other frame changes the socket only, and the loop goes on with the
next one. -/
theorem frame_effects (env : FrameEnv) (frame : Payload) (w : FrameWorld) :
    (∀ n, frameNode env w.noiseSocket frame = .ok n → w.events.closed = false →
      w.events.HasRoom (frameEvents n).length →
      ∃ w', processIncomingFrame env frame w = (.returned (.ok ()), w') ∧ FrameEffects n w w') ∧
    ∀ e, frameNode env w.noiseSocket frame = .error e →
      ∃ w', processIncomingFrame env frame w = (.returned (.error e), w') ∧
        w'.events = w.events ∧ w'.waiters = w.waiters ∧ w'.resolved = w.resolved ∧
        w'.loggedOut = w.loggedOut ∧
        ∀ (decoder : FrameDecoder) d d', decoder.decodeFrame d = some (frame, d') →
          drainFrames env decoder d w =
            drainFrames env decoder d' (w'.announce (.error e.toText)) := by
  constructor
  · intro n hnode hopen hroom
    rw [processIncomingFrame_eq, hnode]
    obtain ⟨w', hprocess, heffects⟩ := processNode_effects env
      (w := { w with noiseSocket := (w.noiseSocket.decryptFrame frame).2 }) hopen hroom
    exact ⟨w', hprocess, heffects.events, heffects.waiters, heffects.resolved,
      heffects.unresolved, heffects.loggedOut⟩
  · intro e hfails
    have hprocess : processIncomingFrame env frame w =
        (.returned (.error e),
          { w with noiseSocket := (w.noiseSocket.decryptFrame frame).2 }) := by
      rw [processIncomingFrame_eq, hfails]
    refine ⟨_, hprocess, rfl, rfl, rfl, rfl, fun decoder d d' hdecode => ?_⟩
    rw [drainFrames]
    split
    · next hnone =>
        rw [hdecode] at hnone
        cases hnone
    · next frame' d'' hsome =>
        rw [hdecode] at hsome
        cases hsome
        rw [hprocess]

end Waepic.Connection
