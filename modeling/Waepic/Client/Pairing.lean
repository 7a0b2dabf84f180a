import Waepic.Client.PreKeys
import Waepic.Client.UpdateStream

/-!
# Answers to server IQs

Three components may answer an IQ of the server.  `process_incoming_frame`
acknowledges every `set` but a pair-success, the QR tasks that wait for a
pair-device acknowledge it too, and the tasks past that point answer a
pair-success with a signature, if they can make one.  None knows of the others,
and none answers a `get`, which goes to the waiter of its id.

So a `set` gets one answer exactly if one task answers a pair-success and none
answers anything else (`server_iq_answered_once_iff`).
-/

namespace Waepic.Client

open Binary Connection

/-! ## What wacore does -/

/-- `DeviceState`: the keys of a device that pairing uses. -/
structure DeviceState where
  identityKey : KeyPair
  noiseKey : KeyPair
  advSecretKey : Bytes

/-- The error of `do_pair_crypto`. -/
structure PairCryptoError where
  code : Nat
  text : String

/-- What the tasks use of wacore's `PairUtils`. -/
structure PairUtils where
  /-- The self-signed identity and its key index. -/
  doPairCrypto : DeviceState → Bytes → Except PairCryptoError (Bytes × UInt32)
  buildPairSuccessResponse : String → Bytes → UInt32 → Node

variable [WacoreBinary]

/-- A result or an error for the IQ with this id. -/
def IsReplyTo (id : String) (n : Node) : Prop :=
  n.tag = "iq" ∧ (n.attrText "type" = some "result" ∨ n.attrText "type" = some "error") ∧
    n.attrText "id" = some id

instance (id : String) (n : Node) : Decidable (IsReplyTo id n) :=
  inferInstanceAs (Decidable (_ ∧ _))

/-- What the tasks rely on: the response is a reply to the request. -/
structure PairUtils.Lawful (utils : PairUtils) : Prop where
  response_isReplyTo : ∀ id identity keyIndex,
    IsReplyTo id (utils.buildPairSuccessResponse id identity keyIndex)

/-! ## The nodes of a pairing -/

/-- The content, if it is bytes. -/
def bytesOf : Node → Option Bytes
  | .mk _ _ (some (.bytes b)) => some b
  | _ => none

/-- `is_pair_device_node`. -/
def isPairDeviceNode (n : Node) : Bool :=
  n.tag = "iq" && n.attrText "type" = some "set" && n.hasChild "pair-device"

/-- `extract_pair_device_refs`. -/
def extractPairDeviceRefs (n : Node) : Option (List String) :=
  (n.child "pair-device").bind fun pairDevice =>
    let refs := ((pairDevice.children.getD []).filter (·.tag = "ref")).filterMap fun c =>
      (bytesOf c).bind fun b => String.fromUTF8? ⟨b.toArray⟩
    if refs.isEmpty then none else some refs

/-- `is_pair_success_node`. -/
def isPairSuccessNode (n : Node) : Bool :=
  n.tag = "iq" && n.attrText "type" = some "set" && n.hasChild "pair-success"

/-- The errors of `handle_pair_success`. -/
inductive PairError where
  /-- `ClientError::Protocol`. -/
  | protocol (message : String)
  /-- `AuthError::PairFailed`. -/
  | pairFailed (message : String)

/-- `handle_pair_success`, up to the node that it sends. -/
def handlePairSuccess (utils : PairUtils) (device : DeviceState) (n : Node) :
    Except PairError Node := do
  let some reqId := n.attrText "id"
    | throw (.protocol "pair-success missing id attribute")
  let some children := n.children
    | throw (.protocol "pair-success has no children")
  let some successNode := children.find? (·.tag = "pair-success")
    | throw (.protocol "pair-success missing pair-success child")
  let some deviceIdentity := (successNode.child "device-identity").bind bytesOf
    | throw (.protocol "pair-success missing device-identity bytes")
  match utils.doPairCrypto device deviceIdentity with
  | .error e =>
      throw (.pairFailed
        ("crypto validation failed (" ++ toString e.code ++ "): " ++ e.text))
  | .ok (selfSignedIdentity, keyIndex) =>
      return utils.buildPairSuccessResponse reqId selfSignedIdentity keyIndex

/-! ## The tasks -/

/-- A pairing task that is active, where it waits for an event. -/
inductive PairingTask where
  /-- `run_qr_pairing`, before a pair-device. -/
  | qrWaiting (device : DeviceState)
  /-- `run_qr_pairing`, while it shows the QR codes of the refs. -/
  | qrShowing (device : DeviceState) (refs : List String)
  /-- The task of `request_pair_code`, with the device as it reads it. -/
  | pairCode (device : DeviceState)

namespace PairingTask

/-- What a task sends for an event, and how it goes on if it does. -/
def onEvent (utils : PairUtils) (task : PairingTask) (event : RawEvent) :
    List Node × Option PairingTask :=
  match task, event with
  | _, .disconnected => ([], none)
  | .qrWaiting device, .node n =>
      if isPairDeviceNode n then
        (((n.attrText "id").map ackNode).toList,
          some (match extractPairDeviceRefs n with
            | none => .qrWaiting device
            | some refs => .qrShowing device refs))
      else ([], some task)
  | .qrShowing device _, .node n | .pairCode device, .node n =>
      if isPairSuccessNode n then ((handlePairSuccess utils device n).toOption.toList, none)
      else ([], some task)
  | _, _ => ([], some task)

/-- What a task sends for a node. -/
def sends (utils : PairUtils) (n : Node) (task : PairingTask) : List Node :=
  (task.onEvent utils (.node n)).1

section Sends

variable (utils : PairUtils) (device : DeviceState) (refs : List String) (n : Node)

theorem sends_qrWaiting :
    (qrWaiting device).sends utils n =
      if isPairDeviceNode n then ((n.attrText "id").map ackNode).toList else [] := by
  simp only [sends, onEvent]
  split <;> rfl

theorem sends_qrShowing :
    (qrShowing device refs).sends utils n =
      if isPairSuccessNode n then (handlePairSuccess utils device n).toOption.toList else [] := by
  simp only [sends, onEvent]
  split <;> rfl

theorem sends_pairCode :
    (pairCode device).sends utils n =
      if isPairSuccessNode n then (handlePairSuccess utils device n).toOption.toList else [] := by
  simp only [sends, onEvent]
  split <;> rfl

end Sends

end PairingTask

/-- What is sent for a node: the acknowledgement, and what the tasks send. -/
def sentFor (utils : PairUtils) (tasks : List PairingTask) (n : Node) : List Node :=
  (routeNode n).ack.toList ++ tasks.flatMap (·.sends utils n)

/-- The nodes that reply to an IQ with this id. -/
def repliesTo (id : String) (sent : List Node) : List Node := sent.filter (IsReplyTo id)

/-! ## Who answers -/

/-- The device identity of a pair-success, which `do_pair_crypto` takes. -/
def deviceIdentity (n : Node) : Option Bytes :=
  (n.child "pair-success").bind fun successNode =>
    (successNode.child "device-identity").bind bytesOf

/-- The node brings a device identity that wacore accepts. -/
def PairUtils.accepts (utils : PairUtils) (device : DeviceState) (n : Node) : Bool :=
  (deviceIdentity n).any fun identity => (utils.doPairCrypto device identity).isOk

/-- The task answers this `set`: it waits for a pair-device, or it can sign. -/
def PairingTask.answers (utils : PairUtils) (n : Node) : PairingTask → Bool
  | .qrWaiting _ => n.hasChild "pair-device"
  | .qrShowing device _ | .pairCode device => utils.accepts device n

section Replies

variable {utils : PairUtils} {device : DeviceState} {n : Node} {id : String}

theorem isReplyTo_ackNode (id : String) : IsReplyTo id (ackNode id) :=
  ⟨rfl, Or.inl rfl, rfl⟩

theorem repliesTo_append (id : String) (sent sent' : List Node) :
    repliesTo id (sent ++ sent') = repliesTo id sent ++ repliesTo id sent' :=
  List.filter_append ..

theorem repliesTo_singleton (h : IsReplyTo id n) : repliesTo id [n] = [n] :=
  List.filter_cons_of_pos (by simpa using h)

/-- `handle_pair_success` sends a response if wacore accepts the device identity. -/
theorem handlePairSuccess_toOption (hid : n.attrText "id" = some id) :
    (handlePairSuccess utils device n).toOption =
      (deviceIdentity n).bind fun identity =>
        (utils.doPairCrypto device identity).toOption.map fun signed =>
          utils.buildPairSuccessResponse id signed.1 signed.2 := by
  have hchild : n.child "pair-success" = n.children.bind (·.find? (·.tag = "pair-success")) := rfl
  rw [handlePairSuccess, deviceIdentity, hid, hchild]
  cases n.children with
  | none => rfl
  | some children =>
      simp only [Option.bind_some]
      cases children.find? (·.tag = "pair-success") with
      | none => rfl
      | some successNode =>
          simp only [Option.bind_some]
          cases (successNode.child "device-identity").bind bytesOf with
          | none => rfl
          | some identity =>
              simp only [Option.bind_some]
              cases utils.doPairCrypto device identity with
              | error e => rfl
              | ok signed => rfl

/-- So it sends one reply or none. -/
theorem length_replies_handlePairSuccess (hutils : utils.Lawful)
    (hid : n.attrText "id" = some id) :
    (repliesTo id (handlePairSuccess utils device n).toOption.toList).length =
      if utils.accepts device n then 1 else 0 := by
  rw [handlePairSuccess_toOption hid, PairUtils.accepts]
  cases deviceIdentity n with
  | none => rfl
  | some identity =>
      rw [Option.bind_some, Option.any_some]
      cases utils.doPairCrypto device identity with
      | error e => rfl
      | ok signed =>
          have hreply := hutils.response_isReplyTo id signed.1 signed.2
          exact congrArg List.length (repliesTo_singleton hreply)

omit [WacoreBinary] in
/-- A node without a pair-success has no device identity. -/
theorem not_accepts (h : n.hasChild "pair-success" = false) :
    utils.accepts device n = false := by
  have hnone : n.child "pair-success" = none := by
    simp only [Node.child]
    simp only [Node.hasChild] at h
    cases hchildren : n.children with
    | none => rfl
    | some children =>
        rw [hchildren] at h
        simpa using h
  simp only [PairUtils.accepts, deviceIdentity]
  rw [hnone]
  rfl

theorem isPairDeviceNode_eq (n : Node) :
    isPairDeviceNode n = (decide (IsSetIq n) && n.hasChild "pair-device") :=
  congrArg (· && n.hasChild "pair-device") (Bool.decide_and _ _).symm

theorem isPairSuccessNode_eq (n : Node) :
    isPairSuccessNode n = (decide (IsSetIq n) && n.hasChild "pair-success") :=
  congrArg (· && n.hasChild "pair-success") (Bool.decide_and _ _).symm

/-- A task replies to a `set` once if it answers it. -/
theorem PairingTask.length_replies (hutils : utils.Lawful) (hset : IsSetIq n)
    (hid : n.attrText "id" = some id) (task : PairingTask) :
    (repliesTo id (task.sends utils n)).length = if task.answers utils n then 1 else 0 := by
  have hsigns : ∀ device, (repliesTo id (if isPairSuccessNode n then
      (handlePairSuccess utils device n).toOption.toList else [])).length =
        if utils.accepts device n then 1 else 0 := by
    intro device
    rw [isPairSuccessNode_eq, decide_eq_true hset, Bool.true_and]
    cases hsuccess : n.hasChild "pair-success" with
    | true => exact length_replies_handlePairSuccess hutils hid
    | false => rw [not_accepts hsuccess]; rfl
  cases task with
  | qrWaiting device =>
      rw [sends_qrWaiting, isPairDeviceNode_eq, decide_eq_true hset, Bool.true_and, hid, answers]
      cases n.hasChild "pair-device" with
      | true => exact congrArg List.length (repliesTo_singleton (isReplyTo_ackNode id))
      | false => rfl
  | qrShowing device refs =>
      rw [sends_qrShowing]
      exact hsigns device
  | pairCode device =>
      rw [sends_pairCode]
      exact hsigns device

/-- The tasks that answer a `set` send one reply each. -/
theorem length_replies_tasks (hutils : utils.Lawful) (hset : IsSetIq n)
    (hid : n.attrText "id" = some id) (tasks : List PairingTask) :
    (repliesTo id (tasks.flatMap (·.sends utils n))).length =
      tasks.countP (·.answers utils n) := by
  induction tasks with
  | nil => rfl
  | cons task tasks ih =>
      rw [List.flatMap_cons, repliesTo_append, List.length_append, ih, List.countP_cons,
        task.length_replies hutils hset hid, Nat.add_comm]

/-- A `set` that brings no pair-success is acknowledged. -/
theorem length_replies_ack (hset : IsSetIq n) (hid : n.attrText "id" = some id) :
    (repliesTo id (routeNode n).ack.toList).length =
      if n.hasChild "pair-success" then 0 else 1 := by
  simp only [routeNode]
  rw [if_pos hset, hid]
  cases n.hasChild "pair-success" with
  | true => rfl
  | false => exact congrArg List.length (repliesTo_singleton (isReplyTo_ackNode id))

/-- A `set` is acknowledged unless it brings a pair-success, and every task that
answers it sends one reply more. -/
theorem length_replies (hutils : utils.Lawful) (hset : IsSetIq n)
    (hid : n.attrText "id" = some id) (tasks : List PairingTask) :
    (repliesTo id (sentFor utils tasks n)).length =
      (if n.hasChild "pair-success" then 0 else 1) + tasks.countP (·.answers utils n) := by
  rw [sentFor, repliesTo_append, List.length_append, length_replies_ack hset hid,
    length_replies_tasks hutils hset hid]

/-- Nothing is sent for an IQ that is no `set`. -/
theorem sentFor_of_not_set (hset : ¬ IsSetIq n) (tasks : List PairingTask) :
    sentFor utils tasks n = [] := by
  have htask : ∀ task : PairingTask, task.sends utils n = [] := by
    intro task
    have hdevice : isPairDeviceNode n = false := by
      rw [isPairDeviceNode_eq, decide_eq_false hset, Bool.false_and]
    have hsuccess : isPairSuccessNode n = false := by
      rw [isPairSuccessNode_eq, decide_eq_false hset, Bool.false_and]
    cases task with
    | qrWaiting device => rw [PairingTask.sends_qrWaiting, hdevice]; rfl
    | qrShowing device refs => rw [PairingTask.sends_qrShowing, hsuccess]; rfl
    | pairCode device => rw [PairingTask.sends_pairCode, hsuccess]; rfl
  simp only [sentFor, routeNode]
  rw [if_neg hset]
  simpa using fun task _ => htask task

/-- A `set` that one task answers if it brings a pair-success, and no task otherwise. -/
def AnsweredOnce (utils : PairUtils) (tasks : List PairingTask) (n : Node) : Prop :=
  n.attrText "type" = some "set" ∧
    tasks.countP (·.answers utils n) = if n.hasChild "pair-success" then 1 else 0

/-- A `set` reaches no waiter. -/
theorem waiters_of_set {config : ConnectionConfig} {s t : ConnState} (hset : IsSetIq n)
    (hstep : ConnStep config s (.frame n) t) : t.waiters = s.waiters := by
  cases hstep with
  | frameOther _ _ => rfl
  | frameIq _ hwaiter => exact absurd hset.2 (routeNode_waiter_iff.mp hwaiter).2.1

/-- An IQ of the server consumes no waiter and is answered once exactly if it is a
`set`, and one task answers it if it brings a pair-success, and none otherwise. -/
theorem server_iq_answered_once_iff {config : ConnectionConfig} {s t : ConnState}
    (hutils : utils.Lawful) (tasks : List PairingTask) (hiq : n.tag = "iq")
    (hid : n.attrText "id" = some id) (hstep : ConnStep config s (.frame n) t) :
    (t.waiters = s.waiters ∧ (repliesTo id (sentFor utils tasks n)).length = 1) ↔
      AnsweredOnce utils tasks n := by
  by_cases htype : n.attrText "type" = some "set"
  · have hset : IsSetIq n := ⟨hiq, htype⟩
    have hcount : (repliesTo id (sentFor utils tasks n)).length = 1 ↔
        tasks.countP (·.answers utils n) = if n.hasChild "pair-success" then 1 else 0 := by
      rw [length_replies hutils hset hid]
      split <;> omega
    rw [hcount]
    exact and_congr_left fun _ => iff_of_true (waiters_of_set hset hstep) htype
  · have hnone : sentFor utils tasks n = [] := sentFor_of_not_set (fun hset => htype hset.2) tasks
    rw [hnone]
    exact iff_of_false (fun h => by cases h.2) fun h => htype h.1

end Replies

/-- Utilities that reject every device identity. -/
def rejectingPairUtils : PairUtils where
  doPairCrypto _ _ := .error ⟨401, "hmac-mismatch"⟩
  buildPairSuccessResponse reqId identity keyIndex :=
    .mk "iq"
      [("to", .string WacoreBinary.serverJid), ("id", .string reqId), ("type", .string "result")]
      (some (.nodes [.mk "pair-device-sign" []
        (some (.nodes [.mk "device-identity" [("key-index", .string (toString keyIndex))]
          (some (.bytes identity))]))]))

theorem rejectingPairUtils_lawful : rejectingPairUtils.Lawful where
  response_isReplyTo _ _ _ := ⟨rfl, Or.inl rfl, rfl⟩

def zeroDevice : DeviceState where
  identityKey := ⟨0, 0⟩
  noiseKey := ⟨0, 0⟩
  advSecretKey := []

/-- A server IQ with one child. -/
def serverIq (child : String) : Node :=
  .mk "iq" [("type", .string "set"), ("id", .string "1")] (some (.nodes [.mk child [] none]))

omit [WacoreBinary] in
/-- A pair-code IQ is left to the acknowledgement. -/
theorem server_iq_answered_once_pairCode :
    letI := plainWacore
    ∃ t, ConnStep ⟨true⟩ (ConnState.new.setPhase .reading) (.frame (serverIq "pair-code")) t ∧
      t.waiters = (ConnState.new.setPhase .reading).waiters ∧
      (repliesTo "1" (sentFor rejectingPairUtils [.qrWaiting zeroDevice, .pairCode zeroDevice]
        (serverIq "pair-code"))).length = 1 := by
  let _ := plainWacore
  have hstep : ConnStep ⟨true⟩ (ConnState.new.setPhase .reading)
      (.frame (serverIq "pair-code")) _ := .frameOther rfl rfl
  refine ⟨_, hstep, ?_⟩
  exact (server_iq_answered_once_iff rejectingPairUtils_lawful _ rfl rfl hstep).mpr ⟨rfl, rfl⟩

omit [WacoreBinary] in
/-- A pair-device is acknowledged once more by a QR task. -/
theorem server_iq_answered_twice :
    letI := plainWacore
    ¬ ∀ (config : ConnectionConfig) (s t : ConnState) (n : Node) (id : String)
      (tasks : List PairingTask), n.tag = "iq" →
        n.attrText "type" = some "set" ∨ n.attrText "type" = some "get" →
        n.attrText "id" = some id → ConnStep config s (.frame n) t →
        t.waiters = s.waiters ∧ (repliesTo id (sentFor rejectingPairUtils tasks n)).length = 1 := by
  let _ := plainWacore
  intro hall
  have hstep : ConnStep ⟨true⟩ (ConnState.new.setPhase .reading)
      (.frame (serverIq "pair-device")) _ := .frameOther rfl rfl
  have honce := (hall _ _ _ _ "1" [.qrWaiting zeroDevice] rfl (Or.inl rfl) rfl hstep).2
  have htwice : (repliesTo "1" (sentFor rejectingPairUtils [.qrWaiting zeroDevice]
      (serverIq "pair-device"))).length = 2 :=
    length_replies rejectingPairUtils_lawful ⟨rfl, rfl⟩ rfl _
  cases honce.symm.trans htwice

end Waepic.Client
