import Waepic.Client.IbChildren
import Waepic.Client.Receipts
import Waepic.Library.Panics

/-!
# Handlers that may panic

A node is handled by one of ten functions, which parse what the server sent.  Most
of them only do what cannot fail: a missing attribute, a number or a JID that does
not parse is an `Option`.  Three operations may panic.  `process_incoming_node`
logs the first eight bytes of the id of a message, if the level of the log enables
it; `handle_pair_code_notification` expects a public key of 32 bytes; and a task of
`handle_ib` expects `SERVER_JID` to be a JID.  These functions are `Checked`
computations.

wacore promises what is expected of it (`HandlerLibrary.Lawful`).  So a node makes a
handler panic exactly if it is a message whose id has a character across byte 8, and
debug messages are logged (`handlers_return_iff`).  A panic aborts the process, so a
client survives exactly the calls without such a node (`returns_handleAll_iff`).
-/

namespace Waepic.Client

open Panics Binary Connection

variable {σ κ τ : Type} [WacoreBinary]

/-! ## Presence -/

/-- A contact's online/offline presence. -/
structure Presence where
  chat : Chat
  available : Bool
  lastSeen : Option Nat

def handlePresence (d : Decoder σ κ) (n : Node) : Option Presence :=
  (d.attrJid n "from").map fun fromJid =>
    { chat := .ofJid fromJid
      available := n.attrText "type" ≠ some "unavailable"
      lastSeen := (n.attrText "last").bind parseU64 }

inductive ChatPresenceState where
  | composing
  | paused
deriving DecidableEq, Repr

/-- A contact's chat-activity state. -/
structure ChatPresence where
  chat : Chat
  sender : Chat
  state : ChatPresenceState

/-- The state that the children of a `<chatstate>` tell. -/
def chatPresenceState (n : Node) : Option ChatPresenceState :=
  if (n.child "composing").isSome then some .composing
  else if (n.child "paused").isSome then some .paused
  else none

def handleChatstate (d : Decoder σ κ) (n : Node) : Option ChatPresence :=
  (d.attrJid n "from").bind fun fromJid =>
    (chatPresenceState n).map fun state =>
      { chat := .ofJid fromJid
        sender := .ofJid ((d.attrJid n "participant").getD fromJid)
        state := state }

/-! ## Notifications -/

structure ContactUpdate where
  jid : Jid
  name : Option String
  pushName : Option String

structure GroupUpdate where
  jid : Jid
  name : Option String
  participants : List Jid

structure PictureUpdate where
  jid : Jid
  author : Option Jid
  timestamp : Nat
  removed : Bool
  pictureId : Option String

structure PushNameUpdate where
  jid : Jid
  oldPushName : String
  newPushName : String

structure DisappearingModeChanged where
  fromJid : Jid
  duration : Nat
  settingTimestamp : Nat

/-- The updates that `handle_notification` produces. -/
inductive NotificationUpdate where
  | contactUpdate (u : ContactUpdate)
  | groupUpdate (u : GroupUpdate)
  | pictureUpdate (u : PictureUpdate)
  | pushNameUpdate (u : PushNameUpdate)
  | disappearingModeChanged (u : DisappearingModeChanged)

def handleContactsNotification (d : Decoder σ κ) (n : Node) : Option ContactUpdate :=
  (n.child "update").bind fun update =>
    (d.attrJid update "jid").map fun jid =>
      { jid := jid, name := update.attrText "name", pushName := update.attrText "push_name" }

/-- The participants in the `<add>` and `<remove>` children. -/
def groupParticipants (d : Decoder σ κ) (n : Node) : List Jid :=
  ((n.children.getD []).filter fun child => child.tag = "add" || child.tag = "remove").flatMap
    fun child =>
      ((child.children.getD []).filter (·.tag = "participant")).filterMap (d.attrJid · "jid")

def handleGroupNotification (d : Decoder σ κ) (contentAsString : Node → Option String)
    (n : Node) : Option GroupUpdate :=
  (d.attrJid n "from").map fun groupJid =>
    { jid := groupJid
      name := (n.child "subject").bind contentAsString
      participants := groupParticipants d n }

def handlePictureNotification (d : Decoder σ κ) (n : Node) : Option PictureUpdate :=
  (d.attrJid n "from").map fun fromJid =>
    let timestamp := ((n.attrText "t").bind parseU64).getD 0
    if (n.child "remove").isSome then
      { jid := fromJid, author := none, timestamp := timestamp, removed := true,
        pictureId := none }
    else
      { jid := fromJid, author := none, timestamp := timestamp, removed := false
        pictureId := ((n.child "set").or (n.child "picture")).bind (·.attrText "id") }

def handlePushNameNotification (d : Decoder σ κ) (contentAsString : Node → Option String)
    (n : Node) : Option PushNameUpdate :=
  (d.attrJid n "from").map fun fromJid =>
    { jid := fromJid
      oldPushName := ""
      newPushName := ((n.child "push").bind contentAsString).getD "" }

def handleDisappearingModeNotification (d : Decoder σ κ) (n : Node) :
    Option DisappearingModeChanged :=
  (d.attrJid n "from").map fun fromJid =>
    { fromJid := fromJid
      duration := ((n.attrText "duration").bind parseU32).getD 0
      settingTimestamp := ((n.attrText "t").bind parseU64).getD 0 }

/-- The update of a notification, by its type. -/
def notificationUpdate (d : Decoder σ κ) (contentAsString : Node → Option String) (n : Node) :
    Option NotificationUpdate :=
  match (n.attrText "type").getD "" with
  | "contacts" => (handleContactsNotification d n).map .contactUpdate
  | "w:gp2" => (handleGroupNotification d contentAsString n).map .groupUpdate
  | "picture" => (handlePictureNotification d n).map .pictureUpdate
  | "w:push" | "push_name" =>
      (handlePushNameNotification d contentAsString n).map .pushNameUpdate
  | "disappearing_mode" =>
      (handleDisappearingModeNotification d n).map .disappearingModeChanged
  | _ => none

/-! ## Pair codes -/

/-- The update `PairingCode`. -/
structure PairingCode where
  code : String
  timeout : Nat

/-- Process a `<pair-code>` IQ that the server sends. -/
def handlePairCode (n : Node) : Option PairingCode :=
  if n.tag = "iq" ∧ n.attrText "type" = some "set" then
    (n.child "pair-code").bind fun pairCode =>
      let code := (pairCode.attrText "code").getD ""
      if code = "" then none
      else some ⟨code, ((pairCode.attrText "timeout").bind parseU64).getD 120⟩
  else none

/-! ## What the handlers use and find -/

/-- What the handlers use of wacore and libsignal. -/
structure HandlerLibrary (σ κ τ : Type) extends
    HandlerWacore σ κ, HistoryDecoder σ κ, ReceiptDecoder σ κ τ where
  /-- `Node::content_as_string`. -/
  contentAsString : Node → Option String
  /-- `public_key_bytes`. -/
  publicKeyBytes : Nat → Bytes

/-- What is expected of wacore: keys have 32 bytes, and `SERVER_JID` is a JID. -/
structure HandlerLibrary.Lawful (w : HandlerLibrary σ κ τ) : Prop where
  length_publicKeyBytes : ∀ publicKey, (w.publicKeyBytes publicKey).length = 32
  parses_serverJid : (w.parseJid WacoreBinary.serverJid).isSome = true

/-- The levels up to which `tracing` is enabled. -/
inductive TraceLevel where
  | off
  | error
  | warn
  | info
  | debug
  | trace
deriving DecidableEq, Repr

/-- The arguments of `tracing::debug!` are computed. -/
def TraceLevel.enablesDebug : TraceLevel → Bool
  | debug | trace => true
  | off | error | warn | info => false

structure HandlerSurroundings extends Surroundings where
  level : TraceLevel
  /-- What is behind the lock of the state. -/
  pairCodeState : PairCodeState
  /-- The `identity_key` of the device. -/
  identityKey : KeyPair
  /-- The random id of `companion_finish`. -/
  reqId : String
  /-- `send_node` takes `companion_finish`. -/
  finishSent : Bool

/-! ## Messages -/

/-- The debug message for a received message. -/
def logReceived (level : TraceLevel) (n : Node) : Checked Unit :=
  match n.attrText "id" with
  | none => pure ()
  | some s =>
      if level.enablesDebug then discard (sliceTo s (min 8 s.utf8ByteSize)) else pure ()

/-- `process_incoming_node`.  The message is logged once its sender is known; the other
log statements only write values out. -/
def HandlerLibrary.processIncomingNode (w : HandlerLibrary σ κ τ) (env : HandlerSurroundings)
    (n : Node) (s : σ) : Checked (Processed σ κ) := do
  if n.tag = "message" ∧ (w.attrJid n "from").isSome then
    logReceived env.level n
  return Client.processIncomingNode w.toDecoder env.toSurroundings n s

/-! ## Confirmations of a pair code -/

/-- `<[u8; n]>::try_from`. -/
def tryIntoArray (n : Nat) (b : Bytes) : Option (Vector UInt8 n) :=
  if h : b.length = n then some ⟨b.toArray, by simpa using h⟩ else none

/-- What `handle_pair_code_notification` returns, leaves and does. -/
structure ConfirmationHandled where
  handled : Bool
  state : PairCodeState
  /-- The new secret of the device. -/
  advSecretKey : Option Bytes
  /-- The `companion_finish` handed to `send_node`. -/
  finish : Option Node

/-- `handle_pair_code_notification`, without what other tasks do meanwhile.  A save that
fails is logged. -/
def HandlerLibrary.handlePairCodeNotification (w : HandlerLibrary σ κ τ)
    (env : HandlerSurroundings) (n : Node) : Checked ConfirmationHandled :=
  match pairCodeFields n, env.pairCodeState with
  | none, state => pure ⟨false, state, none, none⟩
  | some f, .waitingForPhoneConfirmation p =>
      match w.pairCode.keyBundle p f env.identityKey with
      | .error _ => pure ⟨false, .idle, none, none⟩
      | .ok (wrappedBundle, newAdvSecret) => do
          let _ ← expect (tryIntoArray 32 (w.publicKeyBytes env.identityKey.publicKey))
            "identity key is 32 bytes"
          let iq := w.pairCode.buildCompanionFinishIq p.phoneJid wrappedBundle
            env.identityKey.publicKey p.pairingRef env.reqId
          return ⟨env.finishSent, if env.finishSent then .completed else .idle,
            some newAdvSecret, some iq⟩
  | some _, _ => pure ⟨false, .idle, none, none⟩

/-- `handle_notification`: other notifications than a confirmation have an update. -/
def HandlerLibrary.handleNotification (w : HandlerLibrary σ κ τ) (env : HandlerSurroundings)
    (n : Node) : Checked (ConfirmationHandled × Option NotificationUpdate) := do
  let confirmation ← w.handlePairCodeNotification env n
  if confirmation.handled then return (confirmation, none)
  return (confirmation, notificationUpdate w.toDecoder w.contentAsString n)

/-! ## Information broadcasts -/

/-- The `build_iq` of an `AppStateSyncSpec` that asks for a snapshot. -/
def HandlerLibrary.appStateSyncQuery (w : HandlerLibrary σ κ τ) (name : String) :
    Checked InfoQuery := do
  let serverJid ← expect (w.parseJid WacoreBinary.serverJid) "SERVER_JID is a valid JID"
  let collection : Node :=
    .mk "collection" [("name", .string name), ("return_snapshot", .string "true")] none
  let query : InfoQuery :=
    { id := none
      namespaceName := "w:sync:app:state"
      queryType := .set
      toJid := serverJid
      content := some (.nodes [.mk "sync" [] (some (.nodes [collection]))]) }
  return query

/-- What the tasks do that may panic: the query of an IQ is built. -/
def HandlerLibrary.runTask (w : HandlerLibrary σ κ τ) : IbEffect → Checked Unit
  | .appStateSync name => discard (w.appStateSyncQuery name)
  | _ => pure ()

/-- `handle_ib`, with the tasks that it spawns. -/
def HandlerLibrary.handleIb (w : HandlerLibrary σ κ τ) (n : Node) : Checked (List IbEffect) := do
  let effects := w.toHandlerWacore.handleIb (n.children.getD [])
  effects.forM w.runTask
  return effects

/-! ## All handlers -/

inductive NodeHandler where
  | processIncomingNode
  | handleReceipt
  | handlePresence
  | handleChatstate
  | handleNotification
  | handleFailure
  | handlePairCode
  | handleIb
  | processHistorySyncPayload (compressed : Bytes) (syncType : Option HistorySyncType)
      (progress : Option Nat)
  | extractHistorySyncPayload

inductive HandlerOutput (σ κ τ : Type) where
  | processed (p : Processed σ κ)
  | receipt (r : Option (Receipt τ))
  | presence (p : Option Presence)
  | chatPresence (p : Option ChatPresence)
  | notification (c : ConfirmationHandled) (u : Option NotificationUpdate)
  | failure (u : FailureUpdate)
  | pairingCode (c : Option PairingCode)
  | ib (effects : List IbEffect)
  | historySync (us : List (MessageUpdate κ))
  | payload (compressed : Option Bytes)

/-- Call a handler with a node, or with a payload. -/
def NodeHandler.handle (w : HandlerLibrary σ κ τ) (env : HandlerSurroundings) (n : Node) (s : σ) :
    NodeHandler → Checked (HandlerOutput σ κ τ)
  | .processIncomingNode => .processed <$> w.processIncomingNode env n s
  | .handleReceipt => pure (.receipt (Client.handleReceipt w.toReceiptDecoder n))
  | .handlePresence => pure (.presence (Client.handlePresence w.toDecoder n))
  | .handleChatstate => pure (.chatPresence (Client.handleChatstate w.toDecoder n))
  | .handleNotification => (fun (c, u) => .notification c u) <$> w.handleNotification env n
  | .handleFailure => pure (.failure (Client.handleFailure w.contentAsString n))
  | .handlePairCode => pure (.pairingCode (Client.handlePairCode n))
  | .handleIb => .ib <$> w.handleIb n
  | .processHistorySyncPayload compressed syncType progress =>
      pure (.historySync (Client.processHistorySyncPayload w.toHistoryDecoder env.toSurroundings
        compressed syncType progress))
  | .extractHistorySyncPayload =>
      pure (.payload (Client.extractHistorySyncPayload w.toHistoryDecoder n))

/-- The node is a message that is logged, and a character of its id lies across byte 8. -/
structure CutsId (d : Decoder σ κ) (level : TraceLevel) (n : Node) : Prop where
  enabled : level.enablesDebug = true
  tag : n.tag = "message"
  known : (d.attrJid n "from").isSome = true
  straddles : ∃ id, n.attrText "id" = some id ∧ Straddles id 8

variable {w : HandlerLibrary σ κ τ} {env : HandlerSurroundings} {n : Node} {s : σ}

theorem returns_logReceived_iff {level : TraceLevel} :
    Returns (logReceived level n) ↔
      (level.enablesDebug = true → ∀ id, n.attrText "id" = some id → ¬ Straddles id 8) := by
  simp only [logReceived]
  cases n.attrText "id" with
  | none => exact iff_of_true ⟨(), rfl⟩ nofun
  | some id =>
      cases level.enablesDebug with
      | false => exact iff_of_true ⟨(), rfl⟩ nofun
      | true => simp [returns_sliceTo_min_iff]

theorem returns_processIncomingNode_iff :
    Returns (w.processIncomingNode env n s) ↔ ¬ CutsId w.toDecoder env.level n := by
  simp only [HandlerLibrary.processIncomingNode]
  by_cases hlogged : n.tag = "message" ∧ (w.attrJid n "from").isSome
  · simp only [hlogged, and_self, if_true, returns_bind_iff]
    constructor
    · rintro ⟨u, hlog, -⟩ hcuts
      obtain ⟨id, hid, hstraddles⟩ := hcuts.straddles
      exact returns_logReceived_iff.mp ⟨u, hlog⟩ hcuts.enabled id hid hstraddles
    · intro h
      obtain ⟨u, hlog⟩ : Returns (logReceived env.level n) :=
        returns_logReceived_iff.mpr fun henabled id hid hstraddles =>
          h ⟨henabled, hlogged.1, hlogged.2, id, hid, hstraddles⟩
      exact ⟨u, hlog, returns_pure _⟩
  · rw [if_neg hlogged]
    exact iff_of_true ⟨_, rfl⟩ fun hcuts => hlogged ⟨hcuts.tag, hcuts.known⟩

/-- The log changes nothing else. -/
theorem processIncomingNode_of_returns (h : ¬ CutsId w.toDecoder env.level n) :
    w.processIncomingNode env n s =
      .ok (Client.processIncomingNode w.toDecoder env.toSurroundings n s) := by
  obtain ⟨p, hp⟩ := returns_processIncomingNode_iff.mpr h
  rw [hp]
  simp only [HandlerLibrary.processIncomingNode] at hp
  split at hp
  · cases hlog : logReceived env.level n with
    | error e =>
        rw [hlog] at hp
        cases hp
    | ok u =>
        rw [hlog] at hp
        exact hp.symm
  · exact hp.symm

omit [WacoreBinary] in
theorem isSome_tryIntoArray {size : Nat} {b : Bytes} :
    (tryIntoArray size b).isSome = true ↔ b.length = size := by
  simp only [tryIntoArray]
  split
  · next h => exact iff_of_true rfl h
  · next h => exact iff_of_false nofun h

theorem returns_handlePairCodeNotification (hw : w.Lawful) :
    Returns (w.handlePairCodeNotification env n) := by
  simp only [HandlerLibrary.handlePairCodeNotification]
  split
  · exact returns_pure _
  · next f p hfields hstate =>
      cases w.pairCode.keyBundle p f env.identityKey with
      | error e => exact returns_pure _
      | ok bundle =>
          have hkey := isSome_tryIntoArray.mpr
            (hw.length_publicKeyBytes env.identityKey.publicKey)
          obtain ⟨identityPub, hexpect⟩ := returns_expect_iff.mpr hkey
          exact returns_bind_iff.mpr ⟨identityPub, hexpect, returns_pure _⟩
  · exact returns_pure _

omit [WacoreBinary] in
/-- `companion_finish` is sent for the state that the streams see taken. -/
theorem handlePairCodeNotification_finish {c : ConfirmationHandled}
    (h : w.handlePairCodeNotification env n = .ok c) :
    c.finish.isSome =
      (w.toHandlerWacore.handlePairCode env.identityKey n env.pairCodeState).1.isSome := by
  simp only [HandlerLibrary.handlePairCodeNotification, HandlerWacore.handlePairCode] at h ⊢
  cases hfields : pairCodeFields n with
  | none =>
      rw [hfields] at h
      cases h
      rfl
  | some f =>
      rw [hfields] at h
      cases hstate : env.pairCodeState with
      | waitingForPhoneConfirmation p =>
          rw [hstate] at h
          cases hbundle : w.pairCode.keyBundle p f env.identityKey with
          | error e =>
              simp only [hbundle] at h ⊢
              cases h
              rfl
          | ok bundle =>
              simp only [hbundle] at h ⊢
              cases hkey : tryIntoArray 32 (w.publicKeyBytes env.identityKey.publicKey) with
              | none =>
                  rw [hkey] at h
                  cases h
              | some identityPub =>
                  rw [hkey] at h
                  cases h
                  rfl
      | idle | completed =>
          rw [hstate] at h
          cases h
          rfl

theorem returns_handleNotification (hw : w.Lawful) : Returns (w.handleNotification env n) := by
  obtain ⟨c, hc⟩ : Returns (w.handlePairCodeNotification env n) :=
    returns_handlePairCodeNotification hw
  refine returns_bind_iff.mpr ⟨c, hc, ?_⟩
  cases c.handled <;> exact returns_pure _

theorem returns_runTask (hw : w.Lawful) (effect : IbEffect) : Returns (w.runTask effect) := by
  cases effect with
  | appStateSync name =>
      obtain ⟨serverJid, hexpect⟩ := returns_expect_iff.mpr hw.parses_serverJid
      exact returns_discard_iff.mpr (returns_bind_iff.mpr ⟨serverJid, hexpect, returns_pure _⟩)
  | _ => exact returns_pure _

theorem returns_handleIb (hw : w.Lawful) : Returns (w.handleIb n) := by
  obtain ⟨u, hu⟩ := returns_forM_iff.mpr fun effect
    (_ : effect ∈ w.toHandlerWacore.handleIb (n.children.getD [])) => returns_runTask hw effect
  exact returns_bind_iff.mpr ⟨u, hu, returns_pure _⟩

/-- Only `process_incoming_node` panics. -/
theorem returns_handle_iff (hw : w.Lawful) (h : NodeHandler) :
    Returns (h.handle w env n s) ↔
      (h = .processIncomingNode → ¬ CutsId w.toDecoder env.level n) := by
  cases h with
  | processIncomingNode =>
      rw [NodeHandler.handle, returns_map_iff, returns_processIncomingNode_iff]
      exact ⟨fun hcuts _ => hcuts, fun hcuts => hcuts rfl⟩
  | handleNotification =>
      exact iff_of_true (returns_map_iff.mpr (returns_handleNotification hw)) nofun
  | handleIb => exact iff_of_true (returns_map_iff.mpr (returns_handleIb hw)) nofun
  | _ => exact iff_of_true (returns_pure _) nofun

/-- A call of a handler, and what it finds. -/
structure HandlerCall (σ : Type) where
  handler : NodeHandler
  env : HandlerSurroundings
  node : Node
  signal : σ

/-- Calls one after the other.  The first panic aborts the process. -/
def HandlerLibrary.handleAll (w : HandlerLibrary σ κ τ) (calls : List (HandlerCall σ)) :
    Checked Unit :=
  calls.forM fun c => discard (c.handler.handle w c.env c.node c.signal)

/-- A client survives any calls in which no message with such an id is logged. -/
theorem returns_handleAll_iff (hw : w.Lawful) {calls : List (HandlerCall σ)} :
    Returns (w.handleAll calls) ↔
      ∀ c ∈ calls, c.handler = .processIncomingNode →
        ¬ CutsId w.toDecoder c.env.level c.node := by
  rw [HandlerLibrary.handleAll, returns_forM_iff]
  simp only [returns_discard_iff, returns_handle_iff hw]

/-- No handler panics exactly if the node is no message that is logged with a character of
its id across byte 8. -/
theorem handlers_return_iff (w : HandlerLibrary σ κ τ) (hw : w.Lawful)
    (env : HandlerSurroundings) (n : Node) (s : σ) :
    (∀ h : NodeHandler, Returns (h.handle w env n s)) ↔ ¬ CutsId w.toDecoder env.level n := by
  constructor
  · exact fun h => (returns_handle_iff hw _).mp (h .processIncomingNode) rfl
  · exact fun hcuts h => (returns_handle_iff hw h).mpr fun _ => hcuts

/-! ## A message that is logged -/

def exampleServerJid : Jid := ⟨"", "s.whatsapp.net", 0, 0, 0⟩

def exampleLibrary : HandlerLibrary (List SenderKeyName) (Option String) Bool :=
  { exampleHistoryDecoder, exampleReceiptDecoder with
    parseJid := fun s =>
      if s = "s.whatsapp.net" then some exampleServerJid else exampleDecoder.parseJid s
    pairCode := plainPairCodeUtils
    dirtyBit := fun dirtyType _ => .ok ⟨dirtyType, none⟩
    contentAsString := fun _ => none
    publicKeyBytes := fun publicKey => List.replicate 32 (UInt8.ofNat publicKey) }

omit [WacoreBinary] in
theorem exampleLibrary_lawful : letI := plainWacore; exampleLibrary.Lawful := by
  let _ := plainWacore
  exact ⟨fun _ => List.length_replicate, rfl⟩

/-- A client that logs debug messages. -/
def debugSurroundings : HandlerSurroundings :=
  { exampleSurroundings with
    level := .debug
    pairCodeState := .idle
    identityKey := ⟨1, 2⟩
    reqId := "00000000000000ff"
    finishSent := true }

/-- A text from a contact, under this id. -/
def greetingWithId (id : String) : Node :=
  .mk "message" [("from", .jid aliceJid), ("id", .string id)]
    (some (.nodes [sessionElement [2]]))

omit [WacoreBinary] in
theorem handlers_return_ascii_id :
    letI := plainWacore
    Returns (NodeHandler.processIncomingNode.handle exampleLibrary debugSurroundings
      (greetingWithId "3EB0A1B2C3") []) := by
  let _ := plainWacore
  refine (handlers_return_iff exampleLibrary exampleLibrary_lawful debugSurroundings
    (greetingWithId "3EB0A1B2C3") []).mpr ?_ .processIncomingNode
  rintro ⟨-, -, -, id, hid, hstraddles⟩
  cases hid
  revert hstraddles
  decide

omit [WacoreBinary] in
/-- The client panics when it logs an id with an `é` across byte 8. -/
theorem non_ascii_id_panics :
    letI := plainWacore
    ¬ ∀ (w : HandlerLibrary (List SenderKeyName) (Option String) Bool), w.Lawful →
      ∀ env n s (h : NodeHandler), Returns (h.handle w env n s) := by
  let _ := plainWacore
  intro hall
  have hreturns := hall exampleLibrary exampleLibrary_lawful debugSurroundings
    (greetingWithId "1234567é") [] .processIncomingNode
  refine returns_processIncomingNode_iff.mp (returns_map_iff.mp hreturns) ?_
  exact ⟨rfl, rfl, rfl, "1234567é", rfl, by decide⟩

end Waepic.Client
