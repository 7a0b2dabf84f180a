import Waepic.Client.Messages
import Waepic.Client.Pairing
import Waepic.Client.Failure

/-!
# Incoming messages

`process_incoming_node` turns a `<message>` into updates.  A node with `<enc>`
children is decrypted: the session elements are tried in order until one
decrypts, then, if none did, the group elements.  The decrypted message is
unwrapped, and a history sync notification, a sender key or a message to show is
taken from it.  A node without `<enc>` children carries the message in plaintext.

The decryption is libsignal's, the classification of the elements and the
protobuf messages are wacore's, so they are parameters (`Decoder`).  `σ` is what
the Signal stores hold and `κ` the content of a message that the client only
passes on.  What the operations on the stores, the downloads and the sends are
called with is recorded.
-/

namespace Waepic.Client

open Binary Connection

/-! ## Decrypted messages -/

/-- `wa::message::HistorySyncType`, by number. -/
abbrev HistorySyncType := Nat

structure HistorySyncNotification where
  initialHistBootstrapInlinePayload : Option Bytes
  directPath : Option String
  mediaKey : Option Bytes
  fileSha256 : Option Bytes
  fileEncSha256 : Option Bytes
  fileLength : Option Nat
  progress : Option Nat
  syncType : Option HistorySyncType
deriving DecidableEq

/-- What the client reads of the protocol message in a received message. -/
structure ReceivedProtocolMessage where
  historySyncNotification : Option HistorySyncNotification
deriving DecidableEq

structure SenderKeyDistributionMessage where
  groupId : Option String
  axolotlSenderKeyDistributionMessage : Option Bytes
deriving DecidableEq

/-- A received `wa::Message`. -/
structure ReceivedMessage (κ : Type) where
  protocolMessage : Option ReceivedProtocolMessage
  senderKeyDistributionMessage : Option SenderKeyDistributionMessage
  /-- The other fields. -/
  content : κ
deriving DecidableEq

/-- `protocol_message.history_sync_notification`. -/
def ReceivedMessage.historySyncNotification {κ : Type} (m : ReceivedMessage κ) :
    Option HistorySyncNotification :=
  m.protocolMessage.bind (·.historySyncNotification)

/-! ## Updates -/

structure MessageSource where
  chat : Jid
  sender : Jid
  isFromMe : Bool
deriving DecidableEq

structure MessageInfo where
  id : String
  source : MessageSource
  /-- In seconds. -/
  timestamp : Int
  type : String
deriving DecidableEq

structure Message (κ : Type) where
  raw : ReceivedMessage κ
  info : MessageInfo
  chat : Chat

/-- A conversation of a history sync. -/
structure SyncedConversation (κ : Type) where
  jid : Jid
  name : Option String
  messages : List (Message κ)
  pinned : Bool
  archived : Bool
  muted : Bool
  unreadCount : Nat

structure HistorySyncChunk (κ : Type) where
  conversations : List (SyncedConversation κ)
  progress : Option Nat
  syncType : Option HistorySyncType

/-- The updates of messages and history syncs. -/
inductive MessageUpdate (κ : Type) where
  | newMessage (m : Message κ)
  | historySync (chunk : HistorySyncChunk κ)
  | historySyncCompleted

def MessageUpdate.isHistorySync {κ : Type} : MessageUpdate κ → Bool
  | historySync _ => true
  | _ => false

/-- A history sync to process in the background. -/
structure BackgroundHistorySync where
  compressed : Bytes
  msgId : String
  progress : Option Nat
  syncType : Option HistorySyncType
deriving DecidableEq

/-- Result of processing an incoming node. -/
inductive IncomingNodeResult (κ : Type) where
  | updates (us : List (MessageUpdate κ))
  | backgroundHistorySync (sync : BackgroundHistorySync)

/-! ## What wacore and libsignal do -/

structure ProtocolAddress where
  name : String
  deviceId : Nat
deriving DecidableEq, Repr

structure SenderKeyName where
  group : String
  sender : ProtocolAddress
deriving DecidableEq

inductive EncType where
  | preKeyMessage
  | message
  | senderKey
  | other
deriving DecidableEq

structure EncInfo where
  encType : EncType
  ciphertext : Bytes
deriving DecidableEq

/-- `categorize_enc_nodes`. -/
structure CategorizedEncNodes where
  sessionEnc : List EncInfo
  groupEnc : List EncInfo

inductive CiphertextMessage where
  | preKeySignalMessage (serialized : Bytes)
  | signalMessage (serialized : Bytes)
deriving DecidableEq

/-- What a download of a history sync asks for. -/
structure DownloadParams where
  directPath : String
  mediaKey : Bytes
  fileSha256 : Bytes
  fileEncSha256 : Bytes
  fileLength : Nat
deriving DecidableEq

/-- What `process_incoming_node` uses of wacore, libsignal, `buffa` and `chrono`. -/
structure Decoder (σ κ : Type) where
  /-- `Jid::from_str`. -/
  parseJid : String → Option Jid
  categorizeEncNodes : List Node → CategorizedEncNodes
  /-- `PreKeySignalMessage::try_from` accepts the bytes. -/
  isPreKeySignalMessage : Bytes → Bool
  /-- `SignalMessage::try_from` accepts the bytes. -/
  isSignalMessage : Bytes → Bool
  messageDecrypt : CiphertextMessage → ProtocolAddress → σ → Except String Bytes × σ
  groupDecrypt : Bytes → SenderKeyName → σ → Except String Bytes × σ
  decodePlaintext : Bytes → Nat → Except String (ReceivedMessage κ)
  unwrapDeviceSent : ReceivedMessage κ → ReceivedMessage κ
  isSenderKeyDistributionOnly : ReceivedMessage κ → Bool
  /-- `SenderKeyDistributionMessage::try_from` accepts the bytes. -/
  isSenderKeyDistributionMessage : Bytes → Bool
  processSenderKeyDistributionMessage : SenderKeyName → Bytes → σ → Except String Unit × σ
  /-- `wa::Message::decode_from_slice`. -/
  decodeMessage : Bytes → Except String (ReceivedMessage κ)
  /-- `DateTime::from_timestamp` accepts the seconds. -/
  isTimestamp : Int → Bool

/-- What the client finds around it while it handles a node. -/
structure Surroundings where
  /-- The `download` feature is on. -/
  downloadFeature : Bool
  /-- What `client.download` returns. -/
  download : DownloadParams → Except String Bytes
  /-- `Utc::now`. -/
  now : Int

/-! ## Numbers and JIDs in attributes -/

/-- `str::parse::<i64>`. -/
def parseI64 (s : String) : Option Int :=
  match s.toList with
  | '-' :: cs => ((parseDigits cs).filter (· ≤ 2 ^ 63)).map fun n => -(n : Int)
  | '+' :: cs => ((parseDigits cs).filter (· < 2 ^ 63)).map Int.ofNat
  | cs => ((parseDigits cs).filter (· < 2 ^ 63)).map Int.ofNat

/-- `str::parse::<u8>`. -/
def parseU8 (s : String) : Option Nat :=
  match s.toList with
  | '+' :: cs => (parseDigits cs).filter (· < 2 ^ 8)
  | cs => (parseDigits cs).filter (· < 2 ^ 8)

variable {σ κ : Type}

/-- `NodeValue::to_jid`. -/
def Decoder.toJid (d : Decoder σ κ) : NodeValue → Option Jid
  | .jid j => some j
  | .string s => d.parseJid s

/-- `node.attrs.get(key).and_then(NodeValue::to_jid)`. -/
def Decoder.attrJid (d : Decoder σ κ) (n : Node) (key : String) : Option Jid :=
  (n.attr key).bind d.toJid

/-- `client.chat`. -/
def Chat.ofJid (jid : Jid) : Chat :=
  if jid.server = "s.whatsapp.net" ∨ jid.server = "lid" then .user jid
  else if jid.server = "g.us" then .group jid
  else if jid.server = "newsletter" then .newsletter jid
  else .other jid

/-! ## Decryption -/

/-- The ciphertext of a session element, if it parses. -/
def Decoder.ciphertextMessage (d : Decoder σ κ) (e : EncInfo) : Option CiphertextMessage :=
  match e.encType with
  | .preKeyMessage =>
      if d.isPreKeySignalMessage e.ciphertext then some (.preKeySignalMessage e.ciphertext)
      else none
  | .message =>
      if d.isSignalMessage e.ciphertext then some (.signalMessage e.ciphertext) else none
  | _ => none

/-- The loop over the session elements: the first that decrypts. -/
def decryptSession (d : Decoder σ κ) (address : ProtocolAddress) :
    List EncInfo → σ → Option Bytes × σ
  | [], s => (none, s)
  | e :: es, s =>
      match d.ciphertextMessage e with
      | none => decryptSession d address es s
      | some ciphertext =>
          match d.messageDecrypt ciphertext address s with
          | (.ok plaintext, s) => (some plaintext, s)
          | (.error _, s) => decryptSession d address es s

/-- The loop over the group elements: the first that decrypts. -/
def decryptGroup (d : Decoder σ κ) (name : SenderKeyName) : List EncInfo → σ → Option Bytes × σ
  | [], s => (none, s)
  | e :: es, s =>
      match d.groupDecrypt e.ciphertext name s with
      | (.ok plaintext, s) => (some plaintext, s)
      | (.error _, s) => decryptGroup d name es s

/-- The session elements, and the group elements if none of these decrypts. -/
def decryptEnc (d : Decoder σ κ) (address : ProtocolAddress) (group : String)
    (enc : CategorizedEncNodes) (s : σ) : Option Bytes × σ :=
  match decryptSession d address enc.sessionEnc s with
  | (some plaintext, s) => (some plaintext, s)
  | (none, s) => decryptGroup d ⟨group, address⟩ enc.groupEnc s

/-! ## What is done with a decrypted message -/

/-- What a node is processed with. -/
structure MessageContext where
  fromJid : Jid
  senderJid : Jid
  address : ProtocolAddress
  msgId : String
  msgType : String
  timestamp : Int

/-- What processing a node returns, leaves and does. -/
structure Processed (σ κ : Type) where
  result : IncomingNodeResult κ
  signal : σ
  /-- The calls of `process_sender_key_distribution_message`. -/
  distributed : List (SenderKeyName × Bytes)
  downloads : List DownloadParams
  /-- The nodes handed to `send_node`. -/
  sent : List Node

/-- No update, and nothing done. -/
def Processed.nothing (s : σ) : Processed σ κ where
  result := .updates []
  signal := s
  distributed := []
  downloads := []
  sent := []

/-- What to download for a notification, if it says where and with which key. -/
def HistorySyncNotification.downloadParams (notif : HistorySyncNotification) :
    Option DownloadParams :=
  match notif.directPath, notif.mediaKey with
  | some directPath, some mediaKey => some
      { directPath := directPath
        mediaKey := mediaKey
        fileSha256 := notif.fileSha256.getD []
        fileEncSha256 := notif.fileEncSha256.getD []
        fileLength := notif.fileLength.getD 0 }
  | _, _ => none

/-- The history sync of a notification, if there is one to process: the inline
payload, or what is downloaded. -/
def receiveHistorySync (env : Surroundings) (msgId : String) (notif : HistorySyncNotification) :
    Option BackgroundHistorySync × List DownloadParams :=
  match notif.initialHistBootstrapInlinePayload with
  | some inlinePayload => (some ⟨inlinePayload, msgId, notif.progress, notif.syncType⟩, [])
  | none =>
      if env.downloadFeature then
        match notif.downloadParams with
        | none => (none, [])
        | some params =>
            match env.download params with
            | .ok data => (some ⟨data, msgId, notif.progress, notif.syncType⟩, [params])
            | .error _ => (none, [params])
      else (none, [])

/-- The result for a history sync notification. -/
def IncomingNodeResult.ofHistorySync : Option BackgroundHistorySync → IncomingNodeResult κ
  | some sync => .backgroundHistorySync sync
  | none => .updates []

/-- The sender key of a message, if it has one that parses. -/
def Decoder.senderKey (d : Decoder σ κ) (address : ProtocolAddress) (m : ReceivedMessage κ) :
    Option (SenderKeyName × Bytes) :=
  m.senderKeyDistributionMessage.bind fun skdm =>
    skdm.axolotlSenderKeyDistributionMessage.bind fun skdmBytes =>
      if d.isSenderKeyDistributionMessage skdmBytes then
        some (⟨skdm.groupId.getD "", address⟩, skdmBytes)
      else none

/-- A message that distributes a sender key and nothing else. -/
def installSenderKey (d : Decoder σ κ) (address : ProtocolAddress) (m : ReceivedMessage κ)
    (s : σ) : Processed σ κ :=
  match d.senderKey address m with
  | some (name, skdmBytes) =>
      { (.nothing (d.processSenderKeyDistributionMessage name skdmBytes s).2 : Processed σ κ) with
        distributed := [(name, skdmBytes)] }
  | none => .nothing s

/-- The `MessageInfo` of a message in a node. -/
def MessageContext.info (c : MessageContext) (sender : Jid) : MessageInfo where
  id := c.msgId
  source := { chat := c.fromJid, sender := sender, isFromMe := false }
  timestamp := c.timestamp
  type := c.msgType

/-- `decrypt_e2e_message`, from the unwrapped message on. -/
def receiveMessage (d : Decoder σ κ) (env : Surroundings) (c : MessageContext)
    (m : ReceivedMessage κ) (s : σ) : Processed σ κ :=
  match m.historySyncNotification with
  | some notif =>
      let (sync, downloads) := receiveHistorySync env c.msgId notif
      { (.nothing s : Processed σ κ) with result := .ofHistorySync sync, downloads := downloads }
  | none =>
      if d.isSenderKeyDistributionOnly m then installSenderKey d c.address m s
      else
        { (.nothing s : Processed σ κ) with
          result := .updates [.newMessage ⟨m, c.info c.senderJid, .ofJid c.fromJid⟩] }

/-! ## Nodes -/

/-- `extract_plaintext_content`. -/
def extractPlaintextContent (n : Node) : Option Bytes :=
  match n.child "plaintext" with
  | some (.mk _ _ (some (.bytes b))) => some b
  | some (.mk _ _ (some (.string s))) => some s.toUTF8.data.toList
  | _ => bytesOf n

/-- The `<enc>` children. -/
def encChildren (n : Node) : List Node := (n.children.getD []).filter (·.tag = "enc")

variable [WacoreBinary]

/-- The padding version: of the first `<enc>` child. -/
def paddingVersion (enc : List Node) : Nat :=
  ((enc.head?.bind fun e => e.attrText "v").bind parseU8).getD 2

/-- The `t` attribute, or the current time. -/
def messageTimestamp (d : Decoder σ κ) (env : Surroundings) (n : Node) : Int :=
  (((n.attrText "t").bind parseI64).filter d.isTimestamp).getD env.now

/-- What a message node from this JID is processed with. -/
def messageContext (d : Decoder σ κ) (env : Surroundings) (n : Node) (fromJid : Jid) :
    MessageContext :=
  let senderJid := (d.attrJid n "participant").getD fromJid
  { fromJid := fromJid
    senderJid := senderJid
    address := ⟨WacoreBinary.jidText senderJid, 0⟩
    msgId := (n.attrText "id").getD ""
    msgType := (n.attrText "type").getD ""
    timestamp := messageTimestamp d env n }

/-- The message in the `<enc>` children of a node, unwrapped, and the stores after
its decryption. -/
def decryptedMessage (d : Decoder σ κ) (c : MessageContext) (enc : List Node) (s : σ) :
    Option (ReceivedMessage κ) × σ :=
  match decryptEnc d c.address (WacoreBinary.jidText c.fromJid) (d.categorizeEncNodes enc) s with
  | (none, s) => (none, s)
  | (some plaintext, s) =>
      ((d.decodePlaintext plaintext (paddingVersion enc)).toOption.map d.unwrapDeviceSent, s)

def decryptE2eMessage (d : Decoder σ κ) (env : Surroundings) (c : MessageContext)
    (enc : List Node) (s : σ) : Processed σ κ :=
  match decryptedMessage d c enc s with
  | (none, s) => .nothing s
  | (some m, s) => receiveMessage d env c m s

/-- The delivery receipt of a message. -/
def deliveryReceipt (c : MessageContext) : Node :=
  .mk "receipt"
    [("to", .jid c.fromJid), ("type", .string "delivery"), ("id", .string c.msgId),
      ("t", .string (toString c.timestamp))]
    none

/-- The delivery receipt is sent for updates that hold no history sync. -/
def deliveryReceipts (c : MessageContext) : IncomingNodeResult κ → List Node
  | .updates us => if us.isEmpty || us.any (·.isHistorySync) then [] else [deliveryReceipt c]
  | .backgroundHistorySync _ => []

/-- A message without `<enc>` children. -/
def receivePlaintext (d : Decoder σ κ) (c : MessageContext) (n : Node) (s : σ) :
    Processed σ κ :=
  match (extractPlaintextContent n).bind fun b => (d.decodeMessage b).toOption with
  | some m =>
      { (.nothing s : Processed σ κ) with
        result := .updates [.newMessage ⟨m, c.info c.fromJid, .ofJid c.fromJid⟩] }
  | none => .nothing s

/-- Process an incoming node.  No path of the source returns an error. -/
def processIncomingNode (d : Decoder σ κ) (env : Surroundings) (n : Node) (s : σ) :
    Processed σ κ :=
  if n.tag = "message" then
    match d.attrJid n "from" with
    | none => .nothing s
    | some fromJid =>
        let c := messageContext d env n fromJid
        if (encChildren n).isEmpty then receivePlaintext d c n s
        else
          let p := decryptE2eMessage d env c (encChildren n) s
          { p with sent := deliveryReceipts c p.result }
  else .nothing s

/-- What a node comes to: nothing, a plaintext message or a decrypted one. -/
theorem processIncomingNode_cases (d : Decoder σ κ) (env : Surroundings) (n : Node) (s : σ) :
    ((n.tag ≠ "message" ∨ d.attrJid n "from" = none) ∧
      processIncomingNode d env n s = .nothing s) ∨
    ∃ fromJid, n.tag = "message" ∧ d.attrJid n "from" = some fromJid ∧
      (((encChildren n).isEmpty = true ∧
          processIncomingNode d env n s =
            receivePlaintext d (messageContext d env n fromJid) n s) ∨
        ((encChildren n).isEmpty = false ∧
          processIncomingNode d env n s =
            { decryptE2eMessage d env (messageContext d env n fromJid) (encChildren n) s with
              sent := deliveryReceipts (messageContext d env n fromJid)
                (decryptE2eMessage d env (messageContext d env n fromJid)
                  (encChildren n) s).result })) := by
  by_cases htag : n.tag = "message"
  · cases hfrom : d.attrJid n "from" with
    | none => exact .inl ⟨.inr rfl, by simp [processIncomingNode, hfrom]⟩
    | some fromJid =>
        refine .inr ⟨fromJid, htag, rfl, ?_⟩
        cases henc : (encChildren n).isEmpty with
        | true => exact .inl ⟨rfl, by simp [processIncomingNode, htag, hfrom, henc]⟩
        | false => exact .inr ⟨rfl, by simp [processIncomingNode, htag, hfrom, henc]⟩
  · exact .inl ⟨.inl htag, if_neg htag⟩

end Waepic.Client
