import Waepic.Binary.Node
import Waepic.Connection.Error

/-!
# Message operations

The operations of `messages.rs` that send content.  Each builds a `wa::Message`
and a `<message>` node for it and hands the node to `send_node`; the node holds
the encoded message in a `<plaintext>` child, except that `send_message` has the
message encrypted unless the chat is a newsletter.

The protobuf encoding and the encryption are `buffa`'s and wacore's, so they are
parameters (`Wacore`).  The arguments that `send_message` passes as empty to the
encryption are left out.
-/

namespace Waepic.Client

open Binary Connection

/-! ## Arguments -/

inductive Chat where
  | user (jid : Jid)
  | group (jid : Jid)
  | newsletter (jid : Jid)
  | other (jid : Jid)
deriving DecidableEq, Repr

def Chat.jid : Chat → Jid
  | user jid | group jid | newsletter jid | other jid => jid

def Chat.isNewsletter : Chat → Bool
  | newsletter _ => true
  | _ => false

/-- The fields of `InputMessage` that are sent. -/
structure InputMessage where
  text : Option String
  replyTo : Option String
deriving DecidableEq, Repr

/-- Who revokes a message. -/
inductive RevokeType where
  | sender
  | admin (originalSender : Jid)
deriving DecidableEq, Repr

/-! ## Protobuf messages -/

structure MessageKey where
  remoteJid : Option String
  fromMe : Option Bool
  id : Option String
  participant : Option String

structure ContextInfo where
  stanzaId : Option String := none
  remoteJid : Option String := none
  isForwarded : Option Bool := none
  forwardingScore : Option Nat := none

structure ExtendedTextMessage where
  text : Option String
  contextInfo : Option ContextInfo

structure ReactionMessage where
  key : MessageKey
  text : Option String
  senderTimestampMs : Option Nat

inductive ProtocolMessageType where
  | revoke
  | messageEdit
  | peerDataOperationRequestMessage

inductive PeerDataOperationRequestType where
  | fullHistorySyncOnDemand
  | historySyncOnDemand

structure PeerDataOperationRequestMessage where
  type : PeerDataOperationRequestType
  /-- The request id of a full history sync. -/
  requestId : Option String := none
  /-- The chat of a history sync. -/
  chatJid : Option String := none

structure ProtocolMessage (μ : Type) where
  type : ProtocolMessageType
  key : Option MessageKey := none
  editedMessage : Option μ := none
  timestampMs : Option Nat := none
  peerDataOperationRequestMessage : Option PeerDataOperationRequestMessage := none

/-- The fields of `wa::Message` that the client sets. -/
structure WaMessage where
  conversation : Option String := none
  extendedTextMessage : Option ExtendedTextMessage := none
  protocolMessage : Option (ProtocolMessage WaMessage) := none
  reactionMessage : Option ReactionMessage := none

/-- Convert an `InputMessage` into a `wa::Message`. -/
def inputToProto (msg : InputMessage) : WaMessage :=
  match msg.replyTo with
  | some replyToId =>
      { extendedTextMessage := some
          { text := msg.text, contextInfo := some { stanzaId := some replyToId } } }
  | none => { conversation := msg.text }

section

variable [WacoreBinary]

/-- The key of a message of this client. -/
def ownMessageKey (chatJid : Jid) (messageId : String) (participant : Option String) :
    MessageKey where
  remoteJid := some (WacoreBinary.jidText chatJid)
  fromMe := some true
  id := some messageId
  participant := participant

def buildEditProto (chatJid : Jid) (messageId : String) (newContent : WaMessage)
    (timestampMs : Nat) : WaMessage where
  protocolMessage := some
    { type := .messageEdit
      key := some (ownMessageKey chatJid messageId none)
      editedMessage := some newContent
      timestampMs := some timestampMs }

def buildRevokeProto (chatJid : Jid) (messageId : String) (participant : Option String) :
    WaMessage where
  protocolMessage := some
    { type := .revoke
      key := some (ownMessageKey chatJid messageId participant) }

def buildForwardProto (sourceJid : Jid) (originalMsgId : String) : WaMessage where
  extendedTextMessage := some
    { text := some "[Forwarded message]"
      contextInfo := some
        { stanzaId := some originalMsgId
          remoteJid := some (WacoreBinary.jidText sourceJid)
          isForwarded := some true
          forwardingScore := some 1 } }

def buildReactionProto (chatJid : Jid) (messageId emoji : String) (timestampMs : Nat) :
    WaMessage where
  reactionMessage := some
    { key := ownMessageKey chatJid messageId none
      text := some emoji
      senderTimestampMs := some timestampMs }

def buildPdoProto (pdo : PeerDataOperationRequestMessage) : WaMessage where
  protocolMessage := some
    { type := .peerDataOperationRequestMessage
      peerDataOperationRequestMessage := some pdo }

end

/-! ## The client -/

/-- `AdvSignedDeviceIdentity`, encoded. -/
abbrev Account := Bytes

/-- What the client uses of `buffa` and of wacore's encryption.  `σ` is what the
encryption reads and writes: the Signal stores, and what the server tells it of
the recipients. -/
structure Wacore (σ : Type) where
  /-- `proto.encode_to_vec()`. -/
  encodeToVec : WaMessage → Bytes
  isGroup : Jid → Bool
  prepareDmStanza :
    σ → Jid → Option Jid → Option Account → Jid → WaMessage → String → Except String Node × σ
  prepareGroupStanza :
    σ → Jid → Jid → Option Account → Jid → WaMessage → String → Except String Node × σ

inductive ClientError where
  | connection (e : ConnectionError)
  | notLoggedIn
  | encryptSend (message : String)
  | internal (message : String)

structure ClientState (σ : Type) where
  /-- The account of the device. -/
  pn : Option Jid
  lid : Option Jid
  account : Option Account
  signal : σ
  /-- `MSG_ID_COUNTER`. -/
  msgIdCounter : UInt64
  /-- The clock at each reading, in milliseconds. -/
  clock : Nat → Nat
  readings : Nat
  /-- What the sends of the operation return. -/
  sendResult : Nat → Result Unit
  /-- The nodes handed to `send_node`, oldest first. -/
  handed : List Node

abbrev ClientM (σ : Type) := ExceptT ClientError (StateM (ClientState σ))

variable {σ : Type}

def now : ClientM σ Nat := do
  let s ← get
  set { s with readings := s.readings + 1 }
  return s.clock s.readings

def sendNode (node : Node) : ClientM σ Unit := do
  let s ← get
  set { s with handed := s.handed ++ [node] }
  match s.sendResult s.handed.length with
  | .ok () => return ()
  | .error e => throw (.connection e)

/-- `{n:0>width$x}`. -/
def hexPadded (width n : Nat) : String :=
  String.ofList (List.leftpad width '0' (Nat.toDigits 16 n))

/-- Generate a message id: `3EB0`, the seconds and the counter. -/
def generateMessageId : ClientM σ String := do
  let s ← get
  set { s with msgIdCounter := s.msgIdCounter + 1 }
  let ms ← now
  return "3EB0" ++ hexPadded 8 (ms / 1000) ++ hexPadded 10 s.msgIdCounter.toNat

/-- The value, or the error. -/
def okOr {α : Type} (e : ClientError) : Option α → ClientM σ α
  | some a => return a
  | none => throw e

/-- A message that was sent. -/
structure SentMessage where
  proto : WaMessage
  id : String
  chat : Jid
  sender : Jid
  isFromMe : Bool
  timestamp : Nat

/-- A `<message>` with the encoded message in a `<plaintext>`. -/
def plaintextNode (wacore : Wacore σ) (toJid : Jid) (msgId : String) (proto : WaMessage) : Node :=
  .mk "message" [("to", .jid toJid), ("type", .string "text"), ("id", .string msgId)]
    (some (.nodes [.mk "plaintext" [] (some (.bytes (wacore.encodeToVec proto)))]))

def buildMessageNode (wacore : Wacore σ) (toJid : Jid) (msgId : String) (proto : WaMessage) :
    Node :=
  plaintextNode wacore toJid msgId proto

def buildReactionNode (wacore : Wacore σ) (toJid : Jid) (msgId : String) (proto : WaMessage) :
    Node :=
  plaintextNode wacore toJid msgId proto

/-- The stanza that wacore prepared, with the state it left. -/
def prepared (context : String) (result : Except String Node × σ) : ClientM σ Node := do
  modify fun s => { s with signal := result.2 }
  match result.1 with
  | .ok node => return node
  | .error e => throw (.encryptSend (context ++ e))

/-- Encrypt a message for a DM or a group. -/
def encryptMessage (wacore : Wacore σ) (jid : Jid) (msgId : String) (proto : WaMessage) :
    ClientM σ Node := do
  let s ← get
  let ownJid ← okOr .notLoggedIn s.pn
  if wacore.isGroup jid then
    let ownLid ← okOr (.internal "LID not set, cannot send to group") s.lid
    prepared "group encrypt failed: "
      (wacore.prepareGroupStanza s.signal ownJid ownLid s.account jid proto msgId)
  else
    prepared "dm encrypt failed: "
      (wacore.prepareDmStanza s.signal ownJid s.lid s.account jid proto msgId)

/-! ## Operations -/

/-- Send a message to a chat: in plaintext to a newsletter, encrypted otherwise. -/
def sendMessage (wacore : Wacore σ) (chat : Chat) (msg : InputMessage) :
    ClientM σ SentMessage := do
  let msgId ← generateMessageId
  let proto := inputToProto msg
  let node ←
    if chat.isNewsletter then pure (buildMessageNode wacore chat.jid msgId proto)
    else encryptMessage wacore chat.jid msgId proto
  sendNode node
  let timestamp ← now
  return {
    proto := proto, id := msgId, chat := chat.jid, sender := chat.jid, isFromMe := true
    timestamp := timestamp }

variable [WacoreBinary]

def sendReaction (wacore : Wacore σ) (chat : Chat) (messageId emoji : String) :
    ClientM σ Unit := do
  let msgId ← generateMessageId
  let timestampMs ← now
  let proto := buildReactionProto chat.jid messageId emoji timestampMs
  sendNode (buildReactionNode wacore chat.jid msgId proto)

def editMessage (wacore : Wacore σ) (chat : Chat) (messageId : String) (newText : InputMessage) :
    ClientM σ Unit := do
  let newMsgId ← generateMessageId
  let newContent := inputToProto newText
  let timestampMs ← now
  let proto := buildEditProto chat.jid messageId newContent timestampMs
  sendNode (buildMessageNode wacore chat.jid newMsgId proto)

def revokeMessage (wacore : Wacore σ) (chat : Chat) (messageId : String)
    (revokeType : RevokeType) : ClientM σ Unit := do
  let newMsgId ← generateMessageId
  let participant := match revokeType with
    | .sender => none
    | .admin originalSender => some (WacoreBinary.jidText originalSender)
  let proto := buildRevokeProto chat.jid messageId participant
  sendNode (buildMessageNode wacore chat.jid newMsgId proto)

def deleteMessages (wacore : Wacore σ) (chat : Chat) (messageIds : List String) :
    ClientM σ Unit :=
  messageIds.forM fun messageId => revokeMessage wacore chat messageId .sender

def forwardMessages (wacore : Wacore σ) (dest : Chat) (messageIds : List String)
    (source : Chat) : ClientM σ Unit :=
  messageIds.forM fun messageId => do
    let newId ← generateMessageId
    let proto := buildForwardProto source.jid messageId
    sendNode (buildMessageNode wacore dest.jid newId proto)

def downloadFullHistory (wacore : Wacore σ) : ClientM σ Unit := do
  let s ← get
  let pn ← okOr .notLoggedIn s.pn
  let requestId ← generateMessageId
  let proto := buildPdoProto { type := .fullHistorySyncOnDemand, requestId := some requestId }
  let msgId ← generateMessageId
  sendNode (buildMessageNode wacore pn msgId proto)

def downloadChatHistory (wacore : Wacore σ) (chatJid : Jid) : ClientM σ Unit := do
  let s ← get
  let pn ← okOr .notLoggedIn s.pn
  let proto := buildPdoProto
    { type := .historySyncOnDemand, chatJid := some (WacoreBinary.jidText chatJid) }
  let msgId ← generateMessageId
  sendNode (buildMessageNode wacore pn msgId proto)

/-- A call of an operation. -/
inductive Operation where
  | sendMessage (chat : Chat) (msg : InputMessage)
  | sendReaction (chat : Chat) (messageId emoji : String)
  | editMessage (chat : Chat) (messageId : String) (newText : InputMessage)
  | revokeMessage (chat : Chat) (messageId : String) (revokeType : RevokeType)
  | deleteMessages (chat : Chat) (messageIds : List String)
  | forwardMessages (dest : Chat) (messageIds : List String) (source : Chat)
  | downloadFullHistory
  | downloadChatHistory (chatJid : Jid)

def Operation.perform (wacore : Wacore σ) : Operation → ClientM σ Unit
  | sendMessage chat msg => do
      let _ ← Client.sendMessage wacore chat msg
      return ()
  | sendReaction chat messageId emoji => Client.sendReaction wacore chat messageId emoji
  | editMessage chat messageId newText => Client.editMessage wacore chat messageId newText
  | revokeMessage chat messageId revokeType =>
      Client.revokeMessage wacore chat messageId revokeType
  | deleteMessages chat messageIds => Client.deleteMessages wacore chat messageIds
  | forwardMessages dest messageIds source =>
      Client.forwardMessages wacore dest messageIds source
  | downloadFullHistory => Client.downloadFullHistory wacore
  | downloadChatHistory chatJid => Client.downloadChatHistory wacore chatJid

end Waepic.Client
