import Waepic.Client.MessageIds
import Waepic.Client.MessageKeys
import Waepic.Library.FailFast

/-!
# Messages from client to client

An operation that sends in plaintext is a list of messages to send: one, or one for each
message that it deletes or forwards (`Operation.drafts`).  It sends them in their order and
stops at the first send that fails (`operation_sends`).

The server relays a node with `from` for `to`, and with a `t`.  What the client at the other
end makes of it is a new message with the id that was given to it, in which it reads the text
that was sent, and the message that it replies to, reacts to, edits or revokes
(`operation_delivered`).

That the decoder of the one client reads what the encoder of the other writes is a
hypothesis.
-/

namespace Waepic.Client

open Binary Connection FailFast

variable {σ τ : Type}

/-! ## What an operation has to send -/

/-- A message to send, before its id and its time. -/
inductive Draft where
  | message (toJid : Jid) (msg : InputMessage)
  | reaction (toJid : Jid) (messageId emoji : String)
  | edit (toJid : Jid) (messageId : String) (newText : InputMessage)
  | revoke (toJid : Jid) (messageId : String) (revokeType : RevokeType)
  | forward (toJid : Jid) (messageId : String) (sourceJid : Jid)
  | fullHistory (pn : Jid)
  | chatHistory (pn chatJid : Jid)

def Draft.toJid : Draft → Jid
  | message jid _ | reaction jid _ _ | edit jid _ _ | revoke jid _ _ | forward jid _ _ => jid
  | fullHistory jid | chatHistory jid _ => jid

/-- The operation sends in plaintext. -/
def Operation.Plain : Operation → Prop
  | sendMessage chat _ => chat.isNewsletter = true
  | _ => True

/-- The messages of an operation of a client with this account. -/
def Operation.drafts (pn : Option Jid) : Operation → Except ClientError (List Draft)
  | sendMessage chat msg => .ok [.message chat.jid msg]
  | sendReaction chat messageId emoji => .ok [.reaction chat.jid messageId emoji]
  | editMessage chat messageId newText => .ok [.edit chat.jid messageId newText]
  | revokeMessage chat messageId revokeType => .ok [.revoke chat.jid messageId revokeType]
  | deleteMessages chat messageIds =>
      .ok (messageIds.map fun messageId => .revoke chat.jid messageId .sender)
  | forwardMessages dest messageIds source =>
      .ok (messageIds.map fun messageId => .forward dest.jid messageId source.jid)
  | downloadFullHistory => pn.elim (.error .notLoggedIn) fun pn => .ok [.fullHistory pn]
  | downloadChatHistory chatJid =>
      pn.elim (.error .notLoggedIn) fun pn => .ok [.chatHistory pn chatJid]

/-- A message with its id. -/
structure Sent where
  toJid : Jid
  id : String
  proto : WaMessage

def Sent.node (wacore : Wacore σ) (m : Sent) : Node := plaintextNode wacore m.toJid m.id m.proto

section

variable [WacoreBinary]

/-- The protobuf of a message; a request for the full history has an id of its own. -/
def Draft.proto (requestId : String) (timestampMs : Nat) : Draft → WaMessage
  | message _ msg => inputToProto msg
  | reaction jid messageId emoji => buildReactionProto jid messageId emoji timestampMs
  | edit jid messageId newText =>
      buildEditProto jid messageId (inputToProto newText) timestampMs
  | revoke jid messageId .sender => buildRevokeProto jid messageId none
  | revoke jid messageId (.admin originalSender) =>
      buildRevokeProto jid messageId (some (WacoreBinary.jidText originalSender))
  | forward _ messageId sourceJid => buildForwardProto sourceJid messageId
  | fullHistory _ => buildPdoProto { type := .fullHistorySyncOnDemand, requestId := some requestId }
  | chatHistory _ chatJid => buildPdoProto
      { type := .historySyncOnDemand, chatJid := some (WacoreBinary.jidText chatJid) }

/-- The message of a draft, with the id of a count and a reading of the clock. -/
def Draft.sent (draft : Draft) (seconds : Nat) (count : UInt64) (requestId : String)
    (timestampMs : Nat) : Sent where
  toJid := draft.toJid
  id := messageId seconds count
  proto := draft.proto requestId timestampMs

/-- The message is this draft. -/
def Draft.Becomes (draft : Draft) (m : Sent) : Prop :=
  ∃ seconds count requestId timestampMs, m = draft.sent seconds count requestId timestampMs

/-- How the sends of a client end. -/
def handOutcome (s : ClientState σ) (n : Nat) : Except ClientError Unit :=
  (s.sendResult n).mapError .connection

/-- The operation sends these messages in their order until a send fails. -/
def SendsDrafts (wacore : Wacore σ) (m : ClientM σ Unit) (drafts : List Draft)
    (s : ClientState σ) : Prop :=
  ∃ sent, (exec m s).2.handed = s.handed ++ sent.map (·.node wacore) ∧
    (exec m s).2.sendResult = s.sendResult ∧
    Performs Draft.Becomes (handOutcome s) s.handed.length drafts sent (exec m s).1

/-! ## Every operation -/

omit [WacoreBinary] in
theorem exec_sendNode_eq (n : Node) (s : ClientState σ) :
    exec (sendNode n) s =
      (handOutcome s s.handed.length, { s with handed := s.handed ++ [n] }) := by
  rw [sendNode, exec_bind_ok (show exec get s = (.ok s, s) from rfl),
    exec_bind_ok (show exec (set _) s = (.ok (), _) from rfl), handOutcome]
  cases h : s.sendResult s.handed.length with
  | ok u => rfl
  | error e => rfl

omit [WacoreBinary] in
/-- The id that is generated, and the state after. -/
theorem exec_generateMessageId_eq (s : ClientState σ) :
    exec generateMessageId s =
      (.ok (messageId (s.clock s.readings / 1000) s.msgIdCounter),
        { s with msgIdCounter := s.msgIdCounter + 1, readings := s.readings + 1 }) := rfl

/-- An operation that sends one message. -/
theorem SendsDrafts.one (wacore : Wacore σ) {m : ClientM σ Unit} {draft : Draft} (sent : Sent)
    {s : ClientState σ} (hbecomes : draft.Becomes sent)
    (hhanded : (exec m s).2.handed = s.handed ++ [sent.node wacore])
    (hkept : (exec m s).2.sendResult = s.sendResult)
    (hresult : (exec m s).1 = handOutcome s s.handed.length) :
    SendsDrafts wacore m [draft] s := by
  refine ⟨[sent], hhanded, hkept, ?_⟩
  rw [hresult]
  exact .single hbecomes

/-- A send after the operation has only counted and read the clock. -/
theorem SendsDrafts.send (wacore : Wacore σ) {m : ClientM σ Unit} {draft : Draft} (sent : Sent)
    {s : ClientState σ} (hbecomes : draft.Becomes sent)
    (hexec : ∃ counter readings, exec m s = exec (sendNode (sent.node wacore))
      { s with msgIdCounter := counter, readings := readings }) :
    SendsDrafts wacore m [draft] s := by
  obtain ⟨counter, readings, hexec⟩ := hexec
  rw [exec_sendNode_eq] at hexec
  refine .one wacore sent hbecomes ?_ ?_ ?_
  · rw [hexec]
  · rw [hexec]
  · rw [hexec]
    rfl

/-- A loop over messages. -/
theorem SendsDrafts.forM {wacore : Wacore σ} {α : Type} {m : α → ClientM σ Unit} {draft : α → Draft}
    (hm : ∀ a s, SendsDrafts wacore (m a) [draft a] s) (as : List α) (s : ClientState σ) :
    SendsDrafts wacore (as.forM m) (as.map draft) s := by
  induction as generalizing s with
  | nil => exact ⟨[], (List.append_nil _).symm, rfl, .done⟩
  | cons a as ih =>
      obtain ⟨sent, hhanded, hresult, hperforms⟩ := hm a s
      rcases hexec : exec (m a) s with ⟨e | u, t⟩
      · rw [hexec] at hhanded hresult hperforms
        rw [SendsDrafts, show (a :: as).forM m = m a >>= fun _ => as.forM m from rfl,
          exec_bind_error hexec]
        exact ⟨sent, hhanded, hresult, hperforms.append_error rfl _⟩
      · rw [hexec] at hhanded hresult hperforms
        obtain ⟨sent', hhanded', hresult', hperforms'⟩ := ih t
        rw [SendsDrafts, show (a :: as).forM m = m a >>= fun _ => as.forM m from rfl,
          exec_bind_ok hexec]
        refine ⟨sent ++ sent', ?_, hresult'.trans hresult, ?_⟩
        · rw [hhanded', hhanded, List.map_append, List.append_assoc]
        · refine hperforms.append rfl ?_
          have hlength : s.handed.length + sent.length = t.handed.length := by
            rw [show t.handed = _ from hhanded, List.length_append, List.length_map]
          have houtcome : handOutcome s = handOutcome t := by
            funext n
            rw [handOutcome, handOutcome, show t.sendResult = _ from hresult]
          rw [hlength, houtcome]
          exact hperforms'

variable (wacore : Wacore σ) (s : ClientState σ)

/-- The message of a newsletter is sent, and the clock read once more. -/
theorem sendsDrafts_sendMessage {chat : Chat} (hchat : chat.isNewsletter = true)
    (msg : InputMessage) :
    SendsDrafts wacore ((Operation.sendMessage chat msg).perform wacore)
      [.message chat.jid msg] s := by
  have hsend : exec (sendNode (plaintextNode wacore chat.jid
        (messageId (s.clock s.readings / 1000) s.msgIdCounter) (inputToProto msg)))
        { s with msgIdCounter := s.msgIdCounter + 1, readings := s.readings + 1 } =
      (handOutcome s s.handed.length,
        { s with
          msgIdCounter := s.msgIdCounter + 1
          readings := s.readings + 1
          handed := s.handed ++ [plaintextNode wacore chat.jid
            (messageId (s.clock s.readings / 1000) s.msgIdCounter) (inputToProto msg)] }) :=
    exec_sendNode_eq _ _
  have hexec : ∃ readings, exec ((Operation.sendMessage chat msg).perform wacore) s =
      (handOutcome s s.handed.length,
        { s with
          msgIdCounter := s.msgIdCounter + 1
          readings := readings
          handed := s.handed ++ [plaintextNode wacore chat.jid
            (messageId (s.clock s.readings / 1000) s.msgIdCounter) (inputToProto msg)] }) := by
    simp only [Operation.perform, sendMessage, bind_assoc]
    rw [exec_bind_ok (exec_generateMessageId_eq s)]
    simp only [hchat, if_true, pure_bind, bind_assoc, buildMessageNode]
    cases houtcome : handOutcome s s.handed.length with
    | error e =>
        rw [houtcome] at hsend
        rw [exec_bind_error hsend]
        exact ⟨_, rfl⟩
    | ok u =>
        rw [houtcome] at hsend
        rw [exec_bind_ok hsend, exec_bind_ok (exec_now _)]
        exact ⟨_, rfl⟩
  obtain ⟨readings, hexec⟩ := hexec
  refine .one wacore ((Draft.message chat.jid msg).sent (s.clock s.readings / 1000)
    s.msgIdCounter "" 0) ⟨_, _, _, _, rfl⟩ ?_ ?_ ?_
  · rw [hexec]
    rfl
  · rw [hexec]
  · rw [hexec]

theorem sendsDrafts_sendReaction (chat : Chat) (messageId emoji : String) :
    SendsDrafts wacore (sendReaction wacore chat messageId emoji)
      [.reaction chat.jid messageId emoji] s := by
  refine .send wacore ((Draft.reaction chat.jid messageId emoji).sent
    (s.clock s.readings / 1000) s.msgIdCounter "" (s.clock (s.readings + 1)))
    ⟨_, _, _, _, rfl⟩ ⟨s.msgIdCounter + 1, s.readings + 1 + 1, ?_⟩
  rw [sendReaction, exec_bind_ok (exec_generateMessageId_eq s), exec_bind_ok (exec_now _)]
  rfl

theorem sendsDrafts_editMessage (chat : Chat) (messageId : String) (newText : InputMessage) :
    SendsDrafts wacore (editMessage wacore chat messageId newText)
      [.edit chat.jid messageId newText] s := by
  refine .send wacore ((Draft.edit chat.jid messageId newText).sent
    (s.clock s.readings / 1000) s.msgIdCounter "" (s.clock (s.readings + 1)))
    ⟨_, _, _, _, rfl⟩ ⟨s.msgIdCounter + 1, s.readings + 1 + 1, ?_⟩
  rw [editMessage, exec_bind_ok (exec_generateMessageId_eq s), exec_bind_ok (exec_now _)]
  rfl

theorem sendsDrafts_revokeMessage (chat : Chat) (messageId : String) (revokeType : RevokeType) :
    SendsDrafts wacore (revokeMessage wacore chat messageId revokeType)
      [.revoke chat.jid messageId revokeType] s := by
  refine .send wacore ((Draft.revoke chat.jid messageId revokeType).sent
    (s.clock s.readings / 1000) s.msgIdCounter "" 0) ⟨_, _, _, _, rfl⟩
    ⟨s.msgIdCounter + 1, s.readings + 1, ?_⟩
  cases revokeType with
  | sender => exact exec_bind_ok (exec_generateMessageId_eq s) _
  | admin originalSender => exact exec_bind_ok (exec_generateMessageId_eq s) _

theorem sendsDrafts_forwardMessages (dest : Chat) (messageIds : List String) (source : Chat) :
    SendsDrafts wacore (forwardMessages wacore dest messageIds source)
      (messageIds.map fun messageId => .forward dest.jid messageId source.jid) s := by
  refine .forM (fun messageId s => ?_) messageIds s
  refine .send wacore ((Draft.forward dest.jid messageId source.jid).sent
    (s.clock s.readings / 1000) s.msgIdCounter "" 0) ⟨_, _, _, _, rfl⟩
    ⟨s.msgIdCounter + 1, s.readings + 1, ?_⟩
  rw [exec_bind_ok (exec_generateMessageId_eq s)]
  rfl

/-- The id of the request is generated before the id of the message. -/
theorem sendsDrafts_downloadFullHistory {pn : Jid} (hpn : s.pn = some pn) :
    SendsDrafts wacore (downloadFullHistory wacore) [.fullHistory pn] s := by
  refine .send wacore ((Draft.fullHistory pn).sent (s.clock (s.readings + 1) / 1000)
    (s.msgIdCounter + 1) (messageId (s.clock s.readings / 1000) s.msgIdCounter) 0)
    ⟨_, _, _, _, rfl⟩ ⟨s.msgIdCounter + 1 + 1, s.readings + 1 + 1, ?_⟩
  have hok : exec (okOr .notLoggedIn s.pn) s = (.ok pn, s) := by rw [hpn]; rfl
  rw [downloadFullHistory, exec_bind_ok (show exec get s = (.ok s, s) from rfl), exec_bind_ok hok,
    exec_bind_ok (exec_generateMessageId_eq s), exec_bind_ok (exec_generateMessageId_eq _)]
  rfl

theorem sendsDrafts_downloadChatHistory (chatJid : Jid) {pn : Jid} (hpn : s.pn = some pn) :
    SendsDrafts wacore (downloadChatHistory wacore chatJid) [.chatHistory pn chatJid] s := by
  refine .send wacore ((Draft.chatHistory pn chatJid).sent (s.clock s.readings / 1000)
    s.msgIdCounter "" 0) ⟨_, _, _, _, rfl⟩ ⟨s.msgIdCounter + 1, s.readings + 1, ?_⟩
  have hok : exec (okOr .notLoggedIn s.pn) s = (.ok pn, s) := by rw [hpn]; rfl
  rw [downloadChatHistory, exec_bind_ok (show exec get s = (.ok s, s) from rfl),
    exec_bind_ok hok, exec_bind_ok (exec_generateMessageId_eq s)]
  rfl

/-- Without an account there is nothing to send, and an operation that sends in plaintext
sends its messages. -/
theorem operation_sends {op : Operation} (hop : op.Plain) :
    (s.pn = none ∧ op.drafts s.pn = .error .notLoggedIn ∧
      exec (op.perform wacore) s = (.error .notLoggedIn, s)) ∨
    ∃ drafts, op.drafts s.pn = .ok drafts ∧ SendsDrafts wacore (op.perform wacore) drafts s := by
  cases op with
  | sendMessage chat msg => exact .inr ⟨_, rfl, sendsDrafts_sendMessage wacore s hop msg⟩
  | sendReaction chat messageId emoji =>
      exact .inr ⟨_, rfl, sendsDrafts_sendReaction wacore s chat messageId emoji⟩
  | editMessage chat messageId newText =>
      exact .inr ⟨_, rfl, sendsDrafts_editMessage wacore s chat messageId newText⟩
  | revokeMessage chat messageId revokeType =>
      exact .inr ⟨_, rfl, sendsDrafts_revokeMessage wacore s chat messageId revokeType⟩
  | deleteMessages chat messageIds =>
      refine .inr ⟨_, rfl, .forM (fun messageId s => ?_) messageIds s⟩
      exact sendsDrafts_revokeMessage wacore s chat messageId .sender
  | forwardMessages dest messageIds source =>
      exact .inr ⟨_, rfl, sendsDrafts_forwardMessages wacore s dest messageIds source⟩
  | downloadFullHistory =>
      cases hpn : s.pn with
      | none =>
          refine .inl ⟨rfl, rfl, ?_⟩
          have herror : exec (okOr .notLoggedIn s.pn) s = (.error .notLoggedIn, s) := by
            rw [hpn]
            rfl
          exact (exec_bind_ok (show exec get s = (.ok s, s) from rfl) _).trans
            (exec_bind_error herror _)
      | some pn => exact .inr ⟨_, rfl, sendsDrafts_downloadFullHistory wacore s hpn⟩
  | downloadChatHistory chatJid =>
      cases hpn : s.pn with
      | none =>
          refine .inl ⟨rfl, rfl, ?_⟩
          have herror : exec (okOr .notLoggedIn s.pn) s = (.error .notLoggedIn, s) := by
            rw [hpn]
            rfl
          exact (exec_bind_ok (show exec get s = (.ok s, s) from rfl) _).trans
            (exec_bind_error herror _)
      | some pn => exact .inr ⟨_, rfl, sendsDrafts_downloadChatHistory wacore s chatJid hpn⟩

end

/-! ## At the other end -/

/-- The node that the server makes of the node of a message. -/
def relayedNode (fromJid : Jid) (t : String) : Node → Node
  | .mk tag attrs content =>
      .mk tag (("from", .jid fromJid) :: ("t", .string t) :: attrs.filter (·.1 ≠ "to")) content

/-- The message as a client reads it. -/
def WaMessage.received (m : WaMessage) : ReceivedMessage WaMessage where
  protocolMessage := m.protocolMessage.map fun _ => ⟨none⟩
  senderKeyDistributionMessage := none
  content := m

/-- What is encoded of a message is decoded. -/
def Decodes (wacore : Wacore σ) (d : Decoder τ WaMessage) (m : WaMessage) : Prop :=
  d.decodeMessage (wacore.encodeToVec m) = .ok m.received

namespace Message

/-- The conversation, or the text of the extended text message. -/
def text (m : Message WaMessage) : Option String :=
  m.raw.content.conversation.or (m.raw.content.extendedTextMessage.bind (·.text))

def replyToId (m : Message WaMessage) : Option String :=
  (m.raw.content.extendedTextMessage.bind (·.contextInfo)).bind (·.stanzaId)

end Message

/-- What is read of a message: its text, what it replies to, and the message that it is a
reaction, an edit or a revocation of. -/
structure Reading where
  text : Option String := none
  replyToId : Option String := none
  targetId : Option String := none

def Message.reading (m : Message WaMessage) : Reading where
  text := m.text
  replyToId := m.replyToId
  targetId := m.raw.content.targetKey.bind (·.id)

/-- What a draft says. -/
def Draft.reading : Draft → Reading
  | message _ msg => { text := msg.text, replyToId := msg.replyTo }
  | reaction _ messageId _ | edit _ messageId _ | revoke _ messageId _ =>
      { targetId := some messageId }
  | forward _ messageId _ =>
      { text := some "[Forwarded message]", replyToId := some messageId }
  | fullHistory _ | chatHistory _ _ => {}

section

variable [WacoreBinary]

/-- Whoever relays the node, and whatever its receiver has received before, it gives him one
new message, which has the id of the node and says what the draft says. -/
def Arrives (d : Decoder τ WaMessage) (draft : Draft) (n : Node) : Prop :=
  n.attr "to" = some (.jid draft.toJid) ∧
  ∀ (env : Surroundings) (fromJid : Jid) (t : String) (signal : τ), ∃ m : Message WaMessage,
    processIncomingNode d env (relayedNode fromJid t n) signal =
      { (.nothing signal : Processed τ WaMessage) with result := .updates [.newMessage m] } ∧
    n.attrText "id" = some m.id ∧ m.chat = .ofJid fromJid ∧ m.reading = draft.reading

/-- The reading is that of the draft, whatever the ids and the times. -/
theorem reading_proto (draft : Draft) (requestId : String) (timestampMs : Nat)
    (info : MessageInfo) (chat : Chat) :
    (Message.mk (draft.proto requestId timestampMs).received info chat).reading =
      draft.reading := by
  cases draft with
  | message jid msg =>
      cases hreply : msg.replyTo <;>
        simp [Message.reading, Message.text, Message.replyToId, WaMessage.received, Draft.proto,
          inputToProto, hreply, Draft.reading, WaMessage.targetKey]
  | reaction jid messageId emoji => rfl
  | edit jid messageId newText => rfl
  | revoke jid messageId revokeType => cases revokeType <;> rfl
  | forward jid messageId sourceJid => rfl
  | fullHistory pn => rfl
  | chatHistory pn chatJid => rfl

/-- A relayed message that is decoded is a new message. -/
theorem processIncomingNode_relayed {wacore : Wacore σ} {d : Decoder τ WaMessage} {m : Sent}
    (hdecodes : Decodes wacore d m.proto) (env : Surroundings) (fromJid : Jid) (t : String)
    (signal : τ) :
    processIncomingNode d env (relayedNode fromJid t (m.node wacore)) signal =
      { (.nothing signal : Processed τ WaMessage) with
        result := .updates [.newMessage
          ⟨m.proto.received,
            (messageContext d env (relayedNode fromJid t (m.node wacore)) fromJid).info fromJid,
            .ofJid fromJid⟩] } := by
  have hfrom : d.attrJid (relayedNode fromJid t (m.node wacore)) "from" = some fromJid := rfl
  have henc : (encChildren (relayedNode fromJid t (m.node wacore))).isEmpty = true := rfl
  have hcontent : extractPlaintextContent (relayedNode fromJid t (m.node wacore)) =
      some (wacore.encodeToVec m.proto) := rfl
  have hdecoded : d.decodeMessage (wacore.encodeToVec m.proto) = .ok m.proto.received := hdecodes
  rw [processIncomingNode, if_pos (by rfl), hfrom]
  simp only [henc, if_true, receivePlaintext, hcontent, Option.bind_some, hdecoded,
    Except.toOption]
  rfl

/-- A draft that is decoded arrives. -/
theorem Draft.Becomes.arrives {wacore : Wacore σ} {d : Decoder τ WaMessage} {draft : Draft}
    {m : Sent} (h : draft.Becomes m)
    (hdecodes : ∀ requestId timestampMs, Decodes wacore d (draft.proto requestId timestampMs)) :
    Arrives d draft (m.node wacore) := by
  obtain ⟨seconds, count, requestId, timestampMs, rfl⟩ := h
  refine ⟨rfl, fun env fromJid t signal => ?_⟩
  exact ⟨_, processIncomingNode_relayed (hdecodes requestId timestampMs) env fromJid t signal,
    rfl, rfl, reading_proto draft requestId timestampMs _ _⟩

/-- An operation that sends in plaintext either has nothing to send, for want of an account,
or hands over the nodes of its messages in their order until a send fails, whose error it
returns.  Every node that it hands over arrives as it was meant. -/
theorem operation_delivered (wacore : Wacore σ) (d : Decoder τ WaMessage) {op : Operation}
    (hop : op.Plain) (s : ClientState σ)
    (hdecodes : ∀ drafts, op.drafts s.pn = .ok drafts → ∀ draft ∈ drafts,
      ∀ requestId timestampMs, Decodes wacore d (draft.proto requestId timestampMs)) :
    (s.pn = none ∧ op.drafts s.pn = .error .notLoggedIn ∧
      exec (op.perform wacore) s = (.error .notLoggedIn, s)) ∨
    ∃ drafts nodes, op.drafts s.pn = .ok drafts ∧
      (exec (op.perform wacore) s).2.handed = s.handed ++ nodes ∧
      Performs (Arrives d) (handOutcome s) s.handed.length drafts nodes
        (exec (op.perform wacore) s).1 := by
  rcases operation_sends wacore s hop with hnone | ⟨drafts, hdrafts, sent, hhanded, -, hperforms⟩
  · exact .inl hnone
  · refine .inr ⟨drafts, sent.map (·.node wacore), hdrafts, hhanded, hperforms.map _ ?_⟩
    intro draft hdraft m hbecomes
    exact hbecomes.arrives (hdecodes drafts hdrafts draft hdraft)

end

/-- A short string in a protobuf, behind its key and its length. -/
def encodeField (key : Bytes) (s : String) : Bytes :=
  key ++ UInt8.ofNat s.length :: s.toList.map fun c => UInt8.ofNat c.toNat

/-- The string behind a key, and the rest. -/
def decodeField : Bytes → String × Bytes
  | [] => ("", [])
  | n :: bs =>
      (String.ofList ((bs.take n.toNat).map fun b => Char.ofNat b.toNat), bs.drop n.toNat)

/-- A short forwarded message, encoded. -/
def encodeForward (m : WaMessage) : Bytes :=
  match m.extendedTextMessage with
  | some ⟨some text, some ⟨some stanzaId, some remoteJid, some true, some score⟩⟩ =>
      let contextInfo := encodeField [10] stanzaId ++ encodeField [34] remoteJid ++
        [168, 1, UInt8.ofNat score, 176, 1, 1]
      let body := encodeField [10] text ++
        [138, 1, UInt8.ofNat contextInfo.length] ++ contextInfo
      50 :: UInt8.ofNat body.length :: body
  | _ => encodeConversation m

/-- A short forwarded message, decoded. -/
def decodeForward : Bytes → Except String (ReceivedMessage WaMessage)
  | 50 :: _ :: 10 :: bs =>
      let (text, bs) := decodeField bs
      match bs with
      | 138 :: 1 :: _ :: 10 :: bs =>
          let (stanzaId, bs) := decodeField bs
          match bs with
          | 34 :: bs =>
              match decodeField bs with
              | (remoteJid, [168, 1, score, 176, 1, 1]) =>
                  .ok (WaMessage.received
                    { extendedTextMessage := some
                        { text := some text
                          contextInfo := some
                            { stanzaId := some stanzaId
                              remoteJid := some remoteJid
                              isForwarded := some true
                              forwardingScore := some score.toNat } } })
              | _ => .error "invalid message"
          | _ => .error "invalid message"
      | _ => .error "invalid message"
  | _ => .error "invalid message"

def forwardWacore : Wacore Unit := { shiftWacore with encodeToVec := encodeForward }

/-- A decoder of forwarded messages, without decryption. -/
def forwardDecoder : Decoder Unit WaMessage where
  parseJid _ := none
  categorizeEncNodes _ := ⟨[], []⟩
  isPreKeySignalMessage _ := false
  isSignalMessage _ := false
  messageDecrypt _ _ s := (.error "no session", s)
  groupDecrypt _ _ s := (.error "no sender key", s)
  decodePlaintext _ _ := .error "invalid padding"
  unwrapDeviceSent m := m
  isSenderKeyDistributionOnly _ := false
  isSenderKeyDistributionMessage _ := false
  processSenderKeyDistributionMessage _ _ s := (.ok (), s)
  decodeMessage := decodeForward
  isTimestamp _ := true

def newsJid : Jid := ⟨"news", "newsletter", 0, 0, 0⟩

/-- A client whose connection is lost before its second send. -/
def interrupted : ClientState Unit :=
  { loggedIn with sendResult := fun n => if n = 1 then .error .notConnected else .ok () }

/-- Three messages of a newsletter are forwarded, and the second send fails. -/
def forwardThree : Operation :=
  .forwardMessages (.user userJid) ["3EB0A", "3EB0B", "3EB0C"] (.newsletter newsJid)

/-- Two of them are handed over. -/
theorem operation_delivered_newsletter :
    letI := plainWacore
    ∃ nodes, (exec (forwardThree.perform forwardWacore) interrupted).2.handed = nodes ∧
      nodes.length = 2 ∧
      Performs (Arrives forwardDecoder) (handOutcome interrupted) 0
        [.forward userJid "3EB0A" newsJid, .forward userJid "3EB0B" newsJid,
          .forward userJid "3EB0C" newsJid]
        nodes (.error (.connection .notConnected)) := by
  let _ := plainWacore
  have hjid : WacoreBinary.jidText newsJid = "news@newsletter" := rfl
  have hdecodes : ∀ drafts, forwardThree.drafts interrupted.pn = .ok drafts → ∀ draft ∈ drafts,
      ∀ requestId timestampMs,
        Decodes forwardWacore forwardDecoder (draft.proto requestId timestampMs) := by
    intro drafts hdrafts draft hdraft requestId timestampMs
    cases hdrafts
    rcases List.mem_map.mp hdraft with ⟨messageId, hmem, rfl⟩
    simp only [List.mem_cons, List.not_mem_nil, or_false] at hmem
    show Decodes forwardWacore forwardDecoder (buildForwardProto newsJid messageId)
    rw [buildForwardProto, hjid]
    rcases hmem with rfl | rfl | rfl <;> exact rfl
  have hplain : forwardThree.Plain := trivial
  rcases operation_delivered forwardWacore forwardDecoder hplain interrupted hdecodes with
    ⟨hpn, -⟩ | ⟨drafts, nodes, hdrafts, hhanded, hperforms⟩
  · cases hpn
  · cases hdrafts
    refine ⟨nodes, hhanded, ?_, hperforms⟩
    rw [← show _ = nodes from hhanded]
    rfl

end Waepic.Client
