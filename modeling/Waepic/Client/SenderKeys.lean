import Waepic.Client.Incoming

/-!
# Sender keys in messages

A sender key arrives in a `SenderKeyDistributionMessage`, which is a field of a
decrypted message like any other.  `decrypt_e2e_message` installs it in one
place: where the message has no history sync notification and wacore finds that
it holds nothing but the key.  That place returns no update.

So what is installed and what is shown exclude each other
(`distributed_nil_or_no_update`), and a message with other content loses its key
(`sender_key_installed_iff`).  A group payload beside a session payload is not
even decrypted (`decryptEnc_of_session`).
-/

namespace Waepic.Client

open Binary Connection

variable {σ κ : Type} {d : Decoder σ κ} {env : Surroundings} {c : MessageContext}
  {address : ProtocolAddress} {m : ReceivedMessage κ} {s : σ} {n : Node}

/-! ## What a decrypted message does -/

/-- The updates of a result. -/
def IncomingNodeResult.toUpdates : IncomingNodeResult κ → List (MessageUpdate κ)
  | .updates us => us
  | .backgroundHistorySync _ => []

/-- A message is shown. -/
def Processed.Shows (p : Processed σ κ) (m : ReceivedMessage κ) : Prop :=
  ∃ message : Message κ, message.raw = m ∧ .newMessage message ∈ p.result.toUpdates

theorem receiveMessage_of_notification {notif : HistorySyncNotification}
    (h : m.historySyncNotification = some notif) :
    receiveMessage d env c m s =
      { (.nothing s : Processed σ κ) with
        result := .ofHistorySync (receiveHistorySync env c.msgId notif).1
        downloads := (receiveHistorySync env c.msgId notif).2 } := by
  simp [receiveMessage, h]

theorem receiveMessage_of_distribution (h : m.historySyncNotification = none)
    (honly : d.isSenderKeyDistributionOnly m = true) :
    receiveMessage d env c m s = installSenderKey d c.address m s := by
  simp [receiveMessage, h, honly]

theorem receiveMessage_of_content (h : m.historySyncNotification = none)
    (honly : d.isSenderKeyDistributionOnly m = false) :
    receiveMessage d env c m s =
      { (.nothing s : Processed σ κ) with
        result := .updates [.newMessage ⟨m, c.info c.senderJid, .ofJid c.fromJid⟩] } := by
  simp [receiveMessage, h, honly]

@[simp] theorem toUpdates_ofHistorySync (sync : Option BackgroundHistorySync) :
    (.ofHistorySync sync : IncomingNodeResult κ).toUpdates = [] := by
  cases sync <;> rfl

theorem installSenderKey_result :
    (installSenderKey d address m s).result = .updates [] := by
  simp only [installSenderKey]
  cases d.senderKey address m <;> rfl

theorem installSenderKey_distributed :
    (installSenderKey d address m s).distributed = (d.senderKey address m).toList := by
  simp only [installSenderKey]
  cases d.senderKey address m <;> rfl

/-- What a message installs: its sender key, if it holds nothing else. -/
theorem receiveMessage_distributed :
    (receiveMessage d env c m s).distributed =
      if m.historySyncNotification = none ∧ d.isSenderKeyDistributionOnly m = true then
        (d.senderKey c.address m).toList
      else [] := by
  cases hnotif : m.historySyncNotification with
  | some notif => simp [receiveMessage_of_notification hnotif, Processed.nothing]
  | none =>
      cases honly : d.isSenderKeyDistributionOnly m with
      | true => simp [receiveMessage_of_distribution hnotif honly, installSenderKey_distributed]
      | false => simp [receiveMessage_of_content hnotif honly, Processed.nothing]

/-- What a message shows: itself, unless it is a notification or a sender key. -/
theorem receiveMessage_toUpdates :
    (receiveMessage d env c m s).result.toUpdates =
      if m.historySyncNotification = none ∧ d.isSenderKeyDistributionOnly m = false then
        [.newMessage ⟨m, c.info c.senderJid, .ofJid c.fromJid⟩]
      else [] := by
  cases hnotif : m.historySyncNotification with
  | some notif =>
      simp [receiveMessage_of_notification hnotif]
  | none =>
      cases honly : d.isSenderKeyDistributionOnly m with
      | true =>
          simp [receiveMessage_of_distribution hnotif honly, installSenderKey_result,
            IncomingNodeResult.toUpdates]
      | false =>
          simp [receiveMessage_of_content hnotif honly, IncomingNodeResult.toUpdates]

/-- A message that installs a sender key shows nothing. -/
theorem receiveMessage_nil_or :
    (receiveMessage d env c m s).distributed = [] ∨
      (receiveMessage d env c m s).result.toUpdates = [] := by
  rw [receiveMessage_distributed, receiveMessage_toUpdates]
  cases d.isSenderKeyDistributionOnly m with
  | true => simp
  | false => simp

variable [WacoreBinary]

theorem decryptE2eMessage_nil_or (enc : List Node) :
    (decryptE2eMessage d env c enc s).distributed = [] ∨
      (decryptE2eMessage d env c enc s).result.toUpdates = [] := by
  unfold decryptE2eMessage
  split
  · exact .inl rfl
  · exact receiveMessage_nil_or

/-- Processing a node installs no sender key or returns no update. -/
theorem distributed_nil_or_no_update (d : Decoder σ κ) (env : Surroundings) (n : Node) (s : σ) :
    (processIncomingNode d env n s).distributed = [] ∨
      (processIncomingNode d env n s).result.toUpdates = [] := by
  rcases processIncomingNode_cases d env n s with
    ⟨-, h⟩ | ⟨fromJid, -, -, ⟨-, h⟩ | ⟨-, h⟩⟩
  · rw [h]
    exact .inl rfl
  · rw [h, receivePlaintext]
    split <;> exact .inl rfl
  · rw [h]
    exact decryptE2eMessage_nil_or _

/-! ## A group message that travels with its sender key -/

omit [WacoreBinary] in
/-- If a session element decrypts, the group elements are not tried. -/
theorem decryptEnc_of_session {group : String} {enc : CategorizedEncNodes} {plaintext : Bytes}
    (h : (decryptSession d address enc.sessionEnc s).1 = some plaintext) :
    decryptEnc d address group enc s = decryptSession d address enc.sessionEnc s := by
  simp only [decryptEnc]
  generalize decryptSession d address enc.sessionEnc s = r at h
  obtain ⟨o, s'⟩ := r
  obtain rfl : o = some plaintext := h
  rfl

/-- The message that a payload of a node decodes to. -/
def Decoder.payloadMessage (d : Decoder σ κ) (n : Node) (payload : Bytes) :
    Option (ReceivedMessage κ) :=
  (d.decodePlaintext payload (paddingVersion (encChildren n))).toOption.map d.unwrapDeviceSent

/-- A node from a group: a session element decrypts to a message with a sender key
for the group, and a group element decrypts with that key. -/
structure TravelsWithSenderKey (d : Decoder σ κ) (env : Surroundings) (n : Node) (s : σ)
    (fromJid : Jid) (key : SenderKeyName × Bytes) (payload : Bytes) : Prop where
  tag : n.tag = "message"
  hasFrom : d.attrJid n "from" = some fromJid
  group : Chat.ofJid fromJid = .group fromJid
  ofGroup : key.1.group = WacoreBinary.jidText fromJid
  session : ∃ e ∈ (d.categorizeEncNodes (encChildren n)).sessionEnc, ∃ ciphertext plaintext s' m,
    d.ciphertextMessage e = some ciphertext ∧
    d.messageDecrypt ciphertext (messageContext d env n fromJid).address s =
      (.ok plaintext, s') ∧
    d.payloadMessage n plaintext = some m ∧
    d.senderKey (messageContext d env n fromJid).address m = some key ∧
    ∃ e' ∈ (d.categorizeEncNodes (encChildren n)).groupEnc,
      (d.groupDecrypt e'.ciphertext key.1
        (d.processSenderKeyDistributionMessage key.1 key.2 s').2).1 = .ok payload

/-- The sender key is stored, and the message in the group payload is shown. -/
structure DeliversGroupMessage (d : Decoder σ κ) (env : Surroundings) (n : Node) (s : σ)
    (key : SenderKeyName × Bytes) (payload : Bytes) : Prop where
  stored : key ∈ (processIncomingNode d env n s).distributed
  shown : ∃ m, d.payloadMessage n payload = some m ∧ (processIncomingNode d env n s).Shows m

/-- No node has its sender key stored and its group payload shown. -/
theorem group_message_not_delivered (d : Decoder σ κ) (env : Surroundings) (n : Node) (s : σ)
    (key : SenderKeyName × Bytes) (payload : Bytes) :
    ¬ DeliversGroupMessage d env n s key payload := by
  intro h
  obtain ⟨m, -, message, -, hshown⟩ := h.shown
  have hstored := h.stored
  rcases distributed_nil_or_no_update d env n s with hnil | hnil
  · rw [hnil] at hstored
    cases hstored
  · rw [hnil] at hshown
    cases hshown

/-! ## A first message to a group -/

/-- The elements by type. -/
def categorizeByType (enc : List Node) : CategorizedEncNodes where
  sessionEnc := enc.filterMap fun e =>
    if e.attrText "type" = some "pkmsg" then some ⟨.preKeyMessage, (bytesOf e).getD []⟩
    else if e.attrText "type" = some "msg" then some ⟨.message, (bytesOf e).getD []⟩
    else none
  groupEnc := enc.filterMap fun e =>
    if e.attrText "type" = some "skmsg" then some ⟨.senderKey, (bytesOf e).getD []⟩ else none

def aliceJid : Jid := ⟨"alice", "s.whatsapp.net", 0, 0, 0⟩

def familyJid : Jid := ⟨"family", "g.us", 0, 0, 0⟩

/-- A sender key for a group, a text, both, and two history sync notifications. -/
def exampleMessage (b : Bytes) : Except String (ReceivedMessage (Option String)) :=
  if b = [1] then .ok ⟨none, some ⟨some "family@g.us", some [7]⟩, none⟩
  else if b = [2] then .ok ⟨none, none, some "hello"⟩
  else if b = [3] then .ok ⟨none, some ⟨some "family@g.us", some [7]⟩, some "hello"⟩
  else if b = [4] then
    .ok ⟨some ⟨some ⟨some [9], none, none, none, none, none, some 50, some 3⟩⟩, none, none⟩
  else if b = [5] then
    .ok ⟨some ⟨some ⟨some [9], none, none, none, none, none, none, none⟩⟩, none, none⟩
  else .error "invalid message"

/-- A decoder of these messages, without encryption.  A group payload needs the
key of its sender. -/
def exampleDecoder : Decoder (List SenderKeyName) (Option String) where
  parseJid s := if s = "alice@s.whatsapp.net" then some aliceJid else none
  categorizeEncNodes := categorizeByType
  isPreKeySignalMessage _ := true
  isSignalMessage _ := true
  messageDecrypt
    | .preKeySignalMessage b, _, s | .signalMessage b, _, s => (.ok b, s)
  groupDecrypt b name s := (if name ∈ s then .ok b else .error "no sender key", s)
  decodePlaintext b _ := exampleMessage b
  unwrapDeviceSent m := m
  isSenderKeyDistributionOnly m :=
    m.protocolMessage = none && m.senderKeyDistributionMessage.isSome && m.content = none
  isSenderKeyDistributionMessage _ := true
  processSenderKeyDistributionMessage name _ s := (.ok (), name :: s)
  decodeMessage := exampleMessage
  isTimestamp _ := true

def exampleSurroundings : Surroundings where
  downloadFeature := true
  download _ := .error "not found"
  now := 0

/-- A text to a group, with the sender key. -/
def firstGroupMessage : Node :=
  .mk "message" [("from", .jid familyJid), ("participant", .jid aliceJid), ("id", .string "3EB0")]
    (some (.nodes
      [.mk "enc" [("type", .string "pkmsg")] (some (.bytes [1])),
        .mk "enc" [("type", .string "skmsg")] (some (.bytes [2]))]))

def aliceKey : SenderKeyName × Bytes := (⟨"family@g.us", ⟨"alice@s.whatsapp.net", 0⟩⟩, [7])

omit [WacoreBinary] in
/-- The text is not shown. -/
theorem first_group_message_lost :
    letI := plainWacore
    ¬ ∀ (d : Decoder (List SenderKeyName) (Option String)) env n s fromJid key payload,
      TravelsWithSenderKey d env n s fromJid key payload →
        DeliversGroupMessage d env n s key payload := by
  let _ := plainWacore
  intro h
  have htravels : TravelsWithSenderKey exampleDecoder exampleSurroundings firstGroupMessage []
      familyJid aliceKey [2] := by
    refine ⟨rfl, rfl, rfl, rfl, ⟨.preKeyMessage, [1]⟩, List.mem_singleton.mpr rfl, ?_⟩
    exact ⟨.preKeySignalMessage [1], [1], [], ⟨none, some ⟨some "family@g.us", some [7]⟩, none⟩,
      rfl, rfl, rfl, rfl, ⟨.senderKey, [2]⟩, List.mem_singleton.mpr rfl, rfl⟩
  obtain ⟨m, -, message, -, hshown⟩ := (h _ _ _ _ _ _ _ htravels).shown
  have hnone : (processIncomingNode exampleDecoder exampleSurroundings firstGroupMessage
      []).result.toUpdates = [] := rfl
  rw [hnone] at hshown
  cases hshown

/-! ## A sender key among other content -/

/-- What `is_sender_key_distribution_only` finds, where `hasContent` says of the
other fields of a message that they hold user content. -/
structure Decoder.ContentLaw (d : Decoder σ κ)
    (hasContent : Option ReceivedProtocolMessage → κ → Bool) : Prop where
  only_iff : ∀ m, m.senderKeyDistributionMessage.isSome →
    (d.isSenderKeyDistributionOnly m = true ↔ hasContent m.protocolMessage m.content = false)
  content : ∀ m, hasContent m.protocolMessage m.content = true →
    d.isSenderKeyDistributionOnly m = false

def ReceivedMessage.withoutSenderKey (m : ReceivedMessage κ) : ReceivedMessage κ :=
  { m with senderKeyDistributionMessage := none }

/-- User content is shown. -/
def Processed.ShowsContent (hasContent : Option ReceivedProtocolMessage → κ → Bool)
    (p : Processed σ κ) : Prop :=
  ∃ m, hasContent m.protocolMessage m.content = true ∧ p.Shows m

variable {hasContent : Option ReceivedProtocolMessage → κ → Bool}
  {key : SenderKeyName × Bytes} {enc : List Node} {s' : σ}

omit [WacoreBinary] in
/-- The content of a message is shown if it has some and is no notification. -/
theorem receiveMessage_showsContent_iff (hlaw : d.ContentLaw hasContent) :
    (receiveMessage d env c m s).ShowsContent hasContent ↔
      m.historySyncNotification = none ∧ hasContent m.protocolMessage m.content = true := by
  simp only [Processed.ShowsContent, Processed.Shows]
  rw [receiveMessage_toUpdates]
  constructor
  · rintro ⟨_, hcontent, message, rfl, hmem⟩
    split at hmem
    · next h =>
        cases List.mem_singleton.mp hmem
        exact ⟨h.1, hcontent⟩
    · cases hmem
  · rintro ⟨hnotif, hcontent⟩
    rw [if_pos ⟨hnotif, hlaw.content m hcontent⟩]
    exact ⟨m, hcontent, _, rfl, List.mem_singleton.mpr rfl⟩

omit [WacoreBinary] in
/-- So the sender key makes no difference to it. -/
theorem showsContent_withoutSenderKey (hlaw : d.ContentLaw hasContent) :
    (receiveMessage d env c m.withoutSenderKey s).ShowsContent hasContent ↔
      (receiveMessage d env c m s).ShowsContent hasContent := by
  rw [receiveMessage_showsContent_iff hlaw, receiveMessage_showsContent_iff hlaw]
  rfl

omit [WacoreBinary] in
theorem isSome_of_senderKey (hkey : d.senderKey address m = some key) :
    m.senderKeyDistributionMessage.isSome = true := by
  simp only [Decoder.senderKey] at hkey
  cases h : m.senderKeyDistributionMessage with
  | none => rw [h] at hkey; cases hkey
  | some skdm => rfl

/-- The sender key of a decrypted message is installed, and its content shown as
without the key, exactly if the message has no history sync notification and no
user content. -/
theorem sender_key_installed_iff (hlaw : d.ContentLaw hasContent)
    (hm : decryptedMessage d c enc s = (some m, s'))
    (hkey : d.senderKey c.address m = some key) :
    (key ∈ (decryptE2eMessage d env c enc s).distributed ∧
      ((decryptE2eMessage d env c enc s).ShowsContent hasContent ↔
        (receiveMessage d env c m.withoutSenderKey s').ShowsContent hasContent)) ↔
      m.historySyncNotification = none ∧ hasContent m.protocolMessage m.content = false := by
  have hreceive : decryptE2eMessage d env c enc s = receiveMessage d env c m s' := by
    rw [decryptE2eMessage, hm]
  rw [hreceive, showsContent_withoutSenderKey hlaw, receiveMessage_distributed, hkey,
    ← hlaw.only_iff m (isSome_of_senderKey hkey)]
  constructor
  · rintro ⟨hmem, -⟩
    split at hmem
    · assumption
    · cases hmem
  · intro h
    rw [if_pos h]
    exact ⟨List.mem_singleton.mpr rfl, Iff.rfl⟩

/-- A protocol message and a text are user content. -/
def exampleContent (protocolMessage : Option ReceivedProtocolMessage) (content : Option String) :
    Bool :=
  protocolMessage.isSome || content.isSome

theorem exampleDecoder_contentLaw : exampleDecoder.ContentLaw exampleContent where
  only_iff m hskdm := by
    rcases m with ⟨_ | _, _ | _, _ | _⟩ <;> simp_all [exampleDecoder, exampleContent]
  content m hcontent := by
    rcases m with ⟨_ | _, _ | _, _ | _⟩ <;> simp_all [exampleDecoder, exampleContent]

def aliceContext : MessageContext where
  fromJid := familyJid
  senderJid := aliceJid
  address := aliceKey.1.sender
  msgId := "3EB0"
  msgType := "text"
  timestamp := 0

/-- A session element with this payload. -/
def sessionElement (payload : Bytes) : Node :=
  .mk "enc" [("type", .string "pkmsg")] (some (.bytes payload))

omit [WacoreBinary] in
/-- The key is installed if it comes alone. -/
theorem lone_sender_key_installed :
    letI := plainWacore
    aliceKey ∈ (decryptE2eMessage exampleDecoder exampleSurroundings aliceContext
      [sessionElement [1]] []).distributed := by
  let _ := plainWacore
  exact ((sender_key_installed_iff (m := ⟨none, some ⟨some "family@g.us", some [7]⟩, none⟩)
    exampleDecoder_contentLaw rfl rfl).mpr ⟨rfl, rfl⟩).1

omit [WacoreBinary] in
/-- It is not if it comes with a text. -/
theorem sender_key_with_text_lost :
    letI := plainWacore
    ¬ ∀ (d : Decoder (List SenderKeyName) (Option String)) env c enc s s' m key,
      d.ContentLaw exampleContent → decryptedMessage d c enc s = (some m, s') →
        d.senderKey c.address m = some key →
          key ∈ (decryptE2eMessage d env c enc s).distributed := by
  let _ := plainWacore
  intro h
  have hmem := h exampleDecoder exampleSurroundings aliceContext [sessionElement [3]] [] []
    ⟨none, some ⟨some "family@g.us", some [7]⟩, some "hello"⟩ aliceKey
    exampleDecoder_contentLaw rfl rfl
  cases hmem

end Waepic.Client
