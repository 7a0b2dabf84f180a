import Waepic.Client.SenderKeys
import Waepic.Client.CacheFlush

/-!
# History syncs

A history sync is a compressed `HistorySync`, which `process_history_sync_payload`
turns into one chunk of conversations and a completion marker.  It arrives in two
ways.  A `HistorySyncNotification` in an encrypted message brings the payload, or
says where to download it; the update stream processes it in the background and
acknowledges it.  A `history_sync_notification` node brings the notification
without encryption, and `handle_history_sync` takes an inline payload only, drops
the progress and the type, and acknowledges a node that has an id.
-/

namespace Waepic.Client

open Binary Connection

/-! ## Protobuf messages -/

/-- A message of a synced conversation. -/
structure WebMessageInfo (κ : Type) where
  key : MessageKey
  messageTimestamp : Option Nat
  message : ReceivedMessage κ

structure HistoryConversation (κ : Type) where
  id : String
  newJid : Option String
  name : Option String
  pinned : Option Nat
  archived : Option Bool
  muteEndTime : Option Nat
  unreadCount : Option Nat
  messages : List (WebMessageInfo κ)

/-- `wa::HistorySync`. -/
structure HistorySync (κ : Type) where
  conversations : List (HistoryConversation κ)

/-- What the history syncs use besides. -/
structure HistoryDecoder (σ κ : Type) extends Decoder σ κ where
  /-- `zlib_pool::decompress_zlib_pooled`, up to this size. -/
  decompressZlib : Bytes → Nat → Except String Bytes
  /-- `wa::HistorySync::decode_from_slice`. -/
  decodeHistorySync : Bytes → Except String (HistorySync κ)
  /-- `Jid::to_non_ad_string`. -/
  toNonAdString : Jid → String

/-- `MAX_DECOMPRESSED`. -/
def maxDecompressed : Nat := 64 * 1024 * 1024

variable {σ κ : Type}

/-! ## Payloads -/

/-- `as i64`, from a `u64`. -/
def asI64 (n : Nat) : Int := if n < 2 ^ 63 then n else n - 2 ^ 64

/-- A message of a conversation, unless the JID of its sender is invalid. -/
def historyMessage (d : HistoryDecoder σ κ) (env : Surroundings) (chatJid : Jid)
    (chatJidStr : String) (web : WebMessageInfo κ) : Option (Message κ) :=
  (d.parseJid (web.key.participant.getD chatJidStr)).map fun senderJid =>
    let timestamp := asI64 (web.messageTimestamp.getD 0)
    { raw := web.message
      info :=
        { id := web.key.id.getD ""
          source :=
            { chat := chatJid, sender := senderJid, isFromMe := web.key.fromMe.getD false }
          timestamp := if d.isTimestamp timestamp then timestamp else env.now
          type := "" }
      chat := .ofJid chatJid }

/-- A conversation, unless its JID is invalid. -/
def syncedConversation (d : HistoryDecoder σ κ) (env : Surroundings)
    (conv : HistoryConversation κ) : Option (SyncedConversation κ) :=
  let chatJidStr := conv.newJid.getD conv.id
  (d.parseJid chatJidStr).map fun jid =>
    { jid := jid
      name := conv.name.filter (· ≠ "")
      messages := conv.messages.filterMap (historyMessage d env jid chatJidStr)
      pinned := conv.pinned.any (0 < ·)
      archived := conv.archived.getD false
      muted := conv.muteEndTime.any (0 < ·)
      unreadCount := conv.unreadCount.getD 0 }

/-- The `HistorySync` in a payload. -/
def HistoryDecoder.history (d : HistoryDecoder σ κ) (compressed : Bytes) :
    Option (HistorySync κ) :=
  match d.decompressZlib compressed maxDecompressed with
  | .error _ => none
  | .ok decompressed => (d.decodeHistorySync decompressed).toOption

/-- The conversations of a payload with a valid JID. -/
def syncedConversations (d : HistoryDecoder σ κ) (env : Surroundings) (h : HistorySync κ) :
    List (SyncedConversation κ) :=
  h.conversations.filterMap (syncedConversation d env)

def processHistorySyncPayload (d : HistoryDecoder σ κ) (env : Surroundings) (compressed : Bytes)
    (syncType : Option HistorySyncType) (progress : Option Nat) : List (MessageUpdate κ) :=
  match d.history compressed with
  | none => []
  | some h =>
      let conversations := syncedConversations d env h
      (if conversations.isEmpty then [] else [.historySync ⟨conversations, progress, syncType⟩]) ++
        [.historySyncCompleted]

/-! ## Notifications -/

/-- What is downloaded for a notification. -/
def HistorySyncNotification.downloads (env : Surroundings) (notif : HistorySyncNotification) :
    List DownloadParams :=
  match notif.initialHistBootstrapInlinePayload with
  | some _ => []
  | none => if env.downloadFeature then notif.downloadParams.toList else []

/-- The payload of a notification: its inline payload, or what is downloaded. -/
def HistorySyncNotification.payload (env : Surroundings) (notif : HistorySyncNotification) :
    Option Bytes :=
  match notif.initialHistBootstrapInlinePayload with
  | some inlinePayload => some inlinePayload
  | none => (notif.downloads env).head?.bind fun params => (env.download params).toOption

theorem receiveHistorySync_eq (env : Surroundings) (msgId : String)
    (notif : HistorySyncNotification) :
    receiveHistorySync env msgId notif =
      ((notif.payload env).map (⟨·, msgId, notif.progress, notif.syncType⟩),
        notif.downloads env) := by
  simp only [receiveHistorySync, HistorySyncNotification.payload, HistorySyncNotification.downloads]
  cases notif.initialHistBootstrapInlinePayload with
  | some inlinePayload => rfl
  | none =>
      cases env.downloadFeature with
      | false => rfl
      | true =>
          cases notif.downloadParams with
          | none => rfl
          | some params =>
              cases hdownload : env.download params <;> simp [hdownload, Except.toOption]

/-! ## Deliveries -/

/-- What the client acknowledges history syncs with. -/
structure HistoryOwner where
  /-- `config.auto_history_sync`. -/
  autoHistorySync : Bool
  /-- The `pn` of the device. -/
  pn : Option Jid

/-- `build_history_sync_receipt_node`. -/
def buildHistorySyncReceiptNode (d : HistoryDecoder σ κ) (msgId : String) (ownPn : Jid) : Node :=
  .mk "receipt"
    [("id", .string msgId), ("type", .string "hist_sync"),
      ("to", .string (d.toNonAdString ownPn))]
    none

def historySyncReceipts (d : HistoryDecoder σ κ) (owner : HistoryOwner) (msgId : String) :
    List Node :=
  if owner.autoHistorySync then
    (owner.pn.map (buildHistorySyncReceiptNode d msgId)).toList
  else []

/-- What the update stream makes of a node. -/
structure Handled (κ : Type) where
  updates : List (MessageUpdate κ)
  downloads : List DownloadParams
  sent : List Node

variable [WacoreBinary]

/-- `run_update_stream` on a `<message>`, with the background task. -/
def handleMessage (d : HistoryDecoder σ κ) (env : Surroundings) (owner : HistoryOwner) (n : Node)
    (s : σ) : Handled κ :=
  let p := processIncomingNode d.toDecoder env n s
  match p.result with
  | .updates us => ⟨us, p.downloads, p.sent⟩
  | .backgroundHistorySync sync =>
      ⟨processHistorySyncPayload d env sync.compressed sync.syncType sync.progress, p.downloads,
        p.sent ++ historySyncReceipts d owner sync.msgId⟩

/-- `extract_history_sync_payload`. -/
def extractHistorySyncPayload (d : HistoryDecoder σ κ) (n : Node) : Option Bytes :=
  if n.tag = "notification" ∧ n.attrText "type" = some "history_sync_notification" then
    (bytesOf n).bind fun protoBytes =>
      (d.decodeMessage protoBytes).toOption.bind fun m =>
        m.historySyncNotification.bind (·.initialHistBootstrapInlinePayload)
  else if n.tag = "ib" then (n.child "history_sync").bind bytesOf
  else none

/-- `handle_history_sync`. -/
def handleHistorySync (d : HistoryDecoder σ κ) (env : Surroundings) (owner : HistoryOwner)
    (n : Node) : Handled κ :=
  match extractHistorySyncPayload d n with
  | none => ⟨[], [], []⟩
  | some compressed =>
      ⟨processHistorySyncPayload d env compressed none none, [],
        match n.attrText "id" with
        | some msgId => historySyncReceipts d owner msgId
        | none => []⟩

/-! ## Which messages bring history -/

/-- The message in the `<enc>` children of a message node, if it decrypts. -/
def nodeMessage (d : Decoder σ κ) (env : Surroundings) (n : Node) (s : σ) :
    Option (ReceivedMessage κ) :=
  if n.tag = "message" then
    (d.attrJid n "from").bind fun fromJid =>
      if (encChildren n).isEmpty then none
      else (decryptedMessage d (messageContext d env n fromJid) (encChildren n) s).1
  else none

theorem nodeMessage_of_enc {d : Decoder σ κ} {env : Surroundings} {n : Node} {s : σ}
    {fromJid : Jid} (htag : n.tag = "message") (hfrom : d.attrJid n "from" = some fromJid)
    (henc : (encChildren n).isEmpty = false) :
    nodeMessage d env n s =
      (decryptedMessage d (messageContext d env n fromJid) (encChildren n) s).1 := by
  simp [nodeMessage, htag, hfrom, henc]

theorem nodeMessage_of_no_enc {d : Decoder σ κ} {env : Surroundings} {n : Node} {s : σ}
    (h : (n.tag ≠ "message" ∨ d.attrJid n "from" = none) ∨ (encChildren n).isEmpty = true) :
    nodeMessage d env n s = none := by
  rcases h with (htag | hfrom) | henc
  · exact if_neg htag
  · simp [nodeMessage, hfrom]
  · simp [nodeMessage, henc]

/-- The history sync notification in it. -/
def nodeNotification (d : Decoder σ κ) (env : Surroundings) (n : Node) (s : σ) :
    Option HistorySyncNotification :=
  (nodeMessage d env n s).bind (·.historySyncNotification)

variable {d : Decoder σ κ} {env : Surroundings} {n : Node} {s : σ}
  {notif : HistorySyncNotification}

/-- A notification is processed into its history sync, and nothing else. -/
theorem processIncomingNode_of_notification (h : nodeNotification d env n s = some notif) :
    ∃ s', processIncomingNode d env n s =
      { (.nothing s' : Processed σ κ) with
        result := .ofHistorySync ((notif.payload env).map
          (⟨·, (n.attrText "id").getD "", notif.progress, notif.syncType⟩))
        downloads := notif.downloads env } := by
  rw [nodeNotification] at h
  rcases processIncomingNode_cases d env n s with
    ⟨hnothing, -⟩ | ⟨fromJid, htag, hfrom, ⟨henc, -⟩ | ⟨henc, hprocess⟩⟩
  · rw [nodeMessage_of_no_enc (.inl hnothing)] at h
    cases h
  · rw [nodeMessage_of_no_enc (.inr henc)] at h
    cases h
  · rw [nodeMessage_of_enc htag hfrom henc] at h
    rw [hprocess, decryptE2eMessage]
    cases hm : decryptedMessage d (messageContext d env n fromJid) (encChildren n) s with
    | mk o s' =>
        rw [hm] at h
        obtain ⟨m, rfl, hnotif⟩ := Option.bind_eq_some_iff.mp h
        refine ⟨s', ?_⟩
        dsimp only
        rw [receiveMessage_of_notification hnotif, receiveHistorySync_eq]
        cases notif.payload env <;> rfl

/-- The updates show messages only. -/
def ShowsMessagesOnly (us : List (MessageUpdate κ)) : Prop := ∀ u ∈ us, ∃ m, u = .newMessage m

omit [WacoreBinary] in
theorem showsMessagesOnly_nil : ShowsMessagesOnly ([] : List (MessageUpdate κ)) := by
  intro u hu
  cases hu

omit [WacoreBinary] in
theorem showsMessagesOnly_singleton (m : Message κ) : ShowsMessagesOnly [.newMessage m] := by
  intro u hu
  exact ⟨m, List.mem_singleton.mp hu⟩

omit [WacoreBinary] in
theorem receiveMessage_of_no_notification {c : MessageContext} {m : ReceivedMessage κ}
    (h : m.historySyncNotification = none) :
    (∃ us, (receiveMessage d env c m s).result = .updates us ∧ ShowsMessagesOnly us) ∧
      (receiveMessage d env c m s).downloads = [] := by
  cases honly : d.isSenderKeyDistributionOnly m with
  | true =>
      rw [receiveMessage_of_distribution h honly]
      refine ⟨⟨[], installSenderKey_result, showsMessagesOnly_nil⟩, ?_⟩
      simp only [installSenderKey]
      cases d.senderKey c.address m <;> rfl
  | false =>
      rw [receiveMessage_of_content h honly]
      exact ⟨⟨_, rfl, showsMessagesOnly_singleton _⟩, rfl⟩

/-- Without a notification only messages are shown, and nothing is downloaded. -/
theorem processIncomingNode_of_no_notification (h : nodeNotification d env n s = none) :
    (∃ us, (processIncomingNode d env n s).result = .updates us ∧ ShowsMessagesOnly us) ∧
      (processIncomingNode d env n s).downloads = [] := by
  have hnothing : ∀ s' : σ,
      (∃ us, (.nothing s' : Processed σ κ).result = .updates us ∧ ShowsMessagesOnly us) ∧
        (.nothing s' : Processed σ κ).downloads = [] :=
    fun _ => ⟨⟨[], rfl, showsMessagesOnly_nil⟩, rfl⟩
  rw [nodeNotification] at h
  rcases processIncomingNode_cases d env n s with
    ⟨-, hprocess⟩ | ⟨fromJid, htag, hfrom, ⟨-, hprocess⟩ | ⟨henc, hprocess⟩⟩
  · rw [hprocess]
    exact hnothing s
  · rw [hprocess, receivePlaintext]
    split
    · exact ⟨⟨_, rfl, showsMessagesOnly_singleton _⟩, rfl⟩
    · exact hnothing s
  · rw [nodeMessage_of_enc htag hfrom henc] at h
    rw [hprocess, decryptE2eMessage]
    cases hm : decryptedMessage d (messageContext d env n fromJid) (encChildren n) s with
    | mk o s' =>
        rw [hm] at h
        cases o with
        | none => exact hnothing s'
        | some m => exact receiveMessage_of_no_notification h

theorem deliveryReceipts_type {c : MessageContext} {r : IncomingNodeResult κ} :
    ∀ receipt ∈ deliveryReceipts c r, receipt.attrText "type" = some "delivery" := by
  intro receipt h
  cases r with
  | updates us =>
      simp only [deliveryReceipts] at h
      split at h
      · cases h
      · rw [List.mem_singleton.mp h]
        rfl
  | backgroundHistorySync sync => cases h

/-- What is sent for a message itself are delivery receipts. -/
theorem processIncomingNode_sent :
    ∀ receipt ∈ (processIncomingNode d env n s).sent,
      receipt.attrText "type" = some "delivery" := by
  rcases processIncomingNode_cases d env n s with
    ⟨-, h⟩ | ⟨fromJid, -, -, ⟨-, h⟩ | ⟨-, h⟩⟩
  · rw [h]
    exact List.forall_mem_nil _
  · rw [h, receivePlaintext]
    split <;> exact List.forall_mem_nil _
  · rw [h]
    exact deliveryReceipts_type

/-- A message node leads to a history sync exactly if it decrypts to a notification
with a payload, inline or downloaded; a notification alone is downloaded; and
without one the stream shows messages only and acknowledges no history sync. -/
theorem history_sync_iff_notification (d : HistoryDecoder σ κ) (env : Surroundings)
    (owner : HistoryOwner) (n : Node) (s : σ) (sync : BackgroundHistorySync) :
    ((processIncomingNode d.toDecoder env n s).result = .backgroundHistorySync sync ↔
      ∃ notif, nodeNotification d.toDecoder env n s = some notif ∧
        notif.payload env = some sync.compressed ∧ sync.msgId = (n.attrText "id").getD "" ∧
        sync.progress = notif.progress ∧ sync.syncType = notif.syncType) ∧
    (processIncomingNode d.toDecoder env n s).downloads =
      ((nodeNotification d.toDecoder env n s).map (·.downloads env)).getD [] ∧
    (nodeNotification d.toDecoder env n s = none →
      ShowsMessagesOnly (handleMessage d env owner n s).updates ∧
      (handleMessage d env owner n s).downloads = [] ∧
      ∀ receipt ∈ (handleMessage d env owner n s).sent,
        receipt.attrText "type" = some "delivery") := by
  cases h : nodeNotification d.toDecoder env n s with
  | some notif =>
      obtain ⟨s', hp⟩ := processIncomingNode_of_notification h
      refine ⟨?_, by rw [hp]; rfl, nofun⟩
      rw [hp]
      dsimp only
      cases hpayload : notif.payload env with
      | none => simp [IncomingNodeResult.ofHistorySync, hpayload]
      | some b =>
          obtain ⟨compressed, msgId, progress, syncType⟩ := sync
          simp only [Option.map_some, IncomingNodeResult.ofHistorySync,
            IncomingNodeResult.backgroundHistorySync.injEq, BackgroundHistorySync.mk.injEq,
            Option.some.injEq, exists_eq_left', hpayload]
          constructor
          · rintro ⟨rfl, rfl, rfl, rfl⟩
            exact ⟨rfl, rfl, rfl, rfl⟩
          · rintro ⟨rfl, rfl, rfl, rfl⟩
            exact ⟨rfl, rfl, rfl, rfl⟩
  | none =>
      obtain ⟨⟨us, hresult, hshows⟩, hdownloads⟩ := processIncomingNode_of_no_notification h
      have hhandle : handleMessage d env owner n s =
          ⟨us, [], (processIncomingNode d.toDecoder env n s).sent⟩ := by
        rw [handleMessage, hresult, hdownloads]
      refine ⟨by simp [hresult], hdownloads, fun _ => ?_⟩
      rw [hhandle]
      exact ⟨hshows, rfl, processIncomingNode_sent⟩

/-! ## The two deliveries of a notification -/

/-- A `history_sync_notification` node that brings the notification. -/
def DeliversNotification (d : Decoder σ κ) (n : Node) (notif : HistorySyncNotification) : Prop :=
  n.tag = "notification" ∧ n.attrText "type" = some "history_sync_notification" ∧
    ∃ b m, bytesOf n = some b ∧ d.decodeMessage b = .ok m ∧ m.historySyncNotification = some notif

variable {hd : HistoryDecoder σ κ} {owner : HistoryOwner} {n' : Node} {compressed : Bytes}

/-- The update stream on a message with a notification. -/
theorem handleMessage_of_notification (h : nodeNotification hd.toDecoder env n s = some notif) :
    handleMessage hd env owner n s =
      match notif.payload env with
      | some b =>
          ⟨processHistorySyncPayload hd env b notif.syncType notif.progress, notif.downloads env,
            historySyncReceipts hd owner ((n.attrText "id").getD "")⟩
      | none => ⟨[], notif.downloads env, []⟩ := by
  obtain ⟨s', hp⟩ := processIncomingNode_of_notification h
  rw [handleMessage, hp]
  cases notif.payload env <;> rfl

/-- The update stream on the notification itself. -/
theorem handleHistorySync_of_notification (h : DeliversNotification hd.toDecoder n' notif) :
    handleHistorySync hd env owner n' =
      match notif.initialHistBootstrapInlinePayload with
      | some b =>
          ⟨processHistorySyncPayload hd env b none none, [],
            match n'.attrText "id" with
            | some msgId => historySyncReceipts hd owner msgId
            | none => []⟩
      | none => ⟨[], [], []⟩ := by
  obtain ⟨htag, htype, b, m, hbytes, hdecode, hnotif⟩ := h
  have hextract : extractHistorySyncPayload hd n' = notif.initialHistBootstrapInlinePayload := by
    rw [extractHistorySyncPayload, if_pos ⟨htag, htype⟩, hbytes, Option.bind_some, hdecode]
    simp [Except.toOption, hnotif]
  rw [handleHistorySync, hextract]
  cases notif.initialHistBootstrapInlinePayload <;> rfl

/-- The payload does not decode, or has no conversation with a valid JID. -/
def HistoryDecoder.NoChunk (d : HistoryDecoder σ κ) (env : Surroundings) (compressed : Bytes) :
    Prop :=
  ∀ h, d.history compressed = some h → syncedConversations d env h = []

omit [WacoreBinary] in
/-- The progress and the type show in the updates unless there is no chunk. -/
theorem processHistorySyncPayload_eq_iff {syncType : Option HistorySyncType}
    {progress : Option Nat} :
    processHistorySyncPayload hd env compressed syncType progress =
        processHistorySyncPayload hd env compressed none none ↔
      (progress = none ∧ syncType = none) ∨ hd.NoChunk env compressed := by
  simp only [processHistorySyncPayload, HistoryDecoder.NoChunk]
  cases hd.history compressed with
  | none => simp
  | some h =>
      cases hconvs : syncedConversations hd env h with
      | nil => simp [hconvs]
      | cons conv convs => simp [hconvs]

omit [WacoreBinary] in
theorem historySyncReceipts_eq_nil_iff {msgId : String} :
    historySyncReceipts hd owner msgId = [] ↔ owner.autoHistorySync = false ∨ owner.pn = none := by
  simp only [historySyncReceipts]
  cases owner.autoHistorySync <;> cases owner.pn <;> simp

omit [WacoreBinary] in
theorem downloads_eq_nil_iff (hinline : notif.initialHistBootstrapInlinePayload = none) :
    notif.downloads env = [] ↔
      env.downloadFeature = false ∨ notif.directPath = none ∨ notif.mediaKey = none := by
  simp only [HistorySyncNotification.downloads, HistorySyncNotification.downloadParams]
  rw [hinline]
  cases env.downloadFeature <;> cases notif.directPath <;> cases notif.mediaKey <;> simp

/-- When the two deliveries of a notification agree: an inline payload without
progress and type, or without a chunk, in a node with an id or to a client that
acknowledges nothing; or a notification for which nothing can be downloaded. -/
def DeliveriesAgree (d : HistoryDecoder σ κ) (env : Surroundings) (owner : HistoryOwner)
    (notif : HistorySyncNotification) (id : Option String) : Prop :=
  match notif.initialHistBootstrapInlinePayload with
  | some compressed =>
      ((notif.progress = none ∧ notif.syncType = none) ∨ d.NoChunk env compressed) ∧
        (id ≠ none ∨ owner.autoHistorySync = false ∨ owner.pn = none)
  | none => env.downloadFeature = false ∨ notif.directPath = none ∨ notif.mediaKey = none

/-- A notification in an encrypted message and the same notification in a node of
its own give the same updates, downloads and receipts exactly if the condition
holds. -/
theorem history_deliveries_agree_iff (henc : nodeNotification hd.toDecoder env n s = some notif)
    (hlegacy : DeliversNotification hd.toDecoder n' notif)
    (hid : n'.attrText "id" = n.attrText "id") :
    handleMessage hd env owner n s = handleHistorySync hd env owner n' ↔
      DeliveriesAgree hd env owner notif (n.attrText "id") := by
  rw [handleMessage_of_notification henc, handleHistorySync_of_notification hlegacy, hid]
  simp only [DeliveriesAgree]
  cases hinline : notif.initialHistBootstrapInlinePayload with
  | some compressed =>
      have hpayload : notif.payload env = some compressed := by
        simp [HistorySyncNotification.payload, hinline]
      have hdownloads : notif.downloads env = [] := by
        simp [HistorySyncNotification.downloads, hinline]
      have hreceipts : (historySyncReceipts hd owner ((n.attrText "id").getD "") =
            match n.attrText "id" with
            | some msgId => historySyncReceipts hd owner msgId
            | none => []) ↔
          n.attrText "id" ≠ none ∨ owner.autoHistorySync = false ∨ owner.pn = none := by
        cases n.attrText "id" with
        | some msgId => simp
        | none => simp [historySyncReceipts_eq_nil_iff]
      rw [hpayload, hdownloads]
      simp only [Handled.mk.injEq, true_and, processHistorySyncPayload_eq_iff, hreceipts]
  | none =>
      rw [← downloads_eq_nil_iff hinline]
      constructor
      · intro h
        cases hpayload : notif.payload env with
        | some b =>
            rw [hpayload] at h
            exact congrArg Handled.downloads h
        | none =>
            rw [hpayload] at h
            exact congrArg Handled.downloads h
      · intro hdownloads
        have hpayload : notif.payload env = none := by
          simp [HistorySyncNotification.payload, hinline, hdownloads]
        rw [hpayload, hdownloads]

/-! ## A history sync from a contact -/

/-- A chat of one message. -/
def exampleHistory : HistorySync (Option String) where
  conversations :=
    [{ id := "alice@s.whatsapp.net"
       newJid := none
       name := none
       pinned := none
       archived := none
       muteEndTime := none
       unreadCount := none
       messages :=
         [{ key := ⟨none, some true, some "3EB0", none⟩
            messageTimestamp := some 0
            message := ⟨none, none, some "hello"⟩ }] }]

/-- A decoder of one payload. -/
def exampleHistoryDecoder : HistoryDecoder (List SenderKeyName) (Option String) where
  toDecoder := exampleDecoder
  decompressZlib b _ := .ok b
  decodeHistorySync b := if b = [9] then .ok exampleHistory else .error "invalid history"
  toNonAdString j := j.user ++ "@" ++ j.server

/-- A history sync notification in a message of a contact. -/
def aliceHistorySync : Node :=
  .mk "message" [("from", .jid aliceJid), ("id", .string "3EB0")]
    (some (.nodes [sessionElement [4]]))

def myJid : Jid := ⟨"me", "s.whatsapp.net", 0, 0, 0⟩

omit [WacoreBinary] in
/-- Any contact can inject history. -/
theorem contact_injects_history :
    letI := plainWacore
    ¬ ∀ (d : HistoryDecoder (List SenderKeyName) (Option String)) env n s sync fromJid
        (pn lid : Jid),
      (processIncomingNode d.toDecoder env n s).result = .backgroundHistorySync sync →
        d.attrJid n "from" = some fromJid →
          (messageContext d.toDecoder env n fromJid).senderJid.user = pn.user ∨
            (messageContext d.toDecoder env n fromJid).senderJid.user = lid.user := by
  let _ := plainWacore
  intro h
  have hsender := h exampleHistoryDecoder exampleSurroundings aliceHistorySync []
    ⟨[9], "3EB0", some 50, some 3⟩ aliceJid myJid myJid rfl rfl
  revert hsender
  decide

/-! ## Two deliveries -/

/-- The notification in the message of this payload, in a message and by itself. -/
def encryptedNotification (payload : Bytes) : Node :=
  .mk "message" [("from", .jid myJid), ("id", .string "3EB0")]
    (some (.nodes [sessionElement payload]))

def plainNotification (payload : Bytes) : Node :=
  .mk "notification" [("type", .string "history_sync_notification"), ("id", .string "3EB0")]
    (some (.bytes payload))

/-- A notification with an inline payload. -/
def inlineNotification (progress : Option Nat) (syncType : Option HistorySyncType) :
    HistorySyncNotification :=
  ⟨some [9], none, none, none, none, none, progress, syncType⟩

def myOwner : HistoryOwner := ⟨true, some myJid⟩

omit [WacoreBinary] in
/-- Without progress and type the deliveries agree. -/
theorem deliveries_agree_without_progress :
    letI := plainWacore
    handleMessage exampleHistoryDecoder exampleSurroundings myOwner (encryptedNotification [5]) [] =
      handleHistorySync exampleHistoryDecoder exampleSurroundings myOwner
        (plainNotification [5]) := by
  let _ := plainWacore
  have henc : nodeNotification exampleHistoryDecoder.toDecoder exampleSurroundings
      (encryptedNotification [5]) [] = some (inlineNotification none none) := rfl
  have hplain : DeliversNotification exampleHistoryDecoder.toDecoder (plainNotification [5])
      (inlineNotification none none) := ⟨rfl, rfl, [5], _, rfl, rfl, rfl⟩
  exact (history_deliveries_agree_iff henc hplain rfl).mpr ⟨.inl ⟨rfl, rfl⟩, .inl (by decide)⟩

/-- The progress that a chunk shows. -/
def chunkProgress : MessageUpdate (Option String) → Option Nat
  | .historySync chunk => chunk.progress
  | _ => none

omit [WacoreBinary] in
/-- A notification with a progress loses it in a node of its own. -/
theorem deliveries_differ_in_progress :
    letI := plainWacore
    ¬ ∀ (d : HistoryDecoder (List SenderKeyName) (Option String)) env owner n n' s notif,
      nodeNotification d.toDecoder env n s = some notif →
        DeliversNotification d.toDecoder n' notif → n'.attrText "id" = n.attrText "id" →
          handleMessage d env owner n s = handleHistorySync d env owner n' := by
  let _ := plainWacore
  intro h
  have hagree := h exampleHistoryDecoder exampleSurroundings myOwner (encryptedNotification [4])
    (plainNotification [4]) [] (inlineNotification (some 50) (some 3)) rfl
    ⟨rfl, rfl, [4], _, rfl, rfl, rfl⟩ rfl
  have hprogress := congrArg (fun handled => handled.updates.map chunkProgress) hagree
  revert hprogress
  decide

end Waepic.Client
