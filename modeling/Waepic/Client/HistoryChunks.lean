import Waepic.Client.HistorySync
import Mathlib.Data.List.Forall2

/-!
# What a history sync keeps

`process_history_sync_payload` has a loop over the conversations and in it one
over the messages, which skip what has an invalid JID and push the rest.  The
loops are here as they stand in the source, with the vector pushed to so far as
an argument (`processHistorySyncPayload_eq_loops`).

What is kept is described without them: an entry *qualifies* if its JID parses,
and the loops yield, for the entries that qualify in their order, one image each
(`messagesLoop_spec`, `conversationsLoop_spec`).  So a payload that decodes gives
the qualifying conversations in at most one chunk, and the completion marker
(`history_kept`).
-/

namespace Waepic.Client

open Binary Connection

variable {σ κ : Type}

/-! ## The loops -/

/-- The loop over the messages, after it has pushed `messages`. -/
def messagesLoop (d : HistoryDecoder σ κ) (env : Surroundings) (jid : Jid) (chatJidStr : String) :
    List (WebMessageInfo κ) → List (Message κ) → List (Message κ)
  | [], messages => messages
  | webMsg :: rest, messages =>
      let senderJidStr := webMsg.key.participant.getD chatJidStr
      match d.parseJid senderJidStr with
      | none => messagesLoop d env jid chatJidStr rest messages
      | some senderJid =>
          let timestamp := asI64 (webMsg.messageTimestamp.getD 0)
          let info : MessageInfo :=
            { id := webMsg.key.id.getD ""
              source :=
                { chat := jid, sender := senderJid, isFromMe := webMsg.key.fromMe.getD false }
              timestamp := if d.isTimestamp timestamp then timestamp else env.now
              type := "" }
          messagesLoop d env jid chatJidStr rest
            (messages ++ [{ raw := webMsg.message, info := info, chat := .ofJid jid }])

/-- The loop over the conversations, after it has pushed `synced`. -/
def conversationsLoop (d : HistoryDecoder σ κ) (env : Surroundings) :
    List (HistoryConversation κ) → List (SyncedConversation κ) → List (SyncedConversation κ)
  | [], synced => synced
  | conv :: rest, synced =>
      let chatJidStr := conv.newJid.getD conv.id
      match d.parseJid chatJidStr with
      | none => conversationsLoop d env rest synced
      | some jid =>
          let conversation : SyncedConversation κ :=
            { jid := jid
              name := conv.name.filter (· ≠ "")
              messages := messagesLoop d env jid chatJidStr conv.messages []
              pinned := conv.pinned.any (0 < ·)
              archived := conv.archived.getD false
              muted := conv.muteEndTime.any (0 < ·)
              unreadCount := conv.unreadCount.getD 0 }
          conversationsLoop d env rest (synced ++ [conversation])

theorem messagesLoop_eq (d : HistoryDecoder σ κ) (env : Surroundings) (jid : Jid)
    (chatJidStr : String) (webs : List (WebMessageInfo κ)) (messages : List (Message κ)) :
    messagesLoop d env jid chatJidStr webs messages =
      messages ++ webs.filterMap (historyMessage d env jid chatJidStr) := by
  induction webs generalizing messages with
  | nil => simp [messagesLoop]
  | cons web webs ih =>
      simp only [messagesLoop]
      cases hparse : d.parseJid (web.key.participant.getD chatJidStr) with
      | none => simp [ih, historyMessage, hparse]
      | some senderJid => simp [ih, historyMessage, hparse]

theorem conversationsLoop_eq (d : HistoryDecoder σ κ) (env : Surroundings)
    (convs : List (HistoryConversation κ)) (synced : List (SyncedConversation κ)) :
    conversationsLoop d env convs synced =
      synced ++ convs.filterMap (syncedConversation d env) := by
  induction convs generalizing synced with
  | nil => simp [conversationsLoop]
  | cons conv convs ih =>
      simp only [conversationsLoop]
      cases hparse : d.parseJid (conv.newJid.getD conv.id) with
      | none => simp [ih, syncedConversation, hparse]
      | some jid => simp [ih, syncedConversation, hparse, messagesLoop_eq]

/-- The conversations of a payload are those that the loop pushes. -/
theorem processHistorySyncPayload_eq_loops (d : HistoryDecoder σ κ) (env : Surroundings)
    (compressed : Bytes) (syncType : Option HistorySyncType) (progress : Option Nat) :
    processHistorySyncPayload d env compressed syncType progress =
      match d.decompressZlib compressed maxDecompressed with
      | .error _ => []
      | .ok decompressed =>
          match d.decodeHistorySync decompressed with
          | .error _ => []
          | .ok historySync =>
              let synced := conversationsLoop d env historySync.conversations []
              (if synced.isEmpty then [] else [.historySync ⟨synced, progress, syncType⟩]) ++
                [.historySyncCompleted] := by
  simp only [processHistorySyncPayload, HistoryDecoder.history, syncedConversations]
  cases d.decompressZlib compressed maxDecompressed with
  | error e => rfl
  | ok decompressed =>
      cases hdecode : d.decodeHistorySync decompressed with
      | error e => simp [hdecode, Except.toOption]
      | ok h => simp [hdecode, Except.toOption, conversationsLoop_eq]

/-! ## What the loops keep -/

/-- The JID of the sender, or of the chat if there is none, parses. -/
def SenderQualifies (d : HistoryDecoder σ κ) (chatJidStr : String) (web : WebMessageInfo κ) :
    Bool :=
  (d.parseJid (web.key.participant.getD chatJidStr)).isSome

/-- The new JID, or else the id, parses. -/
def ConversationQualifies (d : HistoryDecoder σ κ) (conv : HistoryConversation κ) : Bool :=
  (d.parseJid (conv.newJid.getD conv.id)).isSome

/-- `m` is the message of the entry `web`. -/
structure IsMessageOf (d : HistoryDecoder σ κ) (jid : Jid) (chatJidStr : String)
    (web : WebMessageInfo κ) (m : Message κ) : Prop where
  id : m.info.id = web.key.id.getD ""
  isFromMe : m.info.source.isFromMe = web.key.fromMe.getD false
  content : m.raw = web.message
  chat : m.info.source.chat = jid
  sender : d.parseJid (web.key.participant.getD chatJidStr) = some m.info.source.sender

/-- `synced` is the conversation `conv` with its qualifying messages. -/
structure IsConversationOf (d : HistoryDecoder σ κ) (conv : HistoryConversation κ)
    (synced : SyncedConversation κ) : Prop where
  jid : d.parseJid (conv.newJid.getD conv.id) = some synced.jid
  messages :
    List.Forall₂ (IsMessageOf d synced.jid (conv.newJid.getD conv.id))
      (conv.messages.filter (SenderQualifies d (conv.newJid.getD conv.id))) synced.messages

theorem SenderQualifies.of_parse {d : HistoryDecoder σ κ} {chatJidStr : String}
    {web : WebMessageInfo κ} {senderJid : Jid}
    (h : d.parseJid (web.key.participant.getD chatJidStr) = some senderJid) :
    SenderQualifies d chatJidStr web = true := by
  simp [SenderQualifies, h]

theorem ConversationQualifies.of_parse {d : HistoryDecoder σ κ} {conv : HistoryConversation κ}
    {jid : Jid} (h : d.parseJid (conv.newJid.getD conv.id) = some jid) :
    ConversationQualifies d conv = true := by
  simp [ConversationQualifies, h]

/-- The messages pushed so far are those of the qualifying entries so far. -/
theorem messagesLoop_spec {d : HistoryDecoder σ κ} {env : Surroundings} {jid : Jid}
    {chatJidStr : String} (webs : List (WebMessageInfo κ)) {done : List (WebMessageInfo κ)}
    {messages : List (Message κ)}
    (h : List.Forall₂ (IsMessageOf d jid chatJidStr) (done.filter (SenderQualifies d chatJidStr))
      messages) :
    List.Forall₂ (IsMessageOf d jid chatJidStr)
      ((done ++ webs).filter (SenderQualifies d chatJidStr))
      (messagesLoop d env jid chatJidStr webs messages) := by
  induction webs generalizing done messages with
  | nil =>
      rw [List.append_nil]
      exact h
  | cons web webs ih =>
      rw [List.append_cons]
      simp only [messagesLoop]
      cases hparse : d.parseJid (web.key.participant.getD chatJidStr) with
      | none =>
          refine ih ?_
          have hnot : SenderQualifies d chatJidStr web = false := by simp [SenderQualifies, hparse]
          simpa [List.filter_append, hnot] using h
      | some senderJid =>
          refine ih ?_
          rw [List.filter_append, List.filter_singleton, SenderQualifies.of_parse hparse]
          exact List.rel_append h (.cons ⟨rfl, rfl, rfl, rfl, hparse⟩ .nil)

/-- The conversations pushed so far are those of the qualifying entries so far. -/
theorem conversationsLoop_spec {d : HistoryDecoder σ κ} {env : Surroundings}
    (convs : List (HistoryConversation κ)) {done : List (HistoryConversation κ)}
    {synced : List (SyncedConversation κ)}
    (h : List.Forall₂ (IsConversationOf d) (done.filter (ConversationQualifies d)) synced) :
    List.Forall₂ (IsConversationOf d) ((done ++ convs).filter (ConversationQualifies d))
      (conversationsLoop d env convs synced) := by
  induction convs generalizing done synced with
  | nil =>
      rw [List.append_nil]
      exact h
  | cons conv convs ih =>
      rw [List.append_cons]
      simp only [conversationsLoop]
      cases hparse : d.parseJid (conv.newJid.getD conv.id) with
      | none =>
          refine ih ?_
          have hnot : ConversationQualifies d conv = false := by
            simp [ConversationQualifies, hparse]
          simpa [List.filter_append, hnot] using h
      | some jid =>
          refine ih ?_
          rw [List.filter_append, List.filter_singleton, ConversationQualifies.of_parse hparse]
          have hmessages : List.Forall₂ (IsMessageOf d jid (conv.newJid.getD conv.id))
              (([] ++ conv.messages).filter (SenderQualifies d (conv.newJid.getD conv.id)))
              (messagesLoop d env jid (conv.newJid.getD conv.id) conv.messages []) :=
            messagesLoop_spec conv.messages .nil
          exact List.rel_append h (.cons ⟨hparse, hmessages⟩ .nil)

/-- A payload that decompresses and decodes gives the completion marker, and before
it one chunk of the qualifying conversations if there are any; any other payload
gives nothing. -/
theorem history_kept (d : HistoryDecoder σ κ) (env : Surroundings) (compressed : Bytes)
    (syncType : Option HistorySyncType) (progress : Option Nat) :
    (∀ e, d.decompressZlib compressed maxDecompressed = .error e →
      processHistorySyncPayload d env compressed syncType progress = []) ∧
    ∀ decompressed, d.decompressZlib compressed maxDecompressed = .ok decompressed →
      (∀ e, d.decodeHistorySync decompressed = .error e →
        processHistorySyncPayload d env compressed syncType progress = []) ∧
      ∀ historySync, d.decodeHistorySync decompressed = .ok historySync →
        ∃ chunk : Option (HistorySyncChunk κ),
          processHistorySyncPayload d env compressed syncType progress =
            (chunk.map MessageUpdate.historySync).toList ++ [.historySyncCompleted] ∧
          (chunk = none ↔
            ∀ conv ∈ historySync.conversations, ConversationQualifies d conv = false) ∧
          ∀ c, chunk = some c →
            c.progress = progress ∧ c.syncType = syncType ∧
            List.Forall₂ (IsConversationOf d)
              (historySync.conversations.filter (ConversationQualifies d)) c.conversations := by
  rw [processHistorySyncPayload_eq_loops]
  refine ⟨fun e he => by rw [he], fun decompressed hzlib => ?_⟩
  rw [hzlib]
  refine ⟨fun e he => by simp only [he], fun historySync hdecode => ?_⟩
  simp only [hdecode]
  have hkept : List.Forall₂ (IsConversationOf d)
      (([] ++ historySync.conversations).filter (ConversationQualifies d))
      (conversationsLoop d env historySync.conversations []) :=
    conversationsLoop_spec historySync.conversations .nil
  rw [List.nil_append] at hkept
  generalize conversationsLoop d env historySync.conversations [] = synced at hkept
  have hempty : synced = [] ↔
      ∀ conv ∈ historySync.conversations, ConversationQualifies d conv = false := by
    rw [← List.length_eq_zero_iff, ← hkept.length_eq, List.length_eq_zero_iff,
      List.filter_eq_nil_iff]
    simp only [Bool.not_eq_true]
  cases synced with
  | nil =>
      refine ⟨none, rfl, ?_, nofun⟩
      rw [← hempty]
      exact iff_of_true rfl rfl
  | cons first rest =>
      refine ⟨some ⟨first :: rest, progress, syncType⟩, rfl, ?_, ?_⟩
      · rw [← hempty]
        exact iff_of_false nofun nofun
      · rintro c hc
        cases hc
        exact ⟨rfl, rfl, hkept⟩

end Waepic.Client
