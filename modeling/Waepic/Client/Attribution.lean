import Waepic.Client.Confidentiality
import Waepic.Client.HistorySync

/-!
# Authors of messages

A `Message` is made in four places, and each fills in the sender and `is_from_me`
for itself: from the `<enc>` children of a node, from the plaintext of a node,
from a history sync, and by `send_message`.  `Message::sender` promises the
current user for an outgoing message.

The author is the participant, if there is one; otherwise the client's own
account if the message is ours, and otherwise the JID that it comes from.
-/

namespace Waepic.Client

open Binary Connection

/-- The identities of the device. -/
structure OwnIdentity where
  pn : Jid
  lid : Jid

/-- The JID is of our account. -/
def OwnIdentity.is (own : OwnIdentity) (jid : Jid) : Bool :=
  jid.user = own.pn.user || jid.user = own.lid.user

/-- Where a message comes from, with what is known of its author there. -/
inductive Origin where
  | encrypted (participant : Option Jid) (fromJid : Jid)
  | plaintext (participant : Option Jid) (fromJid : Jid)
  | history (participant : Option Jid) (fromMe : Bool) (chatJid : Jid)
  | sent (chatJid : Jid)

namespace Origin

def participant : Origin → Option Jid
  | encrypted participant _ | plaintext participant _ | history participant _ _ => participant
  | sent _ => none

def fromJid : Origin → Jid
  | encrypted _ jid | plaintext _ jid | history _ _ jid | sent jid => jid

/-- The message is ours. -/
def isOurs (own : OwnIdentity) : Origin → Bool
  | encrypted _ jid | plaintext _ jid => own.is jid
  | history _ fromMe _ => fromMe
  | sent _ => true

/-- The sender is the author. -/
def IsAuthor (own : OwnIdentity) (origin : Origin) (sender : Jid) : Prop :=
  match origin.participant with
  | some participant => sender = participant
  | none => if origin.isOurs own then own.is sender = true else sender = origin.fromJid

/-- The sender is the author, and the message is outgoing exactly if the sender is
ours. -/
def Attributed (own : OwnIdentity) (origin : Origin) (source : MessageSource) : Prop :=
  origin.IsAuthor own source.sender ∧ (source.isFromMe = true ↔ own.is source.sender = true)

/-- What the client fills in. -/
def source : Origin → MessageSource
  | encrypted participant jid => ⟨jid, participant.getD jid, false⟩
  | plaintext _ jid => ⟨jid, jid, false⟩
  | history participant fromMe jid => ⟨jid, participant.getD jid, fromMe⟩
  | sent jid => ⟨jid, jid, true⟩

/-- When it attributes the message: an encrypted one if it is not ours, a plaintext
one if besides it has no other participant, one of a history sync if `from_me`
says whether the sender is ours, and a sent one if the chat is with ourselves. -/
def Attributable (own : OwnIdentity) : Origin → Prop
  | encrypted participant jid => own.is (participant.getD jid) = false
  | plaintext participant jid =>
      own.is jid = false ∧ (participant = none ∨ participant = some jid)
  | history participant fromMe jid => fromMe = own.is (participant.getD jid)
  | sent jid => own.is jid = true

instance (own : OwnIdentity) : (origin : Origin) → Decidable (origin.Attributable own)
  | encrypted participant jid => inferInstanceAs (Decidable (own.is (participant.getD jid) = false))
  | plaintext participant jid =>
      inferInstanceAs
        (Decidable (own.is jid = false ∧ (participant = none ∨ participant = some jid)))
  | history participant fromMe jid =>
      inferInstanceAs (Decidable (fromMe = own.is (participant.getD jid)))
  | sent jid => inferInstanceAs (Decidable (own.is jid = true))

/-- What the client fills in is right under that condition only. -/
theorem attributed_source_iff (own : OwnIdentity) (origin : Origin) :
    origin.Attributed own origin.source ↔ origin.Attributable own := by
  cases origin with
  | encrypted participant jid =>
      cases participant with
      | none =>
          cases h : own.is jid <;>
            simp [Attributed, IsAuthor, source, Attributable, Origin.participant, isOurs, fromJid, h]
      | some p => simp [Attributed, IsAuthor, source, Attributable, Origin.participant]
  | plaintext participant jid =>
      cases participant with
      | none =>
          cases h : own.is jid <;>
            simp [Attributed, IsAuthor, source, Attributable, Origin.participant, isOurs, fromJid, h]
      | some p =>
          constructor
          · rintro ⟨hsender, hout⟩
            cases (show jid = p from hsender)
            exact ⟨by simpa [source] using hout, .inr rfl⟩
          · rintro ⟨hown, hp⟩
            obtain rfl : p = jid := by simpa using hp
            exact ⟨rfl, by simp [source, hown]⟩
  | history participant fromMe jid =>
      cases participant with
      | none =>
          cases h : own.is jid <;> cases fromMe <;>
            simp [Attributed, IsAuthor, source, Attributable, Origin.participant, isOurs, fromJid, h]
      | some p =>
          cases h : own.is p <;> cases fromMe <;>
            simp [Attributed, IsAuthor, source, Attributable, Origin.participant, h]
  | sent jid =>
      simp [Attributed, IsAuthor, source, Attributable, Origin.participant, isOurs]

end Origin

/-! ## The places that make messages -/

def SentMessage.source (sent : SentMessage) : MessageSource :=
  ⟨sent.chat, sent.sender, sent.isFromMe⟩

section

variable {σ τ κ : Type} [WacoreBinary]

/-- The sources of the messages that the client makes. -/
inductive Constructs (d : HistoryDecoder σ κ) (env : Surroundings) (wacore : Wacore τ) :
    Origin → MessageSource → Prop where
  /-- From a node with `<enc>` children. -/
  | encrypted {n : Node} {s : σ} {fromJid : Jid} {message : Message κ} :
      d.attrJid n "from" = some fromJid → (encChildren n).isEmpty = false →
      .newMessage message ∈ (processIncomingNode d.toDecoder env n s).result.toUpdates →
      Constructs d env wacore (.encrypted (d.attrJid n "participant") fromJid) message.info.source
  /-- From a node with plaintext content. -/
  | plaintext {n : Node} {s : σ} {fromJid : Jid} {message : Message κ} :
      d.attrJid n "from" = some fromJid → (encChildren n).isEmpty = true →
      .newMessage message ∈ (processIncomingNode d.toDecoder env n s).result.toUpdates →
      Constructs d env wacore (.plaintext (d.attrJid n "participant") fromJid) message.info.source
  /-- From a conversation of a history sync. -/
  | history {conv : HistoryConversation κ} {web : WebMessageInfo κ} {message : Message κ}
      {synced : SyncedConversation κ} :
      syncedConversation d env conv = some synced → web ∈ conv.messages →
      historyMessage d env synced.jid (conv.newJid.getD conv.id) web = some message →
      Constructs d env wacore
        (.history (web.key.participant.bind d.parseJid) (web.key.fromMe.getD false) synced.jid)
        message.info.source
  /-- By `send_message`. -/
  | sent {chat : Chat} {msg : InputMessage} {s s' : ClientState τ} {sent : SentMessage} :
      exec (sendMessage wacore chat msg) s = (.ok sent, s') →
      Constructs d env wacore (.sent chat.jid) sent.source

variable {d : HistoryDecoder σ κ} {env : Surroundings} {wacore : Wacore τ} {n : Node} {s : σ}
  {fromJid : Jid} {message : Message κ}

/-- A message of a message node is from its context. -/
theorem source_of_encrypted (hfrom : d.attrJid n "from" = some fromJid)
    (henc : (encChildren n).isEmpty = false)
    (h : .newMessage message ∈ (processIncomingNode d.toDecoder env n s).result.toUpdates) :
    message.info.source =
      ⟨fromJid, (d.attrJid n "participant").getD fromJid, false⟩ := by
  rcases processIncomingNode_cases d.toDecoder env n s with
    ⟨-, hprocess⟩ | ⟨jid, -, hjid, ⟨hempty, -⟩ | ⟨-, hprocess⟩⟩
  · rw [hprocess] at h
    cases h
  · cases hempty.symm.trans henc
  · obtain rfl : jid = fromJid := Option.some.inj (hjid.symm.trans hfrom)
    rw [hprocess, decryptE2eMessage] at h
    split at h
    · cases h
    · rw [receiveMessage_toUpdates] at h
      split at h
      · cases List.mem_singleton.mp h
        rfl
      · cases h

theorem source_of_plaintext (hfrom : d.attrJid n "from" = some fromJid)
    (henc : (encChildren n).isEmpty = true)
    (h : .newMessage message ∈ (processIncomingNode d.toDecoder env n s).result.toUpdates) :
    message.info.source = ⟨fromJid, fromJid, false⟩ := by
  rcases processIncomingNode_cases d.toDecoder env n s with
    ⟨-, hprocess⟩ | ⟨jid, -, hjid, ⟨-, hprocess⟩ | ⟨hnonempty, -⟩⟩
  · rw [hprocess] at h
    cases h
  · obtain rfl : jid = fromJid := Option.some.inj (hjid.symm.trans hfrom)
    rw [hprocess, receivePlaintext] at h
    split at h
    · cases List.mem_singleton.mp h
      rfl
    · cases h
  · cases hnonempty.symm.trans henc

omit [WacoreBinary] in
theorem source_of_history {conv : HistoryConversation κ} {web : WebMessageInfo κ}
    {synced : SyncedConversation κ} (hconv : syncedConversation d env conv = some synced)
    (h : historyMessage d env synced.jid (conv.newJid.getD conv.id) web = some message) :
    message.info.source =
      ⟨synced.jid, (web.key.participant.bind d.parseJid).getD synced.jid,
        web.key.fromMe.getD false⟩ := by
  obtain ⟨jid, hjid, rfl⟩ := Option.map_eq_some_iff.mp hconv
  obtain ⟨senderJid, hsender, rfl⟩ := Option.map_eq_some_iff.mp h
  cases hparticipant : web.key.participant with
  | none =>
      rw [hparticipant, Option.getD_none, hjid] at hsender
      cases hsender
      rfl
  | some p =>
      rw [hparticipant, Option.getD_some] at hsender
      simp [hsender]

omit [WacoreBinary] in
theorem source_of_sent {chat : Chat} {msg : InputMessage} {s s' : ClientState τ}
    {sent : SentMessage} (h : exec (sendMessage wacore chat msg) s = (.ok sent, s')) :
    sent.source = ⟨chat.jid, chat.jid, true⟩ := by
  unfold sendMessage at h
  obtain ⟨msgId, s₁, -, h⟩ := exec_bind_eq_ok h
  dsimp only at h
  split at h <;>
  · obtain ⟨node, s₂, -, h⟩ := exec_bind_eq_ok h
    obtain ⟨_, s₃, -, h⟩ := exec_bind_eq_ok h
    obtain ⟨timestamp, s₄, -, h⟩ := exec_bind_eq_ok h
    cases h
    rfl

/-- Every place fills in what its origin says. -/
theorem source_of_constructs {origin : Origin} {source : MessageSource}
    (h : Constructs d env wacore origin source) : source = origin.source := by
  cases h with
  | encrypted hfrom henc hmem => exact source_of_encrypted hfrom henc hmem
  | plaintext hfrom henc hmem => exact source_of_plaintext hfrom henc hmem
  | history hconv _ hweb => exact source_of_history hconv hweb
  | sent hsend => exact source_of_sent hsend

/-- The sender of a message is its author, and the message is outgoing exactly if
the sender is ours, exactly under the condition for its origin. -/
theorem message_attributed_iff (own : OwnIdentity) {origin : Origin} {source : MessageSource}
    (h : Constructs d env wacore origin source) :
    origin.Attributed own source ↔ origin.Attributable own := by
  rw [source_of_constructs h]
  exact origin.attributed_source_iff own

end

/-! ## A text in both directions -/

/-- The account of `loggedIn`. -/
def userIdentity : OwnIdentity := ⟨userJid, userJid⟩

/-- A text from a contact. -/
def aliceText : Node :=
  .mk "message" [("from", .jid aliceJid), ("id", .string "3EB0")]
    (some (.nodes [sessionElement [2]]))

theorem received_text_attributed :
    (Origin.encrypted none aliceJid).Attributed userIdentity ⟨aliceJid, aliceJid, false⟩ := by
  let _ := plainWacore
  obtain ⟨message, hmem, hsource⟩ : ∃ message : Message (Option String),
      .newMessage message ∈ (processIncomingNode exampleDecoder exampleSurroundings aliceText
        []).result.toUpdates ∧ message.info.source = ⟨aliceJid, aliceJid, false⟩ :=
    ⟨_, List.mem_singleton.mpr rfl, rfl⟩
  have hconstructs : Constructs exampleHistoryDecoder exampleSurroundings shiftWacore
      (.encrypted (exampleHistoryDecoder.attrJid aliceText "participant") aliceJid)
      message.info.source := .encrypted rfl rfl hmem
  rw [hsource] at hconstructs
  exact (message_attributed_iff userIdentity hconstructs).mpr (by decide)

/-- A text to the contact is outgoing, and its sender is the contact. -/
theorem sent_text_misattributed :
    letI := plainWacore
    ¬ ∀ (d : HistoryDecoder (List SenderKeyName) (Option String)) env (wacore : Wacore Unit) own
        origin source, Constructs d env wacore origin source →
          origin.Attributed own source := by
  let _ := plainWacore
  intro h
  obtain ⟨sent, t, hsend⟩ : ∃ sent t,
      exec (sendMessage shiftWacore (.user aliceJid) ⟨some "hi", none⟩) loggedIn = (.ok sent, t) :=
    ⟨_, _, rfl⟩
  have hattributed := h exampleHistoryDecoder exampleSurroundings shiftWacore userIdentity _ _
    (.sent hsend)
  rw [source_of_sent hsend] at hattributed
  have hours := hattributed.2.mp rfl
  revert hours
  decide

end Waepic.Client
