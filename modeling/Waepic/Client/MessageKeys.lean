import Waepic.Client.Confidentiality
import Waepic.Client.Incoming

/-!
# The keys of messages

A reaction and a revocation name the message they act on by a `MessageKey`.  The
builders get the JID of the chat and the id, and a revocation by an admin also
the original sender; that the message is ours they take for granted.

So the key is right exactly for an outgoing message (`ownMessageKey_denotes_iff`),
and the reactions to two messages of a chat with one id have one key, whoever
wrote the messages (`reaction_targetKey_eq_iff`).
-/

namespace Waepic.Client

open Binary Connection

variable {σ κ : Type}

/-! ## Acting on a message -/

namespace Message

def id (m : Message κ) : String := m.info.id

def outgoing (m : Message κ) : Bool := m.info.source.isFromMe

def sender (m : Message κ) : Chat := .ofJid m.info.source.sender

/-- Whose message it is: the sender's, or none for ours. -/
def author (m : Message κ) : Option Jid := if m.outgoing then none else some m.sender.jid

/-- Messages of one chat with different ids or authors. -/
def Differs (m m' : Message κ) : Prop := m.chat = m'.chat ∧ (m.id, m.author) ≠ (m'.id, m'.author)

variable [WacoreBinary]

def react (wacore : Wacore σ) (m : Message κ) (emoji : String) : ClientM σ Unit :=
  sendReaction wacore m.chat m.id emoji

/-- Revoke the message of another user as an admin. -/
def revokeAsAdmin (wacore : Wacore σ) (m : Message κ) : ClientM σ Unit :=
  revokeMessage wacore m.chat m.id (.admin m.sender.jid)

/-- The protobuf of a reaction. -/
def reactionProto (m : Message κ) (emoji : String) (timestampMs : Nat) : WaMessage :=
  buildReactionProto m.chat.jid m.id emoji timestampMs

/-- The protobuf of a revocation by an admin. -/
def adminRevokeProto (m : Message κ) : WaMessage :=
  buildRevokeProto m.chat.jid m.id (some (WacoreBinary.jidText m.sender.jid))

end Message

variable [WacoreBinary] {m m' : Message κ}

/-- Reacting hands the node of this protobuf to `send_node`. -/
theorem exec_react (wacore : Wacore σ) (m : Message κ) (emoji : String) (s : ClientState σ) :
    ∃ msgId timestampMs, (exec (m.react wacore emoji) s).2.handed =
      s.handed ++
        [buildReactionNode wacore m.chat.jid msgId (m.reactionProto emoji timestampMs)] := by
  obtain ⟨msgId, counter, readings, hid⟩ := exec_generateMessageId s
  refine ⟨msgId, s.clock readings, ?_⟩
  rw [Message.react, sendReaction, exec_bind_ok hid, exec_bind_ok (exec_now _)]
  exact exec_sendNode_handed _ _

/-- So does revoking. -/
theorem exec_revokeAsAdmin (wacore : Wacore σ) (m : Message κ) (s : ClientState σ) :
    ∃ msgId, (exec (m.revokeAsAdmin wacore) s).2.handed =
      s.handed ++ [buildMessageNode wacore m.chat.jid msgId m.adminRevokeProto] := by
  obtain ⟨msgId, counter, readings, hid⟩ := exec_generateMessageId s
  refine ⟨msgId, ?_⟩
  rw [Message.revokeAsAdmin, revokeMessage, exec_bind_ok hid]
  exact exec_sendNode_handed _ _

/-! ## The message that a key denotes -/

/-- What is built for a message: a reaction, or a revocation by an admin. -/
inductive MessageAction where
  | reaction (emoji : String) (timestampMs : Nat)
  | adminRevoke

def MessageAction.proto (m : Message κ) : MessageAction → WaMessage
  | reaction emoji timestampMs => m.reactionProto emoji timestampMs
  | adminRevoke => m.adminRevokeProto

/-- The key of the message that a reaction or a protocol message is about. -/
def WaMessage.targetKey (proto : WaMessage) : Option MessageKey :=
  (proto.reactionMessage.map (·.key)).or (proto.protocolMessage.bind (·.key))

/-- The key has the chat, the id, the direction and, for the message of another in a
group, the sender of the message. -/
structure MessageKey.Denotes (key : MessageKey) (m : Message κ) : Prop where
  id : key.id = some m.id
  remoteJid : key.remoteJid = some (WacoreBinary.jidText m.chat.jid)
  fromMe : key.fromMe = some m.outgoing
  participant : (∃ jid, m.chat = .group jid) → m.outgoing = false →
    key.participant = some (WacoreBinary.jidText m.sender.jid)

/-- The keys that are built for these messages denote them and tell them apart. -/
structure KeysDenote (M : Message κ → Prop) (action : MessageAction) : Prop where
  denotes : ∀ m, M m → ∃ key, (action.proto m).targetKey = some key ∧ key.Denotes m
  distinct : ∀ m m', M m → M m' → m.Differs m' → ∀ other : MessageAction,
    (action.proto m).targetKey ≠ (other.proto m').targetKey

/-- Every action makes the key of an own message. -/
theorem targetKey_proto (m : Message κ) (action : MessageAction) :
    ∃ participant, (action.proto m).targetKey =
      some (ownMessageKey m.chat.jid m.id participant) := by
  cases action with
  | reaction emoji timestampMs => exact ⟨none, rfl⟩
  | adminRevoke => exact ⟨some (WacoreBinary.jidText m.sender.jid), rfl⟩

/-- Of such a key only the direction can be wrong, and for the message of another
it is. -/
theorem ownMessageKey_denotes_iff (m : Message κ) (participant : Option String) :
    (ownMessageKey m.chat.jid m.id participant).Denotes m ↔ m.outgoing = true := by
  constructor
  · intro h
    exact (Option.some.inj h.fromMe).symm
  · intro hout
    refine ⟨rfl, rfl, ?_, fun _ hin => ?_⟩
    · rw [hout]
      rfl
    · rw [hout] at hin
      cases hin

omit [WacoreBinary] in
/-- Our messages in a chat differ by their ids. -/
theorem id_ne_of_outgoing (h : m.Differs m') (hout : m.outgoing = true)
    (hout' : m'.outgoing = true) : m.id ≠ m'.id := by
  intro hid
  apply h.2
  simp [hid, Message.author, hout, hout']

theorem targetKey_ne_of_id_ne (h : m.id ≠ m'.id) (action other : MessageAction) :
    (action.proto m).targetKey ≠ (other.proto m').targetKey := by
  obtain ⟨participant, hkey⟩ := targetKey_proto m action
  obtain ⟨participant', hkey'⟩ := targetKey_proto m' other
  rw [hkey, hkey']
  intro heq
  exact h (Option.some.inj (congrArg MessageKey.id (Option.some.inj heq)))

/-- The key of a reaction tells two messages of a chat apart by their ids only. -/
theorem reaction_targetKey_eq_iff (hchat : m.chat = m'.chat) (emoji emoji' : String)
    (timestampMs timestampMs' : Nat) :
    (m.reactionProto emoji timestampMs).targetKey =
        (m'.reactionProto emoji' timestampMs').targetKey ↔ m.id = m'.id := by
  constructor
  · intro heq
    exact Option.some.inj (congrArg MessageKey.id (Option.some.inj heq))
  · intro hid
    simp only [Message.reactionProto, hchat, hid]
    rfl

/-- The keys in reactions, and those in revocations by an admin, denote the messages
and tell them apart exactly if all of the messages are ours. -/
theorem message_keys_iff (M : Message κ → Prop) (action : MessageAction) :
    KeysDenote M action ↔ ∀ m, M m → m.outgoing = true := by
  constructor
  · intro h m hm
    obtain ⟨key, hkey, hdenotes⟩ := h.denotes m hm
    obtain ⟨participant, hown⟩ := targetKey_proto m action
    obtain rfl := Option.some.inj (hkey.symm.trans hown)
    exact (ownMessageKey_denotes_iff m participant).mp hdenotes
  · intro hout
    constructor
    · intro m hm
      obtain ⟨participant, hown⟩ := targetKey_proto m action
      exact ⟨_, hown, (ownMessageKey_denotes_iff m participant).mpr (hout m hm)⟩
    · intro m m' hm hm' hdiff other
      exact targetKey_ne_of_id_ne (id_ne_of_outgoing hdiff (hout m hm) (hout m' hm')) action other

/-! ## A reaction to the message of another -/

/-- A message of another in a group. -/
def aliceGroupText : Message Unit where
  raw := ⟨none, none, ()⟩
  info :=
    { id := "3EB0"
      source := ⟨⟨"family", "g.us", 0, 0, 0⟩, ⟨"alice", "s.whatsapp.net", 0, 0, 0⟩, false⟩
      timestamp := 0
      type := "text" }
  chat := .group ⟨"family", "g.us", 0, 0, 0⟩

omit [WacoreBinary] in
/-- The key says that the message is ours. -/
theorem reaction_key_takes_message_for_ours :
    letI := plainWacore
    ¬ KeysDenote (· = aliceGroupText) (.reaction ":+1:" 0) := by
  let _ := plainWacore
  intro h
  obtain ⟨key, hkey, hdenotes⟩ := h.denotes aliceGroupText rfl
  obtain rfl := Option.some.inj hkey
  cases hdenotes.fromMe

end Waepic.Client
