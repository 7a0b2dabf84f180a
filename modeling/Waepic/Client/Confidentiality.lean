import Waepic.Client.Messages
import Mathlib.Tactic.ByContra

/-!
# Confidentiality of outgoing content

What an operation hands to `send_node` is confidential if it comes from the
encryption and does not depend on the text but for what `<enc>` holds.
`send_message` is, and no other operation that hands a node: they all put the
encoded message into a `<plaintext>` (`confidential_iff`).
-/

namespace Waepic.Client

open Binary Connection

variable {σ α β : Type}

/-! ## Running an operation -/

def exec (m : ClientM σ α) (s : ClientState σ) : Except ClientError α × ClientState σ := m.run.run s

theorem exec_bind (m : ClientM σ α) (f : α → ClientM σ β) (s : ClientState σ) :
    exec (m >>= f) s =
      match exec m s with
      | (.ok a, t) => exec (f a) t
      | (.error e, t) => (.error e, t) := by
  show StateT.run (ExceptT.run m >>= ExceptT.bindCont f) s = _
  rw [StateT.run_bind]
  simp only [exec]
  rcases m.run.run s with ⟨_ | a, t⟩ <;> rfl

theorem exec_bind_ok {m : ClientM σ α} {s t : ClientState σ} {a : α} (h : exec m s = (.ok a, t))
    (f : α → ClientM σ β) : exec (m >>= f) s = exec (f a) t := by
  rw [exec_bind, h]

theorem exec_bind_error {m : ClientM σ α} {s t : ClientState σ} {e : ClientError}
    (h : exec m s = (.error e, t)) (f : α → ClientM σ β) : exec (m >>= f) s = (.error e, t) := by
  rw [exec_bind, h]

/-- A sequence that succeeds succeeds in both parts. -/
theorem exec_bind_eq_ok {m : ClientM σ α} {f : α → ClientM σ β} {s t : ClientState σ} {b : β}
    (h : exec (m >>= f) s = (.ok b, t)) :
    ∃ a u, exec m s = (.ok a, u) ∧ exec (f a) u = (.ok b, t) := by
  rw [exec_bind] at h
  rcases hm : exec m s with ⟨e | a, u⟩
  · rw [hm] at h
    cases h
  · rw [hm] at h
    exact ⟨a, u, rfl, h⟩

theorem exec_now (s : ClientState σ) :
    exec now s = (.ok (s.clock s.readings), { s with readings := s.readings + 1 }) := rfl

/-- The next id takes a count and a reading of the clock, and nothing else. -/
theorem exec_generateMessageId (s : ClientState σ) :
    ∃ id counter readings, exec generateMessageId s =
      (.ok id, { s with msgIdCounter := counter, readings := readings }) :=
  ⟨_, _, _, rfl⟩

/-- The node is handed over, whatever the send returns. -/
theorem exec_sendNode (n : Node) (s : ClientState σ) :
    ∃ r, exec (sendNode n) s = (r, { s with handed := s.handed ++ [n] }) := by
  cases h : s.sendResult s.handed.length with
  | ok _ =>
      refine ⟨.ok (), ?_⟩
      rw [sendNode, exec_bind_ok (show exec get s = (.ok s, s) from rfl),
        exec_bind_ok (show exec (set _) s = (.ok (), _) from rfl), h]
      rfl
  | error e =>
      refine ⟨.error (.connection e), ?_⟩
      rw [sendNode, exec_bind_ok (show exec get s = (.ok s, s) from rfl),
        exec_bind_ok (show exec (set _) s = (.ok (), _) from rfl), h]
      rfl

theorem exec_sendNode_handed (n : Node) (s : ClientState σ) :
    (exec (sendNode n) s).2.handed = s.handed ++ [n] := by
  obtain ⟨r, h⟩ := exec_sendNode n s
  rw [h]

theorem exec_okOr_some {a : α} (e : ClientError) (s : ClientState σ) :
    exec (okOr e (some a)) s = (.ok a, s) := rfl

theorem exec_okOr_none (e : ClientError) (s : ClientState σ) :
    exec (okOr e (none : Option α)) s = (.error e, s) := rfl

/-- The operation only adds to what is handed over. -/
def Grows (m : ClientM σ α) : Prop := ∀ s, s.handed <+: (exec m s).2.handed

theorem Grows.bind {m : ClientM σ α} {f : α → ClientM σ β} (hm : Grows m)
    (hf : ∀ a, Grows (f a)) : Grows (m >>= f) := by
  intro s
  have hs := hm s
  rw [exec_bind]
  rcases h : exec m s with ⟨_ | a, t⟩
  · rw [h] at hs
    exact hs
  · rw [h] at hs
    exact hs.trans (hf a t)

theorem grows_pure (a : α) : Grows (pure a : ClientM σ α) := fun _ => List.prefix_rfl

theorem grows_generateMessageId : Grows (generateMessageId : ClientM σ String) :=
  fun _ => List.prefix_rfl

theorem grows_sendNode (n : Node) : Grows (sendNode n : ClientM σ Unit) := by
  intro s
  rw [exec_sendNode_handed]
  exact List.prefix_append ..

theorem grows_forM {m : α → ClientM σ Unit} (hm : ∀ a, Grows (m a)) (as : List α) :
    Grows (as.forM m) := by
  induction as with
  | nil => exact grows_pure ()
  | cons a as ih => exact (hm a).bind fun _ => ih

/-! ## Confidential nodes -/

/-- The message with another text, where it has one. -/
def WaMessage.setText (t : String) (m : WaMessage) : WaMessage :=
  { m with
    conversation := m.conversation.map fun _ => t
    extendedTextMessage := m.extendedTextMessage.map fun e =>
      { e with text := e.text.map fun _ => t }
    reactionMessage := m.reactionMessage.map fun r => { r with text := r.text.map fun _ => t } }

/-- A preparation of stanzas puts nothing in a `<plaintext>`, and the text of a
message into `<enc>` only. -/
structure Encrypting (prepare : WaMessage → Except String Node) : Prop where
  no_plaintext : ∀ m n, prepare m = .ok n → n.hasChild "plaintext" = false
  hides_text : ∀ m t, (prepare (m.setText t)).map (Node.redact "enc") =
    (prepare m).map (Node.redact "enc")

/-- What the client relies on: wacore's stanzas carry a message in `<enc>` only. -/
structure Wacore.Lawful (wacore : Wacore σ) : Prop where
  dm : ∀ signal ownJid ownLid account toJid id,
    Encrypting fun m => (wacore.prepareDmStanza signal ownJid ownLid account toJid m id).1
  group : ∀ signal ownJid ownLid account toJid id,
    Encrypting fun m => (wacore.prepareGroupStanza signal ownJid ownLid account toJid m id).1

/-- The node of a prepared stanza. -/
def Wacore.Prepared (wacore : Wacore σ) (n : Node) : Prop :=
  (∃ signal ownJid ownLid account toJid m id,
    (wacore.prepareDmStanza signal ownJid ownLid account toJid m id).1 = .ok n) ∨
  ∃ signal ownJid ownLid account toJid m id,
    (wacore.prepareGroupStanza signal ownJid ownLid account toJid m id).1 = .ok n

/-- The operation with another text, emoji or edited text, where it has one. -/
def Operation.setText (t : String) : Operation → Operation
  | sendMessage chat msg => .sendMessage chat { msg with text := msg.text.map fun _ => t }
  | sendReaction chat messageId _ => .sendReaction chat messageId t
  | editMessage chat messageId newText =>
      .editMessage chat messageId { newText with text := newText.text.map fun _ => t }
  | op => op

/-- The chat that an operation sends to, if it is told one. -/
def Operation.destination : Operation → Option Chat
  | sendMessage chat _ | sendReaction chat _ _ | editMessage chat _ _ => some chat
  | revokeMessage chat _ _ | deleteMessages chat _ | forwardMessages chat _ _ => some chat
  | downloadFullHistory | downloadChatHistory _ => none

section

variable [WacoreBinary]

/-- The nodes that an operation hands to `send_node`. -/
def handed (wacore : Wacore σ) (s : ClientState σ) (op : Operation) : List Node :=
  (exec (op.perform wacore) { s with handed := [] }).2.handed

/-- Every node handed over is a prepared stanza without a `<plaintext>`, and with
another text only the content of `<enc>` is another. -/
def Confidential (wacore : Wacore σ) (s : ClientState σ) (op : Operation) : Prop :=
  (∀ n ∈ handed wacore s op, wacore.Prepared n ∧ n.hasChild "plaintext" = false) ∧
  ∀ t, (handed wacore s (op.setText t)).map (Node.redact "enc") =
    (handed wacore s op).map (Node.redact "enc")

end

/-- The operation encrypts what it sends, or sends nothing. -/
def Operation.Encrypts (s : ClientState σ) : Operation → Prop
  | sendMessage _ _ => True
  | deleteMessages _ messageIds => messageIds = []
  | forwardMessages _ messageIds _ => messageIds = []
  | downloadFullHistory => s.pn = none
  | downloadChatHistory _ => s.pn = none
  | _ => False

/-! ## Plaintext operations -/

/-- The operation hands over a node with a `<plaintext>`. -/
def HandsPlaintext (m : ClientM σ α) (s : ClientState σ) : Prop :=
  ∃ n ∈ (exec m s).2.handed, n.hasChild "plaintext" = true

theorem plaintextNode_hasChild (wacore : Wacore σ) (toJid : Jid) (msgId : String)
    (proto : WaMessage) :
    (plaintextNode wacore toJid msgId proto).hasChild "plaintext" = true := rfl

theorem HandsPlaintext.after {m : ClientM σ α} {f : α → ClientM σ β} {s t : ClientState σ} {a : α}
    (h : exec m s = (.ok a, t)) (hf : HandsPlaintext (f a) t) : HandsPlaintext (m >>= f) s := by
  simp only [HandsPlaintext]
  rw [exec_bind_ok h]
  exact hf

/-- Whatever follows, the node has been handed over. -/
theorem HandsPlaintext.bind {m : ClientM σ α} {f : α → ClientM σ β} {s : ClientState σ}
    (h : HandsPlaintext m s) (hf : ∀ a, Grows (f a)) : HandsPlaintext (m >>= f) s := by
  obtain ⟨n, hn, hplain⟩ := h
  refine ⟨n, ?_, hplain⟩
  rw [exec_bind]
  rcases hm : exec m s with ⟨_ | a, t⟩
  · rw [hm] at hn
    exact hn
  · rw [hm] at hn
    exact (hf a t).subset hn

theorem handsPlaintext_sendNode (wacore : Wacore σ) (toJid : Jid) (msgId : String)
    (proto : WaMessage) (s : ClientState σ) :
    HandsPlaintext (sendNode (plaintextNode wacore toJid msgId proto)) s := by
  obtain ⟨r, h⟩ := exec_sendNode (plaintextNode wacore toJid msgId proto) s
  refine ⟨_, ?_, plaintextNode_hasChild wacore toJid msgId proto⟩
  rw [h]
  exact List.mem_append_right _ (List.mem_singleton_self _)

theorem handsPlaintext_forM {m : α → ClientM σ Unit} {as : List α} {s : ClientState σ}
    (hm : ∀ a s, HandsPlaintext (m a) s) (hgrows : ∀ a, Grows (m a)) (has : as ≠ []) :
    HandsPlaintext (as.forM m) s := by
  cases as with
  | nil => exact absurd rfl has
  | cons a as => exact (hm a s).bind fun _ => grows_forM hgrows as

section

variable [WacoreBinary] (wacore : Wacore σ) (s : ClientState σ)

theorem sendReaction_plaintext (chat : Chat) (messageId emoji : String) :
    HandsPlaintext (sendReaction wacore chat messageId emoji) s := by
  obtain ⟨id, counter, readings, h⟩ := exec_generateMessageId s
  exact .after h (.after (exec_now _) (handsPlaintext_sendNode ..))

theorem editMessage_plaintext (chat : Chat) (messageId : String) (newText : InputMessage) :
    HandsPlaintext (editMessage wacore chat messageId newText) s := by
  obtain ⟨id, counter, readings, h⟩ := exec_generateMessageId s
  exact .after h (.after (exec_now _) (handsPlaintext_sendNode ..))

theorem revokeMessage_plaintext (chat : Chat) (messageId : String) (revokeType : RevokeType) :
    HandsPlaintext (revokeMessage wacore chat messageId revokeType) s := by
  obtain ⟨id, counter, readings, h⟩ := exec_generateMessageId s
  exact .after h (handsPlaintext_sendNode ..)

theorem grows_revokeMessage (chat : Chat) (messageId : String) (revokeType : RevokeType) :
    Grows (revokeMessage wacore chat messageId revokeType) :=
  grows_generateMessageId.bind fun _ => grows_sendNode _

theorem deleteMessages_plaintext (chat : Chat) {messageIds : List String} (h : messageIds ≠ []) :
    HandsPlaintext (deleteMessages wacore chat messageIds) s :=
  handsPlaintext_forM (fun id s => revokeMessage_plaintext wacore s chat id .sender)
    (fun id => grows_revokeMessage wacore chat id .sender) h

theorem forwardMessages_plaintext (dest : Chat) {messageIds : List String} (source : Chat)
    (h : messageIds ≠ []) : HandsPlaintext (forwardMessages wacore dest messageIds source) s := by
  refine handsPlaintext_forM (fun messageId s => ?_) (fun messageId => ?_) h
  · obtain ⟨id, counter, readings, h⟩ := exec_generateMessageId s
    exact .after h (handsPlaintext_sendNode ..)
  · exact grows_generateMessageId.bind fun _ => grows_sendNode _

omit [WacoreBinary] in
theorem downloadFullHistory_plaintext (h : s.pn ≠ none) :
    HandsPlaintext (downloadFullHistory wacore) s := by
  obtain ⟨pn, hpn⟩ := Option.ne_none_iff_exists'.mp h
  obtain ⟨id, counter, readings, h⟩ := exec_generateMessageId s
  obtain ⟨id', counter', readings', h'⟩ := exec_generateMessageId
    { s with msgIdCounter := counter, readings := readings }
  have hok : exec (okOr .notLoggedIn s.pn) s = (.ok pn, s) := by rw [hpn]; rfl
  exact .after (show exec get s = (.ok s, s) from rfl)
    (.after hok (.after h (.after h' (handsPlaintext_sendNode ..))))

theorem downloadChatHistory_plaintext (chatJid : Jid) (h : s.pn ≠ none) :
    HandsPlaintext (downloadChatHistory wacore chatJid) s := by
  obtain ⟨pn, hpn⟩ := Option.ne_none_iff_exists'.mp h
  obtain ⟨id, counter, readings, h⟩ := exec_generateMessageId s
  have hok : exec (okOr .notLoggedIn s.pn) s = (.ok pn, s) := by rw [hpn]; rfl
  exact .after (show exec get s = (.ok s, s) from rfl)
    (.after hok (.after h (handsPlaintext_sendNode ..)))

/-- Every operation but `send_message` puts what it sends into a `<plaintext>`. -/
theorem perform_plaintext {op : Operation} (hop : ¬ op.Encrypts s) :
    HandsPlaintext (op.perform wacore) s := by
  cases op with
  | sendMessage chat msg => exact absurd trivial hop
  | sendReaction chat messageId emoji =>
    exact sendReaction_plaintext wacore s chat messageId emoji
  | editMessage chat messageId newText =>
    exact editMessage_plaintext wacore s chat messageId newText
  | revokeMessage chat messageId revokeType =>
      exact revokeMessage_plaintext wacore s chat messageId revokeType
  | deleteMessages chat messageIds => exact deleteMessages_plaintext wacore s chat hop
  | forwardMessages dest messageIds source =>
      exact forwardMessages_plaintext wacore s dest source hop
  | downloadFullHistory => exact downloadFullHistory_plaintext wacore s hop
  | downloadChatHistory chatJid => exact downloadChatHistory_plaintext wacore s chatJid hop

end

/-! ## Encrypted messages -/

theorem exec_prepared (context : String) (result : Except String Node × σ) (s : ClientState σ) :
    exec (prepared context result) s =
      (result.1.mapError fun e => .encryptSend (context ++ e), { s with signal := result.2 }) := by
  rcases result with ⟨_ | n, signal⟩ <;> rfl

/-- An encrypted message: the node is a prepared stanza without a `<plaintext>`,
and another text gives the same but for `<enc>`. -/
structure Hidden (wacore : Wacore σ) (r : Except ClientError Node)
    (withText : String → Except ClientError Node) : Prop where
  prepared : ∀ n, r = .ok n → wacore.Prepared n ∧ n.hasChild "plaintext" = false
  hides_text : ∀ t, (withText t).map (Node.redact "enc") = r.map (Node.redact "enc")

theorem Hidden.of_encrypting {wacore : Wacore σ} {prepare : WaMessage → Except String Node}
    (h : Encrypting prepare) (hprepared : ∀ m n, prepare m = .ok n → wacore.Prepared n)
    (m : WaMessage) (context : String) :
    Hidden wacore ((prepare m).mapError fun e => .encryptSend (context ++ e)) fun t =>
      (prepare (m.setText t)).mapError fun e => .encryptSend (context ++ e) where
  prepared n hn := by
    cases hm : prepare m with
    | error e =>
        rw [hm] at hn
        cases hn
    | ok n' =>
        rw [hm] at hn
        cases hn
        exact ⟨hprepared m n hm, h.no_plaintext m n hm⟩
  hides_text t := by
    have hsame := h.hides_text m t
    rcases hm : prepare m with e | n <;> rcases ht : prepare (m.setText t) with e' | n' <;>
      simp_all [Except.map, Except.mapError]

/-- One of wacore's two preparations, for all but the message. -/
def Wacore.Prepares (wacore : Wacore σ) (prepare : WaMessage → Except String Node × σ) : Prop :=
  (∃ signal ownJid ownLid account toJid id, prepare = fun m =>
    wacore.prepareDmStanza signal ownJid ownLid account toJid m id) ∨
  ∃ signal ownJid ownLid account toJid id, prepare = fun m =>
    wacore.prepareGroupStanza signal ownJid ownLid account toJid m id

theorem Wacore.Lawful.encrypting {wacore : Wacore σ} (hlaw : wacore.Lawful)
    {prepare : WaMessage → Except String Node × σ} (h : wacore.Prepares prepare) :
    Encrypting fun m => (prepare m).1 := by
  rcases h with ⟨signal, ownJid, ownLid, account, jid, id, rfl⟩ |
    ⟨signal, ownJid, ownLid, account, jid, id, rfl⟩
  · exact hlaw.dm signal ownJid ownLid account jid id
  · exact hlaw.group signal ownJid ownLid account jid id

theorem Wacore.Prepares.prepared {wacore : Wacore σ}
    {prepare : WaMessage → Except String Node × σ} (h : wacore.Prepares prepare) {m : WaMessage}
    {n : Node} (hn : (prepare m).1 = .ok n) : wacore.Prepared n := by
  rcases h with ⟨signal, ownJid, ownLid, account, jid, id, rfl⟩ |
    ⟨signal, ownJid, ownLid, account, jid, id, rfl⟩
  · exact Or.inl ⟨signal, ownJid, ownLid, account, jid, m, id, hn⟩
  · exact Or.inr ⟨signal, ownJid, ownLid, account, jid, m, id, hn⟩

/-- Whatever the message, the encryption fails in one way or prepares a stanza in
one way. -/
theorem encryptMessage_cases (wacore : Wacore σ) (jid : Jid) (msgId : String)
    (s : ClientState σ) :
    (∃ e, ∀ m, exec (encryptMessage wacore jid msgId m) s = (.error e, s)) ∨
    ∃ context prepare, wacore.Prepares prepare ∧
      ∀ m, exec (encryptMessage wacore jid msgId m) s = exec (prepared context (prepare m)) s := by
  have hget : exec get s = (.ok s, s) := rfl
  simp only [encryptMessage]
  simp only [exec_bind_ok hget]
  cases hpn : s.pn with
  | none => exact Or.inl ⟨_, fun _ => rfl⟩
  | some ownJid =>
      simp only [exec_bind_ok (exec_okOr_some _ s)]
      cases hgroup : wacore.isGroup jid with
      | false =>
          simp only [Bool.false_eq_true, if_false]
          exact Or.inr ⟨_, _, Or.inl ⟨_, _, _, _, _, _, rfl⟩, fun _ => rfl⟩
      | true =>
          simp only [if_true]
          cases hlid : s.lid with
          | none => exact Or.inl ⟨_, fun _ => rfl⟩
          | some ownLid =>
              simp only [exec_bind_ok (exec_okOr_some _ s)]
              exact Or.inr ⟨_, _, Or.inr ⟨_, _, _, _, _, _, rfl⟩, fun _ => rfl⟩

theorem encryptMessage_hidden {wacore : Wacore σ} (hlaw : wacore.Lawful) (jid : Jid)
    (msgId : String) (m : WaMessage) (s : ClientState σ) :
    Hidden wacore (exec (encryptMessage wacore jid msgId m) s).1 fun t =>
      (exec (encryptMessage wacore jid msgId (m.setText t)) s).1 := by
  rcases encryptMessage_cases wacore jid msgId s with ⟨e, he⟩ | ⟨context, prepare, hp, he⟩
  · simp only [he]
    exact ⟨nofun, fun _ => rfl⟩
  · simp only [he, exec_prepared]
    exact .of_encrypting (hlaw.encrypting hp) (fun _ _ hn => hp.prepared hn) m context

/-- The encryption hands nothing over. -/
theorem encryptMessage_handed (wacore : Wacore σ) (jid : Jid) (msgId : String) (m : WaMessage)
    (s : ClientState σ) :
    (exec (encryptMessage wacore jid msgId m) s).2.handed = s.handed := by
  rcases encryptMessage_cases wacore jid msgId s with ⟨e, he⟩ | ⟨context, prepare, -, he⟩
  · rw [he]
  · rw [he, exec_prepared]

/-- The nodes of a prepared stanza: one, or none after an error. -/
def preparedNodes : Except ClientError Node → List Node
  | .ok n => [n]
  | .error _ => []

theorem preparedNodes_map (f : Node → Node) (r : Except ClientError Node) :
    preparedNodes (r.map f) = (preparedNodes r).map f := by
  cases r <;> rfl

/-- `send_message` hands over the prepared stanza. -/
theorem sendMessage_handed (wacore : Wacore σ) {chat : Chat} (hchat : chat.isNewsletter = false)
    (msg : InputMessage) {s t : ClientState σ} {id : String}
    (hid : exec generateMessageId s = (.ok id, t)) :
    (exec (sendMessage wacore chat msg) s).2.handed =
      t.handed ++
        preparedNodes (exec (encryptMessage wacore chat.jid id (inputToProto msg)) t).1 := by
  have hkept := encryptMessage_handed wacore chat.jid id (inputToProto msg) t
  simp only [sendMessage]
  simp only [exec_bind_ok hid, hchat, Bool.false_eq_true, if_false]
  rcases henc : exec (encryptMessage wacore chat.jid id (inputToProto msg)) t with ⟨e | n, u⟩
  · rw [henc] at hkept
    rw [exec_bind_error henc, hkept, preparedNodes, List.append_nil]
  · rw [henc] at hkept
    obtain ⟨r, hsend⟩ := exec_sendNode n u
    rw [exec_bind_ok henc, preparedNodes, ← hkept]
    cases r with
    | error e => rw [exec_bind_error hsend]
    | ok _ =>
        rw [exec_bind_ok hsend, exec_bind_ok (exec_now _)]
        rfl

theorem inputToProto_setText (t : String) (msg : InputMessage) :
    inputToProto { msg with text := msg.text.map fun _ => t } = (inputToProto msg).setText t := by
  cases h : msg.replyTo <;> simp [inputToProto, h, WaMessage.setText]

section

variable [WacoreBinary] {wacore : Wacore σ} {s : ClientState σ}

/-- `send_message` is confidential. -/
theorem sendMessage_confidential (hlaw : wacore.Lawful) {chat : Chat}
    (hchat : chat.isNewsletter = false) (msg : InputMessage) :
    Confidential wacore s (.sendMessage chat msg) := by
  obtain ⟨id, counter, readings, hid⟩ := exec_generateMessageId { s with handed := [] }
  have hhanded : ∀ msg, handed wacore s (.sendMessage chat msg) = preparedNodes
      (exec (encryptMessage wacore chat.jid id (inputToProto msg))
        { s with handed := [], msgIdCounter := counter, readings := readings }).1 := by
    intro msg
    have hdiscard : handed wacore s (.sendMessage chat msg) =
        (exec (sendMessage wacore chat msg) { s with handed := [] }).2.handed := by
      simp only [handed, Operation.perform]
      rw [exec_bind]
      rcases exec (sendMessage wacore chat msg) { s with handed := [] } with ⟨_ | _, t⟩ <;> rfl
    rw [hdiscard, sendMessage_handed wacore hchat msg hid]
    rfl
  have hhidden := encryptMessage_hidden hlaw chat.jid id (inputToProto msg)
    { s with handed := [], msgIdCounter := counter, readings := readings }
  refine ⟨fun n hn => ?_, fun t => ?_⟩
  · rw [hhanded] at hn
    cases hr : (exec (encryptMessage wacore chat.jid id (inputToProto msg))
        { s with handed := [], msgIdCounter := counter, readings := readings }).1 with
    | error e =>
        rw [hr] at hn
        cases hn
    | ok n' =>
        rw [hr] at hn
        rw [List.mem_singleton.mp hn]
        exact hhidden.prepared n' hr
  · rw [Operation.setText, hhanded, hhanded, inputToProto_setText, ← preparedNodes_map,
      ← preparedNodes_map, hhidden.hides_text t]

theorem confidential_of_nil {op : Operation} (h : handed wacore s op = [])
    (ht : ∀ t, op.setText t = op) : Confidential wacore s op := by
  refine ⟨fun n hn => ?_, fun t => by rw [ht t]⟩
  rw [h] at hn
  cases hn

omit [WacoreBinary] in
/-- Without an account nothing is handed over. -/
theorem okOr_pn_handed (hpn : s.pn = none) (f : Jid → ClientM σ Unit) :
    (exec (get >>= fun s => okOr .notLoggedIn s.pn >>= f) s).2.handed = s.handed := by
  rw [exec_bind_ok (show exec get s = (.ok s, s) from rfl),
    exec_bind_error (show exec (okOr .notLoggedIn s.pn) s = (.error .notLoggedIn, s) by
      rw [hpn, exec_okOr_none])]

/-- An operation to a chat that is no newsletter is confidential exactly when it
is `send_message` or hands nothing over. -/
theorem confidential_iff (hlaw : wacore.Lawful) {op : Operation}
    (hchat : ∀ chat, op.destination = some chat → chat.isNewsletter = false) :
    Confidential wacore s op ↔ op.Encrypts s := by
  constructor
  · intro hconf
    by_contra hplain
    have hop : ¬ op.Encrypts { s with handed := [] } := by
      cases op <;> exact hplain
    obtain ⟨n, hn, hchild⟩ := perform_plaintext wacore { s with handed := [] } hop
    exact absurd ((hconf.1 n hn).2.symm.trans hchild) nofun
  · intro hop
    cases op with
    | sendMessage chat msg => exact sendMessage_confidential hlaw (hchat chat rfl) msg
    | sendReaction chat messageId emoji => exact absurd hop id
    | editMessage chat messageId newText => exact absurd hop id
    | revokeMessage chat messageId revokeType => exact absurd hop id
    | deleteMessages chat messageIds =>
        cases hop
        exact confidential_of_nil rfl fun _ => rfl
    | forwardMessages dest messageIds source =>
        cases hop
        exact confidential_of_nil rfl fun _ => rfl
    | downloadFullHistory =>
        exact confidential_of_nil (okOr_pn_handed (s := { s with handed := [] }) hop _) fun _ => rfl
    | downloadChatHistory chatJid =>
        exact confidential_of_nil (okOr_pn_handed (s := { s with handed := [] }) hop _) fun _ => rfl

end

/-- A stanza with one ciphertext, for a cipher that shifts bytes. -/
def shiftStanza (encType : String) (toJid : Jid) (plaintext : Bytes) (id : String) : Node :=
  .mk "message" [("to", .jid toJid), ("type", .string "text"), ("id", .string id)]
    (some (.nodes [.mk "enc" [("v", .string "2"), ("type", .string encType)]
      (some (.bytes (plaintext.map (· + 1))))]))

/-- A short conversation, encoded. -/
def encodeConversation (m : WaMessage) : Bytes :=
  match m.conversation with
  | some text => 10 :: UInt8.ofNat text.length :: text.toList.map fun c => UInt8.ofNat c.toNat
  | none => []

def shiftWacore : Wacore Unit where
  encodeToVec := encodeConversation
  isGroup jid := jid.server = "g.us"
  prepareDmStanza _ _ _ _ toJid m id :=
    (.ok (shiftStanza "msg" toJid (encodeConversation m) id), ())
  prepareGroupStanza _ _ _ _ toJid m id :=
    (.ok (shiftStanza "skmsg" toJid (encodeConversation m) id), ())

theorem shiftWacore_lawful : shiftWacore.Lawful where
  dm _ _ _ _ _ _ := ⟨fun _ _ h => by cases h; rfl, fun _ _ => rfl⟩
  group _ _ _ _ _ _ := ⟨fun _ _ h => by cases h; rfl, fun _ _ => rfl⟩

def userJid : Jid where
  user := "12345"
  server := "s.whatsapp.net"
  agent := 0
  device := 0
  integrator := 0

/-- A client that is logged in. -/
def loggedIn : ClientState Unit where
  pn := some userJid
  lid := none
  account := none
  signal := ()
  msgIdCounter := 0
  clock _ := 0
  readings := 0
  sendResult _ := .ok ()
  handed := []

theorem confidential_iff_sendMessage :
    letI := plainWacore
    (handed shiftWacore loggedIn (.sendMessage (.user userJid) ⟨some "hi", none⟩)).length = 1 ∧
      Confidential shiftWacore loggedIn (.sendMessage (.user userJid) ⟨some "hi", none⟩) := by
  let _ := plainWacore
  refine ⟨rfl, (confidential_iff shiftWacore_lawful ?_).mpr trivial⟩
  rintro chat ⟨⟩
  rfl

/-- A reaction to a message of a user goes out in a `<plaintext>`. -/
theorem sendReaction_not_confidential :
    ¬ ∀ (w : WacoreBinary) (σ : Type) (wacore : Wacore σ) (s : ClientState σ) (op : Operation),
      wacore.Lawful → (∀ chat, op.destination = some chat → chat.isNewsletter = false) →
      @Confidential σ w wacore s op := by
  intro h
  let _ := plainWacore
  have hconf := h plainWacore Unit shiftWacore loggedIn (.sendReaction (.user userJid) "3EB0" "+1")
    shiftWacore_lawful (by rintro chat ⟨⟩; rfl)
  obtain ⟨n, hn, hchild⟩ := sendReaction_plaintext shiftWacore { loggedIn with handed := [] }
    (.user userJid) "3EB0" "+1"
  exact absurd ((hconf.1 n hn).2.symm.trans hchild) nofun

end Waepic.Client
