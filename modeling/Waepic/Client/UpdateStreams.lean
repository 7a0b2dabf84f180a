import Waepic.Client.CacheFlush
import Waepic.Client.PairCode
import Waepic.Client.SenderKeys

/-!
# Several update streams

Each call of `stream_updates` makes a receiver and a task of its own, which runs
the handlers on every event that is broadcast from then on.  The tasks share the
Signal stores, the state of a pairing by code and the connection.

So an encrypted message is decrypted by the stream that handles it first, and
the others find its keys used (`second_stream_misses`); the acknowledgement of a
dirty notification and `run_post_connect_init` are repeated by every stream.
`companion_finish` is not: the first stream takes the state.  Every stream sees
every message, and what is done for an event is done once, while at most one
stream is live whenever a message, a dirty notification or a `Connected` is
broadcast: a message that a stream could read yields a `NewMessage` on every stream past
it, and what is due for an event is done exactly once (`every_stream_sees`).
-/

namespace Waepic.Client

open Transition Binary Connection

/-! ## Handlers -/

structure DirtyBit where
  dirtyType : String
  timestamp : Option Nat
deriving DecidableEq

/-- What the handlers use of wacore and libsignal. -/
structure HandlerWacore (σ κ : Type) extends Decoder σ κ where
  pairCode : PairCodeUtils
  /-- `DirtyBit::from_raw`. -/
  dirtyBit : String → Option String → Except String DirtyBit

/-- What a handler does besides its updates. -/
inductive SideEffect where
  | deliveryReceipt (n : Node)
  /-- A `CleanDirtyBitsSpec`. -/
  | cleanDirtyBits (b : DirtyBit)
  | companionFinish (p : PhoneConfirmation)
  /-- A call of `run_post_connect_init`. -/
  | postConnectInit

def SideEffect.isCompanionFinish : SideEffect → Bool
  | companionFinish _ => true
  | _ => false

/-- What the handlers of all streams share. -/
structure SharedClient (σ : Type) where
  signal : σ
  pairCodeState : PairCodeState

/-- What handling an event leaves, yields and does. -/
structure HandledEvent (σ κ : Type) where
  client : SharedClient σ
  updates : List (MessageUpdate κ)
  effects : List SideEffect

variable [WacoreBinary] {σ κ : Type}

/-- `handle_dirty_child`, up to the task that it spawns. -/
def HandlerWacore.handleDirtyChild (w : HandlerWacore σ κ) (child : Node) : Option DirtyBit :=
  (child.attrText "type").bind fun dirtyType =>
    (w.dirtyBit dirtyType (child.attrText "timestamp")).toOption

/-- The dirty bits that the loop of `handle_ib` acknowledges. -/
def HandlerWacore.dirtyBits (w : HandlerWacore σ κ) : List Node → List DirtyBit
  | [] => []
  | child :: children =>
      if child.tag = "dirty" then (w.handleDirtyChild child).toList ++ w.dirtyBits children
      else if child.tag = "offline_sync_preview" || child.tag = "offline" then []
      else w.dirtyBits children

/-- `handle_pair_code_notification`, up to the `send_node` of `companion_finish`:
the state is taken. -/
def HandlerWacore.handlePairCode (w : HandlerWacore σ κ) (identityKey : KeyPair) (n : Node)
    (state : PairCodeState) : Option PhoneConfirmation × PairCodeState :=
  match pairCodeFields n, state with
  | none, state => (none, state)
  | some f, .waitingForPhoneConfirmation p =>
      match w.pairCode.keyBundle p f identityKey with
      | .ok _ => (some p, .idle)
      | .error _ => (none, .idle)
  | some _, _ => (none, .idle)

/-- The body of the loop of `run_update_stream`.  The background task of a history
sync is left out. -/
def HandlerWacore.handleEvent (w : HandlerWacore σ κ) (identityKey : KeyPair)
    (env : Surroundings) (client : SharedClient σ) : RawEvent → HandledEvent σ κ
  | .node n =>
      if isHistorySync n then ⟨client, [], []⟩
      else if n.tag = "message" then
        let p := processIncomingNode w.toDecoder env n client.signal
        ⟨{ client with signal := p.signal }, p.result.toUpdates, p.sent.map .deliveryReceipt⟩
      else if n.tag = "notification" then
        let (finish, state) := w.handlePairCode identityKey n client.pairCodeState
        ⟨{ client with pairCodeState := state }, [], finish.toList.map .companionFinish⟩
      else if n.tag = "ib" then
        ⟨client, [], (w.dirtyBits (n.children.getD [])).map .cleanDirtyBits⟩
      else ⟨client, [], []⟩
  | .connected => ⟨client, [], [.postConnectInit]⟩
  | .disconnected | .error _ => ⟨client, [], []⟩

/-! ## Streams -/

/-- A task of `run_update_stream`. -/
structure StreamTask where
  /-- How many events were broadcast before its receiver was made. -/
  since : Nat
  /-- The event that it takes next. -/
  next : Nat
  live : Bool

/-- What a stream made of an event. -/
structure Handling (σ κ : Type) where
  stream : Nat
  event : Nat
  env : Surroundings
  /-- The client that it found. -/
  found : SharedClient σ
  updates : List (MessageUpdate κ)
  effects : List SideEffect

/-- The stream yields a `NewMessage`. -/
def Handling.Yields (h : Handling σ κ) : Prop := ∃ m, MessageUpdate.newMessage m ∈ h.updates

structure StreamsState (σ κ : Type) where
  /-- What was broadcast, oldest first. -/
  log : List RawEvent
  /-- The streams made so far. -/
  streams : List StreamTask
  client : SharedClient σ
  /-- The handlers that sent `companion_finish` and have not stored `Completed`. -/
  finishing : Nat
  /-- What the streams handled, oldest first. -/
  handlings : List (Handling σ κ)

inductive StreamsAction (σ : Type) where
  | broadcast (e : RawEvent)
  /-- `stream_updates`. -/
  | subscribe
  /-- The task of the stream is dropped. -/
  | drop (i : Nat)
  /-- The stream takes an event and handles it; a `companion_finish` is sent or not. -/
  | take (i : Nat) (env : Surroundings) (sent : Bool)
  /-- A handler that sent `companion_finish` stores `Completed`. -/
  | completed
  /-- `request_pair_code` stores the state. -/
  | request (p : PhoneConfirmation)
  /-- Other tasks leave the Signal stores so. -/
  | others (signal : σ)

/-- What the other tasks may do to the Signal stores. -/
abbrev StoreChange (σ : Type) := σ → σ → Prop

inductive StreamsStep (w : HandlerWacore σ κ) (identityKey : KeyPair) (others : StoreChange σ) :
    StreamsState σ κ → StreamsAction σ → StreamsState σ κ → Prop where
  | broadcast {s : StreamsState σ κ} {e : RawEvent} :
      StreamsStep w identityKey others s (.broadcast e) { s with log := s.log ++ [e] }
  | subscribe {s : StreamsState σ κ} :
      StreamsStep w identityKey others s .subscribe
        { s with streams := s.streams ++ [⟨s.log.length, s.log.length, true⟩] }
  | drop {s : StreamsState σ κ} {i : Nat} {task : StreamTask} :
      s.streams[i]? = some task →
      StreamsStep w identityKey others s (.drop i)
        { s with streams := s.streams.set i { task with live := false } }
  | take {s : StreamsState σ κ} {i : Nat} {env : Surroundings} {sent : Bool} {task : StreamTask}
      {e : RawEvent} {h : HandledEvent σ κ} :
      s.streams[i]? = some task → task.live = true → s.log[task.next]? = some e →
      w.handleEvent identityKey env s.client e = h →
      StreamsStep w identityKey others s (.take i env sent)
        { s with
          streams := s.streams.set i { task with next := task.next + 1 }
          client := h.client
          finishing :=
            s.finishing + if sent then h.effects.countP SideEffect.isCompanionFinish else 0
          handlings := s.handlings ++ [⟨i, task.next, env, s.client, h.updates, h.effects⟩] }
  | completed {s : StreamsState σ κ} {k : Nat} :
      s.finishing = k + 1 →
      StreamsStep w identityKey others s .completed
        { s with client := { s.client with pairCodeState := .completed }, finishing := k }
  | request {s : StreamsState σ κ} {p : PhoneConfirmation} :
      StreamsStep w identityKey others s (.request p)
        { s with client := { s.client with pairCodeState := .waitingForPhoneConfirmation p } }
  | others {s : StreamsState σ κ} {signal : σ} :
      others s.client.signal signal →
      StreamsStep w identityKey others s (.others signal)
        { s with client := { s.client with signal } }

/-- The runs of the streams of one client. -/
def updateStreams (w : HandlerWacore σ κ) (identityKey : KeyPair) (others : StoreChange σ) :
    System (StreamsState σ κ) (StreamsAction σ) where
  init s := s.log = [] ∧ s.streams = [] ∧ s.finishing = 0 ∧ s.handlings = []
  step := StreamsStep w identityKey others

/-! ## What the streams see -/

/-- The node brings a message to show.  It is in plaintext, or the stores decrypt it, and
then it is no history sync and more than a sender key. -/
inductive Decoder.Readable (d : Decoder σ κ) (n : Node) (signal : σ) : Prop where
  | plaintext {fromJid : Jid} {b : Bytes} {m : ReceivedMessage κ} :
      n.tag = "message" → d.attrJid n "from" = some fromJid → (encChildren n).isEmpty = true →
      extractPlaintextContent n = some b → d.decodeMessage b = .ok m → Readable d n signal
  | encrypted {fromJid : Jid} {plaintext : Bytes} {m : ReceivedMessage κ} :
      n.tag = "message" → d.attrJid n "from" = some fromJid → (encChildren n).isEmpty = false →
      (decryptEnc d ⟨WacoreBinary.jidText ((d.attrJid n "participant").getD fromJid), 0⟩
        (WacoreBinary.jidText fromJid) (d.categorizeEncNodes (encChildren n)) signal).1 =
          some plaintext →
      d.decodePlaintext plaintext (paddingVersion (encChildren n)) = .ok m →
      (d.unwrapDeviceSent m).historySyncNotification = none →
      d.isSenderKeyDistributionOnly (d.unwrapDeviceSent m) = false → Readable d n signal

/-- What is to be done for an event by the stream that finds the client so: the receipt of
an encrypted message, the acknowledgement of dirty bits, `companion_finish` for a state that
waits for it, and the initialisation after a `Connected`. -/
inductive HandlerWacore.Due (w : HandlerWacore σ κ) (identityKey : KeyPair)
    (env : Surroundings) (found : SharedClient σ) : RawEvent → List SideEffect → Prop where
  | deliveryReceipt {n : Node} {fromJid : Jid} :
      w.Readable n found.signal → (encChildren n).isEmpty = false →
      w.attrJid n "from" = some fromJid →
      Due w identityKey env found (.node n)
        [.deliveryReceipt (deliveryReceipt (messageContext w.toDecoder env n fromJid))]
  | cleanDirtyBits {n : Node} :
      n.tag = "ib" → isHistorySync n = false → w.dirtyBits (n.children.getD []) ≠ [] →
      Due w identityKey env found (.node n) ((w.dirtyBits (n.children.getD [])).map .cleanDirtyBits)
  | companionFinish {n : Node} {f : PairCodeFields} {p : PhoneConfirmation} {b : Bytes × Bytes} :
      n.tag = "notification" → isHistorySync n = false → pairCodeFields n = some f →
      found.pairCodeState = .waitingForPhoneConfirmation p →
      w.pairCode.keyBundle p f identityKey = .ok b →
      Due w identityKey env found (.node n) [.companionFinish p]
  | postConnectInit : Due w identityKey env found .connected [.postConnectInit]

/-- What all streams did for an event. -/
def StreamsState.effectsOf (s : StreamsState σ κ) (k : Nat) : List SideEffect :=
  (s.handlings.filter (·.event = k)).flatMap (·.effects)

/-- A message that a stream could read yields a `NewMessage` on every stream that has come
past it, what is due for an event all streams together did exactly once, and nothing is
done for an event by two streams. -/
structure StreamsState.EveryStreamSees (w : HandlerWacore σ κ) (identityKey : KeyPair)
    (s : StreamsState σ κ) : Prop where
  yielded : ∀ h ∈ s.handlings, ∀ n, s.log[h.event]? = some (.node n) →
    w.Readable n h.found.signal → ∀ (i : Nat) (task : StreamTask), s.streams[i]? = some task →
      task.since ≤ h.event → h.event < task.next →
      ∃ h' ∈ s.handlings, h'.stream = i ∧ h'.event = h.event ∧ h'.Yields
  once : ∀ h ∈ s.handlings, ∀ e effects, s.log[h.event]? = some e →
    w.Due identityKey h.env h.found e effects → s.effectsOf h.event = effects
  single : ∀ h ∈ s.handlings, ∀ h' ∈ s.handlings, h.event = h'.event → h.stream ≠ h'.stream →
    h.effects = [] ∨ h'.effects = []

/-- What handling the event does depends on the stores, or is done each time: a
`Connected`, an encrypted message, a dirty notification. -/
def HandlerWacore.forOneStream (w : HandlerWacore σ κ) : RawEvent → Bool
  | .node n =>
      if isHistorySync n then false
      else if n.tag = "message" then !(encChildren n).isEmpty
      else if n.tag = "ib" then !(w.dirtyBits (n.children.getD [])).isEmpty
      else false
  | .connected => true
  | .disconnected | .error _ => false

/-- Such an event is broadcast while one stream at most is live.  If a stream has
sent `companion_finish` for an event, the others find no newer request. -/
def HandlerWacore.OneStream (w : HandlerWacore σ κ) (s : StreamsState σ κ) :
    StreamsAction σ → Prop
  | .broadcast e => w.forOneStream e = true → ∀ (i j : Nat) (task task' : StreamTask),
      s.streams[i]? = some task → s.streams[j]? = some task' →
      task.live = true → task'.live = true → i = j
  | .take i _ _ => ∀ task : StreamTask, s.streams[i]? = some task →
      ∀ h ∈ s.handlings, h.event = task.next → h.effects ≠ [] →
        ∀ p, s.client.pairCodeState ≠ .waitingForPhoneConfirmation p
  | _ => True

section Streams

variable {w : HandlerWacore σ κ} {identityKey : KeyPair} {others : StoreChange σ}
  {s t : StreamsState σ κ} {a : StreamsAction σ} {e : RawEvent} {env env' : Surroundings}
  {client client' : SharedClient σ}

/-! ### The handlers -/

omit [WacoreBinary] in
/-- The notification takes a state that waits. -/
theorem waiting_of_handlePairCode {n : Node} {state : PairCodeState}
    (h : (w.handlePairCode identityKey n state).1 ≠ none) :
    ∃ p, state = .waitingForPhoneConfirmation p := by
  simp only [HandlerWacore.handlePairCode] at h
  split at h
  · exact absurd rfl h
  · exact ⟨_, rfl⟩
  · exact absurd rfl h

/-- A plaintext message has no receipt. -/
theorem processIncomingNode_sent_of_plaintext {d : Decoder σ κ} {n : Node} {signal : σ}
    (h : (encChildren n).isEmpty = true) : (processIncomingNode d env n signal).sent = [] := by
  rcases processIncomingNode_cases d env n signal with ⟨-, heq⟩ | ⟨fromJid, -, -, hcases⟩
  · rw [heq]
    rfl
  · rcases hcases with ⟨-, heq⟩ | ⟨henc, -⟩
    · rw [heq]
      simp only [receivePlaintext]
      split <;> rfl
    · rw [h] at henc
      cases henc

/-- A plaintext message is the same to every stream. -/
theorem yields_of_not_forOneStream (he : w.forOneStream e = false)
    (h : ∃ m, MessageUpdate.newMessage m ∈ (w.handleEvent identityKey env client e).updates) :
    ∃ m, MessageUpdate.newMessage m ∈ (w.handleEvent identityKey env' client' e).updates := by
  obtain ⟨m, hm⟩ := h
  cases e with
  | connected | disconnected | error text => cases hm
  | node n =>
      rw [HandlerWacore.forOneStream] at he
      rw [HandlerWacore.handleEvent] at hm ⊢
      split at hm
      · cases hm
      · next hsync =>
          rw [if_neg hsync] at he
          rw [if_neg hsync]
          split at hm
          · next htag =>
              rw [if_pos htag] at he ⊢
              have hplain : (encChildren n).isEmpty = true := by simpa using he
              dsimp only at hm ⊢
              rw [processIncomingNode, if_pos htag] at hm ⊢
              cases hfrom : w.attrJid n "from" with
              | none =>
                  rw [hfrom] at hm
                  cases hm
              | some fromJid =>
                  rw [hfrom] at hm
                  simp only [hplain, if_true] at hm ⊢
                  simp only [receivePlaintext] at hm ⊢
                  split at hm
                  · exact ⟨_, List.mem_singleton_self _⟩
                  · cases hm
          · split at hm
            · cases hm
            · split at hm <;> cases hm

/-- A handler does something for another event only if it takes a state that
waits for a phone. -/
theorem effects_of_not_forOneStream (he : w.forOneStream e = false)
    (h : (w.handleEvent identityKey env client e).effects ≠ []) :
    ∃ p, client.pairCodeState = .waitingForPhoneConfirmation p := by
  cases e with
  | connected => cases he
  | disconnected | error text => exact absurd rfl h
  | node n =>
      rw [HandlerWacore.forOneStream] at he
      rw [HandlerWacore.handleEvent] at h
      split at h
      · exact absurd rfl h
      · next hsync =>
          rw [if_neg hsync] at he
          split at h
          · next htag =>
              rw [if_pos htag] at he
              have hplain : (encChildren n).isEmpty = true := by simpa using he
              refine absurd ?_ h
              show List.map _ (processIncomingNode w.toDecoder env n client.signal).sent = []
              rw [processIncomingNode_sent_of_plaintext hplain]
              rfl
          · next htag =>
              rw [if_neg htag] at he
              split at h
              · exact waiting_of_handlePairCode (by simpa using h)
              · split at h
                · next hib =>
                    rw [if_pos hib] at he
                    simp_all
                · exact absurd rfl h

/-- A message that can be read gives one update, and a receipt if it was encrypted. -/
theorem Decoder.Readable.processed {d : Decoder σ κ} {n : Node} {signal : σ}
    (h : d.Readable n signal) (env : Surroundings) :
    ∃ fromJid message, d.attrJid n "from" = some fromJid ∧
      (processIncomingNode d env n signal).result.toUpdates = [.newMessage message] ∧
      ((encChildren n).isEmpty = false → (processIncomingNode d env n signal).sent =
        [deliveryReceipt (messageContext d env n fromJid)]) := by
  cases h with
  | @plaintext fromJid b m htag hfrom hplain hcontent hdecode =>
      refine ⟨fromJid, ⟨m, (messageContext d env n fromJid).info fromJid, .ofJid fromJid⟩, hfrom,
        ?_, fun henc => absurd (hplain.symm.trans henc) Bool.noConfusion⟩
      rw [processIncomingNode, if_pos htag, hfrom]
      dsimp only
      rw [if_pos hplain, receivePlaintext, hcontent, Option.bind_some, hdecode]
      rfl
  | @encrypted fromJid plaintext m htag hfrom henc hdecrypt hdecode hnotif honly =>
      have hmessage : (decryptedMessage d (messageContext d env n fromJid) (encChildren n)
          signal).1 = some (d.unwrapDeviceSent m) := by
        rw [decryptedMessage]
        dsimp only [messageContext]
        generalize decryptEnc d _ _ _ signal = decrypted at hdecrypt ⊢
        obtain ⟨r, signal'⟩ := decrypted
        obtain rfl : r = some plaintext := hdecrypt
        dsimp only
        rw [hdecode]
        rfl
      have hprocessed : ∃ message, (decryptE2eMessage d env (messageContext d env n fromJid)
          (encChildren n) signal).result = .updates [.newMessage message] := by
        rw [decryptE2eMessage]
        generalize decryptedMessage d _ _ signal = decrypted at hmessage ⊢
        obtain ⟨r, signal'⟩ := decrypted
        obtain rfl : r = some (d.unwrapDeviceSent m) := hmessage
        dsimp only
        rw [receiveMessage_of_content hnotif honly]
        exact ⟨_, rfl⟩
      obtain ⟨message, hresult⟩ := hprocessed
      refine ⟨fromJid, message, hfrom, ?_, fun _ => ?_⟩ <;>
        rw [processIncomingNode, if_pos htag, hfrom] <;> dsimp only <;>
        rw [if_neg (by simp [henc])] <;> dsimp only <;> rw [hresult]
      · rfl
      · rfl

theorem not_isHistorySync_of_message {n : Node} (htag : n.tag = "message") :
    isHistorySync n = false := by
  simp [isHistorySync, htag]

theorem Decoder.Readable.isMessage {d : Decoder σ κ} {n : Node} {signal : σ}
    (h : d.Readable n signal) : n.tag = "message" := by
  cases h with
  | plaintext htag | encrypted htag => exact htag

/-- A message that can be read yields a `NewMessage`. -/
theorem yields_of_readable {n : Node} (h : w.Readable n client.signal) :
    ∃ m, MessageUpdate.newMessage m ∈
      (w.handleEvent identityKey env client (.node n)).updates := by
  obtain ⟨fromJid, message, -, hupdates, -⟩ := h.processed env
  rw [HandlerWacore.handleEvent, not_isHistorySync_of_message h.isMessage, if_neg nofun,
    if_pos h.isMessage]
  dsimp only
  rw [hupdates]
  exact ⟨message, List.mem_singleton_self _⟩

/-- A handler does what is due. -/
theorem effects_of_due {effects : List SideEffect}
    (h : w.Due identityKey env client e effects) :
    (w.handleEvent identityKey env client e).effects = effects ∧ effects ≠ [] := by
  cases h with
  | @deliveryReceipt n fromJid hreadable henc hfrom =>
      obtain ⟨fromJid', message, hfrom', -, hsent⟩ := hreadable.processed env
      obtain rfl := Option.some.inj (hfrom.symm.trans hfrom')
      refine ⟨?_, List.cons_ne_nil _ _⟩
      rw [HandlerWacore.handleEvent, not_isHistorySync_of_message hreadable.isMessage,
        if_neg nofun, if_pos hreadable.isMessage]
      dsimp only
      rw [hsent henc]
      rfl
  | @cleanDirtyBits n htag hsync hbits =>
      refine ⟨?_, by simpa using hbits⟩
      rw [HandlerWacore.handleEvent, hsync, if_neg nofun, htag]
      rfl
  | @companionFinish n f p b htag hsync hfields hwaiting hbundle =>
      have htaken : w.handlePairCode identityKey n client.pairCodeState = (some p, .idle) := by
        rw [hwaiting]
        simp only [HandlerWacore.handlePairCode, hfields, hbundle]
      refine ⟨?_, List.cons_ne_nil _ _⟩
      rw [HandlerWacore.handleEvent, hsync, if_neg nofun, htaken, htag]
      rfl
  | postConnectInit => exact ⟨rfl, List.cons_ne_nil _ _⟩

/-! ### What was handled -/

/-- What the streams handled, so far. -/
structure StreamsInv (w : HandlerWacore σ κ) (identityKey : KeyPair) (s : StreamsState σ κ) :
    Prop where
  bounds : ∀ (i : Nat) (task : StreamTask), s.streams[i]? = some task →
    task.since ≤ task.next ∧ task.next ≤ s.log.length
  made : ∀ h ∈ s.handlings, ∃ e, s.log[h.event]? = some e ∧
    h.updates = (w.handleEvent identityKey h.env h.found e).updates ∧
    h.effects = (w.handleEvent identityKey h.env h.found e).effects
  passed : ∀ h ∈ s.handlings, ∃ task, s.streams[h.stream]? = some task ∧
    task.since ≤ h.event ∧ h.event < task.next
  complete : ∀ (i : Nat) (task : StreamTask), s.streams[i]? = some task →
    ∀ k, task.since ≤ k → k < task.next → ∃ h ∈ s.handlings, h.stream = i ∧ h.event = k
  unique : s.handlings.Pairwise fun h h' => h.stream = h'.stream → h.event ≠ h'.event

section Lists

variable {α β : Type} {l : List α} {i j : Nat} {a a' b : α}

omit [WacoreBinary]

theorem getElem?_set_iff (hi : l[i]? = some a) :
    (l.set i a')[j]? = some b ↔ j = i ∧ b = a' ∨ j ≠ i ∧ l[j]? = some b := by
  have hlt : i < l.length := (List.getElem?_eq_some_iff.mp hi).1
  rw [List.getElem?_set]
  by_cases hij : i = j
  · subst hij
    simp [hlt, eq_comm]
  · simp [hij, Ne.symm hij]

/-- A property of each element that the new one keeps. -/
theorem exists_getElem?_set {P : α → Prop} (hi : l[i]? = some a) (ha : P a → P a')
    (h : ∃ b, l[j]? = some b ∧ P b) : ∃ b, (l.set i a')[j]? = some b ∧ P b := by
  obtain ⟨b, hb, hP⟩ := h
  by_cases hij : j = i
  · subst hij
    obtain rfl := Option.some.inj (hi.symm.trans hb)
    exact ⟨a', (getElem?_set_iff hi).mpr (.inl ⟨rfl, rfl⟩), ha hP⟩
  · exact ⟨b, (getElem?_set_iff hi).mpr (.inr ⟨hij, hb⟩), hP⟩

theorem getElem?_concat_iff :
    (l ++ [a])[i]? = some b ↔ l[i]? = some b ∨ i = l.length ∧ b = a := by
  rcases Nat.lt_trichotomy i l.length with hlt | rfl | hgt
  · rw [List.getElem?_append_left hlt]
    simp [Nat.ne_of_lt hlt]
  · simp [eq_comm]
  · have hlast : (l ++ [a])[i]? = none := by simp; omega
    have hnone : l[i]? = none := by simp; omega
    rw [hlast, hnone]
    simp [Nat.ne_of_gt hgt]

/-- All lists but one are empty. -/
theorem flatMap_eq_of_pairwise {f : α → List β} (ha : a ∈ l) (hne : f a ≠ [])
    (hl : l.Pairwise fun x y => f x = [] ∨ f y = []) : l.flatMap f = f a := by
  induction l with
  | nil => cases ha
  | cons x l ih =>
      obtain ⟨hx, hl⟩ := List.pairwise_cons.mp hl
      rw [List.flatMap_cons]
      rcases List.mem_cons.mp ha with rfl | ha
      · have hrest : l.flatMap f = [] :=
          List.flatMap_eq_nil_iff.mpr fun y hy => (hx y hy).resolve_left hne
        rw [hrest, List.append_nil]
      · rw [(hx a ha).resolve_right hne, List.nil_append, ih ha hl]

end Lists

theorem StreamsInv.init (hstreams : s.streams = []) (hhandlings : s.handlings = []) :
    StreamsInv w identityKey s := by
  constructor
  · simp [hstreams]
  · simp [hhandlings]
  · simp [hhandlings]
  · simp [hstreams]
  · simp [hhandlings]

theorem StreamsInv.broadcast (h : StreamsInv w identityKey s) (e : RawEvent) :
    StreamsInv w identityKey { s with log := s.log ++ [e] } := by
  constructor
  · intro i task hi
    obtain ⟨hsince, hnext⟩ := h.bounds i task hi
    exact ⟨hsince, Nat.le_trans hnext (by simp)⟩
  · intro h' hmem
    obtain ⟨e', he', hmade⟩ := h.made h' hmem
    exact ⟨e', getElem?_concat_iff.mpr (.inl he'), hmade⟩
  · exact h.passed
  · exact h.complete
  · exact h.unique

theorem StreamsInv.subscribe (h : StreamsInv w identityKey s) :
    StreamsInv w identityKey
      { s with streams := s.streams ++ [⟨s.log.length, s.log.length, true⟩] } := by
  constructor
  · intro i task hi
    rcases getElem?_concat_iff.mp hi with hi | ⟨-, rfl⟩
    · exact h.bounds i task hi
    · exact ⟨Nat.le_refl _, Nat.le_refl _⟩
  · exact h.made
  · intro h' hmem
    obtain ⟨task, hi, hpassed⟩ := h.passed h' hmem
    exact ⟨task, getElem?_concat_iff.mpr (.inl hi), hpassed⟩
  · intro i task hi k hsince hnext
    rcases getElem?_concat_iff.mp hi with hi | ⟨-, rfl⟩
    · exact h.complete i task hi k hsince hnext
    · exact absurd hnext (Nat.not_lt.mpr hsince)
  · exact h.unique

theorem StreamsInv.drop {i : Nat} {task : StreamTask} (h : StreamsInv w identityKey s)
    (hi : s.streams[i]? = some task) :
    StreamsInv w identityKey { s with streams := s.streams.set i { task with live := false } } := by
  constructor
  · intro j x hx
    rcases (getElem?_set_iff hi).mp hx with ⟨rfl, rfl⟩ | ⟨-, hj⟩
    · exact h.bounds j task hi
    · exact h.bounds j x hj
  · exact h.made
  · intro h' hmem
    exact exists_getElem?_set hi id (h.passed h' hmem)
  · intro j x hx
    rcases (getElem?_set_iff hi).mp hx with ⟨rfl, rfl⟩ | ⟨-, hj⟩
    · exact h.complete j task hi
    · exact h.complete j x hj
  · exact h.unique

theorem StreamsInv.take {i : Nat} {task : StreamTask} (h : StreamsInv w identityKey s)
    (hi : s.streams[i]? = some task) (he : s.log[task.next]? = some e) (env : Surroundings)
    (finishing : Nat) :
    StreamsInv w identityKey
      { s with
        streams := s.streams.set i { task with next := task.next + 1 }
        client := (w.handleEvent identityKey env s.client e).client
        finishing := finishing
        handlings := s.handlings ++
          [⟨i, task.next, env, s.client, (w.handleEvent identityKey env s.client e).updates,
            (w.handleEvent identityKey env s.client e).effects⟩] } := by
  obtain ⟨hsince, -⟩ := h.bounds i task hi
  constructor
  · intro j x hx
    rcases (getElem?_set_iff hi).mp hx with ⟨rfl, rfl⟩ | ⟨-, hj⟩
    · exact ⟨Nat.le_succ_of_le hsince, (List.getElem?_eq_some_iff.mp he).1⟩
    · exact h.bounds j x hj
  · intro h' hmem
    rcases List.mem_append.mp hmem with hmem | hmem
    · exact h.made h' hmem
    · obtain rfl := List.mem_singleton.mp hmem
      exact ⟨e, he, rfl, rfl⟩
  · intro h' hmem
    rcases List.mem_append.mp hmem with hmem | hmem
    · exact exists_getElem?_set hi (And.imp_right Nat.lt_succ_of_lt) (h.passed h' hmem)
    · obtain rfl := List.mem_singleton.mp hmem
      exact ⟨_, (getElem?_set_iff hi).mpr (.inl ⟨rfl, rfl⟩), hsince, Nat.lt_succ_self _⟩
  · intro j x hx k hge hlt
    have hadd : ∀ {h₀ : Handling σ κ}, (∃ h' ∈ s.handlings, h'.stream = j ∧ h'.event = k) →
        ∃ h' ∈ s.handlings ++ [h₀], h'.stream = j ∧ h'.event = k := by
      rintro h₀ ⟨h', hmem, heq⟩
      exact ⟨h', List.mem_append_left _ hmem, heq⟩
    rcases (getElem?_set_iff hi).mp hx with ⟨rfl, rfl⟩ | ⟨-, hj⟩
    · rcases Nat.lt_succ_iff_lt_or_eq.mp hlt with hlt | rfl
      · exact hadd (h.complete j task hi k hge hlt)
      · exact ⟨_, List.mem_append_right _ (List.mem_singleton_self _), rfl, rfl⟩
    · exact hadd (h.complete j x hj k hge hlt)
  · refine List.pairwise_append.mpr ⟨h.unique, List.pairwise_singleton _ _, ?_⟩
    -- The stream is past what it handled.
    intro h₁ hmem₁ h₂ hmem₂ hstream
    obtain rfl := List.mem_singleton.mp hmem₂
    obtain ⟨task', hi', -, hlt⟩ := h.passed h₁ hmem₁
    rw [hstream] at hi'
    obtain rfl := Option.some.inj (hi.symm.trans hi')
    exact Nat.ne_of_lt hlt

theorem StreamsInv.step (h : StreamsInv w identityKey s)
    (hstep : StreamsStep w identityKey others s a t) : StreamsInv w identityKey t := by
  cases hstep with
  | broadcast => exact h.broadcast _
  | subscribe => exact h.subscribe
  | drop hi => exact h.drop hi
  | take hi hlive he hhandled =>
      subst hhandled
      exact h.take hi he _ _
  | completed | request | others =>
      exact ⟨h.bounds, h.made, h.passed, h.complete, h.unique⟩

/-! ### While one stream is live -/

/-- The stream took the event, or may take it. -/
def StreamTask.Gets (task : StreamTask) (k : Nat) : Prop :=
  task.since ≤ k ∧ (task.live = true ∨ k < task.next)

/-- An event that is for one stream goes to one, and nothing is done twice. -/
structure AloneInv (w : HandlerWacore σ κ) (s : StreamsState σ κ) : Prop where
  alone : ∀ (k : Nat) (e : RawEvent), s.log[k]? = some e → w.forOneStream e = true →
    ∀ (i j : Nat) (task task' : StreamTask), s.streams[i]? = some task →
      s.streams[j]? = some task' → task.Gets k → task'.Gets k → i = j
  once : ∀ h ∈ s.handlings, ∀ h' ∈ s.handlings, h.event = h'.event → h.stream ≠ h'.stream →
    h.effects = [] ∨ h'.effects = []

theorem AloneInv.init (hlog : s.log = []) (hhandlings : s.handlings = []) : AloneInv w s := by
  constructor
  · simp [hlog]
  · simp [hhandlings]

/-- The streams get no more of what was broadcast. -/
theorem AloneInv.of_gets {streams : List StreamTask} (h : AloneInv w s)
    (hgets : ∀ (i : Nat) (task : StreamTask) (k : Nat), streams[i]? = some task → task.Gets k →
      k < s.log.length → ∃ task', s.streams[i]? = some task' ∧ task'.Gets k) :
    AloneInv w { s with streams } := by
  constructor
  · intro k e he hone i j task task' hi hj hget hget'
    have hlt : k < s.log.length := (List.getElem?_eq_some_iff.mp he).1
    obtain ⟨x, hx, hgetx⟩ := hgets i task k hi hget hlt
    obtain ⟨y, hy, hgety⟩ := hgets j task' k hj hget' hlt
    exact h.alone k e he hone i j x y hx hy hgetx hgety
  · exact h.once

theorem AloneInv.broadcast (h : AloneInv w s) (hinv : StreamsInv w identityKey s)
    (hguard : w.OneStream s (.broadcast e)) : AloneInv w { s with log := s.log ++ [e] } := by
  constructor
  · intro k e' he' hone i j task task' hi hj hgets hgets'
    rcases getElem?_concat_iff.mp he' with he' | ⟨rfl, rfl⟩
    · exact h.alone k e' he' hone i j task task' hi hj hgets hgets'
    · -- No stream is past the new event.
      have hlive : ∀ (i : Nat) (task : StreamTask), s.streams[i]? = some task →
          task.Gets s.log.length → task.live = true := by
        rintro i task hi ⟨-, hlive | hnext⟩
        · exact hlive
        · have hle := (hinv.bounds i task hi).2
          omega
      exact hguard hone i j task task' hi hj (hlive i task hi hgets) (hlive j task' hj hgets')
  · exact h.once

/-- A stream that handles an event is the only one to do something for it. -/
theorem AloneInv.once_new {i : Nat} {task : StreamTask} {sent : Bool} (h : AloneInv w s)
    (hinv : StreamsInv w identityKey s) (hguard : w.OneStream s (.take i env sent))
    (hi : s.streams[i]? = some task) (hlive : task.live = true)
    (he : s.log[task.next]? = some e) {h' : Handling σ κ} (hmem : h' ∈ s.handlings)
    (hevent : h'.event = task.next) (hstream : h'.stream ≠ i) :
    h'.effects = [] ∨ (w.handleEvent identityKey env s.client e).effects = [] := by
  cases hone : w.forOneStream e with
  | true =>
      obtain ⟨task', hj, hsince, hnext⟩ := hinv.passed h' hmem
      rw [hevent] at hsince hnext
      exact absurd (h.alone task.next e he hone h'.stream i task' task hj hi ⟨hsince, .inr hnext⟩
        ⟨(hinv.bounds i task hi).1, .inl hlive⟩) hstream
  | false =>
      by_cases hnothing : h'.effects = []
      · exact .inl hnothing
      · refine .inr (Classical.byContradiction fun heffects => ?_)
        obtain ⟨p, hp⟩ := effects_of_not_forOneStream hone heffects
        exact hguard task hi h' hmem hevent hnothing p hp

theorem AloneInv.take {i : Nat} {task : StreamTask} {sent : Bool} (h : AloneInv w s)
    (hinv : StreamsInv w identityKey s) (hguard : w.OneStream s (.take i env sent))
    (hi : s.streams[i]? = some task) (hlive : task.live = true)
    (he : s.log[task.next]? = some e) (finishing : Nat) :
    AloneInv w
      { s with
        streams := s.streams.set i { task with next := task.next + 1 }
        client := (w.handleEvent identityKey env s.client e).client
        finishing := finishing
        handlings := s.handlings ++
          [⟨i, task.next, env, s.client, (w.handleEvent identityKey env s.client e).updates,
            (w.handleEvent identityKey env s.client e).effects⟩] } := by
  constructor
  · refine (h.of_gets ?_).alone
    intro j x k hx hgets _
    rcases (getElem?_set_iff hi).mp hx with ⟨rfl, rfl⟩ | ⟨-, hj⟩
    · exact ⟨task, hi, hgets.1, .inl hlive⟩
    · exact ⟨x, hj, hgets⟩
  · intro h₁ hmem₁ h₂ hmem₂ hevent hstream
    rcases List.mem_append.mp hmem₁ with hmem₁ | hmem₁
    · rcases List.mem_append.mp hmem₂ with hmem₂ | hmem₂
      · exact h.once h₁ hmem₁ h₂ hmem₂ hevent hstream
      · obtain rfl := List.mem_singleton.mp hmem₂
        exact h.once_new hinv hguard hi hlive he hmem₁ hevent hstream
    · obtain rfl := List.mem_singleton.mp hmem₁
      rcases List.mem_append.mp hmem₂ with hmem₂ | hmem₂
      · exact (h.once_new hinv hguard hi hlive he hmem₂ hevent.symm hstream.symm).symm
      · obtain rfl := List.mem_singleton.mp hmem₂
        exact absurd rfl hstream

theorem AloneInv.step (h : AloneInv w s) (hinv : StreamsInv w identityKey s)
    (hguard : w.OneStream s a) (hstep : StreamsStep w identityKey others s a t) :
    AloneInv w t := by
  cases hstep with
  | broadcast => exact h.broadcast hinv hguard
  | subscribe =>
      refine h.of_gets ?_
      intro i task k hi hgets hlt
      rcases getElem?_concat_iff.mp hi with hi | ⟨-, rfl⟩
      · exact ⟨task, hi, hgets⟩
      · exact absurd hgets.1 (Nat.not_le.mpr hlt)
  | @drop i task hi =>
      refine h.of_gets ?_
      intro j x k hx hgets _
      rcases (getElem?_set_iff hi).mp hx with ⟨rfl, rfl⟩ | ⟨-, hj⟩
      · exact ⟨task, hi, hgets.1, hgets.2.imp_left nofun⟩
      · exact ⟨x, hj, hgets⟩
  | take hi hlive he hhandled =>
      subst hhandled
      exact h.take hinv hguard hi hlive he _
  | completed | request | others => exact ⟨h.alone, h.once⟩

/-- What a stream yields for an event every stream past it yields. -/
theorem AloneInv.yielded (h : AloneInv w s) (hinv : StreamsInv w identityKey s)
    {h₁ : Handling σ κ} (hmem₁ : h₁ ∈ s.handlings) (hyields : h₁.Yields) {i : Nat}
    {task : StreamTask} (hi : s.streams[i]? = some task) (hsince : task.since ≤ h₁.event)
    (hnext : h₁.event < task.next) :
    ∃ h' ∈ s.handlings, h'.stream = i ∧ h'.event = h₁.event ∧ h'.Yields := by
  obtain ⟨e, he, hupdates, -⟩ := hinv.made h₁ hmem₁
  obtain ⟨task₁, hi₁, hsince₁, hnext₁⟩ := hinv.passed h₁ hmem₁
  cases hone : w.forOneStream e with
  | true =>
      have hsame := h.alone _ e he hone _ i task₁ task hi₁ hi ⟨hsince₁, .inr hnext₁⟩
        ⟨hsince, .inr hnext⟩
      exact ⟨h₁, hmem₁, hsame, rfl, hyields⟩
  | false =>
      obtain ⟨h₂, hmem₂, hstream, hevent⟩ := hinv.complete i task hi _ hsince hnext
      obtain ⟨e', he', hupdates', -⟩ := hinv.made h₂ hmem₂
      rw [hevent] at he'
      obtain rfl := Option.some.inj (he.symm.trans he')
      refine ⟨h₂, hmem₂, hstream, hevent, ?_⟩
      simp only [Handling.Yields] at hyields ⊢
      rw [hupdates] at hyields
      rw [hupdates']
      exact yields_of_not_forOneStream hone hyields

/-- If a stream did something for an event, no other stream did. -/
theorem AloneInv.effectsOf_eq (h : AloneInv w s) (hinv : StreamsInv w identityKey s)
    {h₁ : Handling σ κ} (hmem₁ : h₁ ∈ s.handlings) (heffects : h₁.effects ≠ []) :
    s.effectsOf h₁.event = h₁.effects := by
  refine flatMap_eq_of_pairwise (List.mem_filter.mpr ⟨hmem₁, decide_eq_true rfl⟩) heffects ?_
  refine (hinv.unique.filter _).imp_of_mem ?_
  intro x y hx hy hunique
  obtain ⟨hmemx, heventx⟩ := List.mem_filter.mp hx
  obtain ⟨hmemy, heventy⟩ := List.mem_filter.mp hy
  have hevent : x.event = y.event :=
    (of_decide_eq_true heventx).trans (of_decide_eq_true heventy).symm
  exact h.once x hmemx y hmemy hevent fun hstream => hunique hstream hevent

theorem AloneInv.everyStreamSees (h : AloneInv w s) (hinv : StreamsInv w identityKey s) :
    s.EveryStreamSees w identityKey where
  yielded := by
    intro h₁ hmem₁ n hn hreadable i task hi hsince hnext
    obtain ⟨e, he, hupdates, -⟩ := hinv.made h₁ hmem₁
    obtain rfl := Option.some.inj (hn.symm.trans he)
    refine h.yielded hinv hmem₁ ?_ hi hsince hnext
    rw [Handling.Yields, hupdates]
    exact yields_of_readable hreadable
  once := by
    intro h₁ hmem₁ e effects he hdue
    obtain ⟨e', he', -, heffects⟩ := hinv.made h₁ hmem₁
    obtain rfl := Option.some.inj (he.symm.trans he')
    obtain ⟨hhandled, hne⟩ := effects_of_due hdue
    rw [hhandled] at heffects
    rw [h.effectsOf_eq hinv hmem₁ (heffects ▸ hne), heffects]
  single := h.once

theorem StreamsInv.run {as : List (StreamsAction σ)}
    (h : (updateStreams w identityKey others).Run as s) : StreamsInv w identityKey s := by
  refine h.invariant ?_ ?_
  · rintro s ⟨-, hstreams, -, hhandlings⟩
    exact .init hstreams hhandlings
  · intro s a t hinv hstep
    exact hinv.step hstep

end Streams

/-- Every stream sees every message that can be read, and what is due for an event is done
exactly once, in every run whose steps all meet the condition. -/
theorem every_stream_sees (w : HandlerWacore σ κ) (identityKey : KeyPair)
    (others : StoreChange σ) (as : List (StreamsAction σ)) (s : StreamsState σ κ)
    (hrun : ((updateStreams w identityKey others).restrict w.OneStream).Run as s) :
    s.EveryStreamSees w identityKey := by
  have hinv : AloneInv w s := by
    refine hrun.history_invariant (I := fun _ s => AloneInv w s) ?_ ?_
    · rintro s ⟨hlog, -, -, hhandlings⟩
      exact .init hlog hhandlings
    · rintro as s a t hrun hinv ⟨hstep, hguard⟩
      exact hinv.step (.run hrun.of_restrict) hguard hstep
  exact hinv.everyStreamSees (.run hrun.of_restrict)

/-! ## Keys are used once -/

def CiphertextMessage.serialized : CiphertextMessage → Bytes
  | preKeySignalMessage serialized | signalMessage serialized => serialized

/-- A ciphertext is decrypted once: the first success uses its key, and nothing
brings that back. -/
structure DecryptsOnce (d : Decoder σ κ) (others : StoreChange σ) (used : σ → Bytes → Prop) :
    Prop where
  message : ∀ {c address s plaintext s'},
    d.messageDecrypt c address s = (.ok plaintext, s') → used s' c.serialized
  group : ∀ {b name s plaintext s'}, d.groupDecrypt b name s = (.ok plaintext, s') → used s' b
  messageFails : ∀ {c address s plaintext s'}, used s c.serialized →
    d.messageDecrypt c address s ≠ (.ok plaintext, s')
  groupFails : ∀ {b name s plaintext s'}, used s b →
    d.groupDecrypt b name s ≠ (.ok plaintext, s')
  messageKeeps : ∀ {c address s b}, used s b → used (d.messageDecrypt c address s).2 b
  groupKeeps : ∀ {c name s b}, used s b → used (d.groupDecrypt c name s).2 b
  distributionKeeps : ∀ {name c s b}, used s b →
    used (d.processSenderKeyDistributionMessage name c s).2 b
  othersKeep : ∀ {s s' b}, others s s' → used s b → used s' b

/-- A node with one element to decrypt. -/
structure Decoder.Encloses (d : Decoder σ κ) (n : Node) (enc : EncInfo) : Prop where
  encrypted : (encChildren n).isEmpty = false
  single : d.categorizeEncNodes (encChildren n) = ⟨[enc], []⟩ ∨
    d.categorizeEncNodes (encChildren n) = ⟨[], [enc]⟩

section Once

variable {d : Decoder σ κ} {others : StoreChange σ} {used : σ → Bytes → Prop} {b : Bytes}
  {signal : σ}

omit [WacoreBinary] in
theorem DecryptsOnce.session_keeps (hd : DecryptsOnce d others used) (address : ProtocolAddress)
    (es : List EncInfo) (h : used signal b) : used (decryptSession d address es signal).2 b := by
  induction es generalizing signal with
  | nil => exact h
  | cons e es ih =>
      rw [decryptSession]
      cases d.ciphertextMessage e with
      | none => exact ih h
      | some ciphertext =>
          have hkeeps : used (d.messageDecrypt ciphertext address signal).2 b := hd.messageKeeps h
          dsimp only
          split
          · next plaintext signal' heq => rwa [heq] at hkeeps
          · next e signal' heq =>
              rw [heq] at hkeeps
              exact ih hkeeps

omit [WacoreBinary] in
theorem DecryptsOnce.group_keeps (hd : DecryptsOnce d others used) (name : SenderKeyName)
    (es : List EncInfo) (h : used signal b) : used (decryptGroup d name es signal).2 b := by
  induction es generalizing signal with
  | nil => exact h
  | cons e es ih =>
      rw [decryptGroup]
      have hkeeps : used (d.groupDecrypt e.ciphertext name signal).2 b := hd.groupKeeps h
      split
      · next plaintext signal' heq => rwa [heq] at hkeeps
      · next e signal' heq =>
          rw [heq] at hkeeps
          exact ih hkeeps

omit [WacoreBinary] in
theorem DecryptsOnce.enc_keeps (hd : DecryptsOnce d others used) (address : ProtocolAddress)
    (group : String) (enc : CategorizedEncNodes) (h : used signal b) :
    used (decryptEnc d address group enc signal).2 b := by
  have hsession := hd.session_keeps address enc.sessionEnc h
  rw [decryptEnc]
  split
  · next plaintext signal' heq => rwa [heq] at hsession
  · next signal' heq =>
      rw [heq] at hsession
      exact hd.group_keeps _ _ hsession

theorem DecryptsOnce.decrypted_keeps (hd : DecryptsOnce d others used) (c : MessageContext)
    (enc : List Node) (h : used signal b) : used (decryptedMessage d c enc signal).2 b := by
  have henc := hd.enc_keeps c.address (WacoreBinary.jidText c.fromJid) (d.categorizeEncNodes enc) h
  simp only [decryptedMessage]
  split
  · next heq => rwa [heq] at henc
  · next heq => rwa [heq] at henc

omit [WacoreBinary] in
theorem DecryptsOnce.receive_keeps (hd : DecryptsOnce d others used) (env : Surroundings)
    (c : MessageContext) (m : ReceivedMessage κ) (h : used signal b) :
    used (receiveMessage d env c m signal).signal b := by
  simp only [receiveMessage]
  split
  · exact h
  · split
    · simp only [installSenderKey]
      split
      · exact hd.distributionKeeps h
      · exact h
    · exact h

/-- No node brings a key back. -/
theorem DecryptsOnce.node_keeps (hd : DecryptsOnce d others used) (env : Surroundings) (n : Node)
    (h : used signal b) : used (processIncomingNode d env n signal).signal b := by
  rcases processIncomingNode_cases d env n signal with ⟨-, heq⟩ | ⟨fromJid, -, -, hcases⟩
  · rw [heq]
    exact h
  · rcases hcases with ⟨-, heq⟩ | ⟨-, heq⟩
    · rw [heq]
      simp only [receivePlaintext]
      split <;> exact h
    · rw [heq]
      have hdecrypted := hd.decrypted_keeps (messageContext d env n fromJid) (encChildren n) h
      show used (decryptE2eMessage d env _ _ signal).signal b
      unfold decryptE2eMessage
      split
      · next heq => rwa [heq] at hdecrypted
      · next heq =>
          rw [heq] at hdecrypted
          exact hd.receive_keeps env _ _ hdecrypted

omit [WacoreBinary] in
theorem ciphertextMessage_serialized {enc : EncInfo} {c : CiphertextMessage}
    (h : d.ciphertextMessage enc = some c) : c.serialized = enc.ciphertext := by
  simp only [Decoder.ciphertextMessage] at h
  split at h
  · split at h <;> cases h
    rfl
  · split at h <;> cases h
    rfl
  · cases h

omit [WacoreBinary] in
/-- One element decrypts with a key that it uses. -/
theorem DecryptsOnce.enc_uses (hd : DecryptsOnce d others used) {n : Node} {enc : EncInfo}
    (hn : d.Encloses n enc) {address : ProtocolAddress} {group : String} {plaintext : Bytes}
    {signal' : σ}
    (h : decryptEnc d address group (d.categorizeEncNodes (encChildren n)) signal =
      (some plaintext, signal')) :
    used signal' enc.ciphertext ∧ ¬ used signal enc.ciphertext := by
  rcases hn.single with hsingle | hsingle
  · rw [hsingle, decryptEnc, decryptSession] at h
    cases hc : d.ciphertextMessage enc with
    | none =>
        rw [hc] at h
        cases h
    | some c =>
        rw [hc] at h
        dsimp only at h
        rw [← ciphertextMessage_serialized hc]
        cases hdec : d.messageDecrypt c address signal with
        | mk r s' =>
            rw [hdec] at h
            cases r with
            | error e => cases h
            | ok p =>
                cases h
                exact ⟨hd.message hdec, fun hused => hd.messageFails hused hdec⟩
  · rw [hsingle, decryptEnc, decryptSession] at h
    dsimp only [decryptGroup] at h
    cases hdec : d.groupDecrypt enc.ciphertext ⟨group, address⟩ signal with
    | mk r s' =>
        rw [hdec] at h
        cases r with
        | error e => cases h
        | ok p =>
            cases h
            exact ⟨hd.group hdec, fun hused => hd.groupFails hused hdec⟩

/-- A node that yields a message uses its key. -/
theorem DecryptsOnce.node_uses (hd : DecryptsOnce d others used) {env : Surroundings} {n : Node}
    {enc : EncInfo} (hn : d.Encloses n enc) {m : Message κ}
    (h : .newMessage m ∈ (processIncomingNode d env n signal).result.toUpdates) :
    used (processIncomingNode d env n signal).signal enc.ciphertext ∧
      ¬ used signal enc.ciphertext := by
  rcases processIncomingNode_cases d env n signal with ⟨-, heq⟩ | ⟨fromJid, -, -, hcases⟩
  · rw [heq] at h
    cases h
  · rcases hcases with ⟨hplain, -⟩ | ⟨-, heq⟩
    · rw [hn.encrypted] at hplain
      cases hplain
    · rw [heq] at h ⊢
      replace h : .newMessage m ∈ (decryptE2eMessage d env (messageContext d env n fromJid)
        (encChildren n) signal).result.toUpdates := h
      show used (decryptE2eMessage d env _ _ signal).signal _ ∧ _
      unfold decryptE2eMessage at h ⊢
      cases hdec : decryptedMessage d (messageContext d env n fromJid) (encChildren n) signal with
      | mk r signal' =>
          rw [hdec] at h
          cases r with
          | none => cases h
          | some message =>
              simp only [decryptedMessage] at hdec
              split at hdec
              · cases hdec
              · next plaintext signal'' henc =>
                  obtain ⟨huses, hunused⟩ := hd.enc_uses hn henc
                  obtain ⟨-, rfl⟩ := Prod.mk.inj hdec
                  exact ⟨hd.receive_keeps env _ _ huses, hunused⟩

variable {w : HandlerWacore σ κ} {identityKey : KeyPair} {client : SharedClient σ}
  {s t : StreamsState σ κ} {a : StreamsAction σ}

theorem DecryptsOnce.handle_keeps (hd : DecryptsOnce w.toDecoder others used)
    (env : Surroundings) (e : RawEvent) (h : used client.signal b) :
    used (w.handleEvent identityKey env client e).client.signal b := by
  cases e with
  | connected | disconnected | error text => exact h
  | node n =>
      rw [HandlerWacore.handleEvent]
      split
      · exact h
      · split
        · exact hd.node_keeps env n h
        · split
          · exact h
          · split <;> exact h

theorem DecryptsOnce.handle_uses (hd : DecryptsOnce w.toDecoder others used) {env : Surroundings}
    {n : Node} {enc : EncInfo} (hn : w.Encloses n enc)
    (h : ∃ m, .newMessage m ∈ (w.handleEvent identityKey env client (.node n)).updates) :
    used (w.handleEvent identityKey env client (.node n)).client.signal enc.ciphertext ∧
      ¬ used client.signal enc.ciphertext := by
  obtain ⟨m, hm⟩ := h
  rw [HandlerWacore.handleEvent] at hm ⊢
  split at hm
  · cases hm
  · next hsync =>
      rw [if_neg hsync]
      split at hm
      · next htag =>
          rw [if_pos htag]
          exact hd.node_uses hn hm
      · split at hm
        · cases hm
        · split at hm <;> cases hm

/-- The key of a message that a stream yielded is used, and no other yields it. -/
structure UsedInv (w : HandlerWacore σ κ) (used : σ → Bytes → Prop) (s : StreamsState σ κ) :
    Prop where
  used : ∀ h ∈ s.handlings, ∀ n enc, s.log[h.event]? = some (.node n) → w.Encloses n enc →
    h.Yields → used s.client.signal enc.ciphertext
  once : ∀ h ∈ s.handlings, ∀ h' ∈ s.handlings, h.event = h'.event → h.stream ≠ h'.stream →
    ∀ n enc, s.log[h.event]? = some (.node n) → w.Encloses n enc → h.Yields → ¬ h'.Yields

omit [WacoreBinary] in
theorem UsedInv.init (hhandlings : s.handlings = []) : UsedInv w used s := by
  constructor
  · simp [hhandlings]
  · simp [hhandlings]

theorem UsedInv.broadcast (h : UsedInv w used s) (hinv : StreamsInv w identityKey s)
    (e : RawEvent) : UsedInv w used { s with log := s.log ++ [e] } := by
  have hold : ∀ h' ∈ s.handlings, ∀ n, (s.log ++ [e])[h'.event]? = some (.node n) →
      s.log[h'.event]? = some (.node n) := by
    intro h' hmem n hn
    obtain ⟨e', he', -⟩ := hinv.made h' hmem
    have hlt := (List.getElem?_eq_some_iff.mp he').1
    rwa [List.getElem?_append_left hlt] at hn
  constructor
  · intro h' hmem n enc hn
    exact h.used h' hmem n enc (hold h' hmem n hn)
  · intro h₁ hmem₁ h₂ hmem₂ hevent hstream n enc hn
    exact h.once h₁ hmem₁ h₂ hmem₂ hevent hstream n enc (hold h₁ hmem₁ n hn)

theorem UsedInv.take {streams : List StreamTask} {finishing i k : Nat} {env : Surroundings}
    {e : RawEvent} (h : UsedInv w used s) (hd : DecryptsOnce w.toDecoder others used)
    (he : s.log[k]? = some e) :
    UsedInv w used
      { s with
        streams := streams
        client := (w.handleEvent identityKey env s.client e).client
        finishing := finishing
        handlings := s.handlings ++
          [⟨i, k, env, s.client, (w.handleEvent identityKey env s.client e).updates,
            (w.handleEvent identityKey env s.client e).effects⟩] } := by
  -- What the stream yields now had its key.
  have hnew : ∀ n enc, s.log[k]? = some (.node n) → w.Encloses n enc →
      Handling.Yields ⟨i, k, env, s.client, (w.handleEvent identityKey env s.client e).updates,
        (w.handleEvent identityKey env s.client e).effects⟩ →
      used (w.handleEvent identityKey env s.client e).client.signal enc.ciphertext ∧
        ¬ used s.client.signal enc.ciphertext := by
    intro n enc hn henc hyields
    obtain rfl := Option.some.inj (he.symm.trans hn)
    exact hd.handle_uses henc hyields
  constructor
  · intro h' hmem n enc hn henc hyields
    rcases List.mem_append.mp hmem with hmem | hmem
    · exact hd.handle_keeps env e (h.used h' hmem n enc hn henc hyields)
    · obtain rfl := List.mem_singleton.mp hmem
      exact (hnew n enc hn henc hyields).1
  · intro h₁ hmem₁ h₂ hmem₂ hevent hstream n enc hn henc hyields₁ hyields₂
    have hn₂ := hn
    rw [hevent] at hn₂
    rcases List.mem_append.mp hmem₁ with hmem₁ | hmem₁
    · rcases List.mem_append.mp hmem₂ with hmem₂ | hmem₂
      · exact h.once h₁ hmem₁ h₂ hmem₂ hevent hstream n enc hn henc hyields₁ hyields₂
      · obtain rfl := List.mem_singleton.mp hmem₂
        exact (hnew n enc hn₂ henc hyields₂).2 (h.used h₁ hmem₁ n enc hn henc hyields₁)
    · obtain rfl := List.mem_singleton.mp hmem₁
      rcases List.mem_append.mp hmem₂ with hmem₂ | hmem₂
      · exact (hnew n enc hn henc hyields₁).2 (h.used h₂ hmem₂ n enc hn₂ henc hyields₂)
      · obtain rfl := List.mem_singleton.mp hmem₂
        exact absurd rfl hstream

theorem UsedInv.step (h : UsedInv w used s) (hinv : StreamsInv w identityKey s)
    (hd : DecryptsOnce w.toDecoder others used)
    (hstep : StreamsStep w identityKey others s a t) : UsedInv w used t := by
  cases hstep with
  | broadcast => exact h.broadcast hinv _
  | subscribe | drop | completed | request => exact ⟨h.used, h.once⟩
  | take hi hlive he hhandled =>
      subst hhandled
      exact h.take hd he
  | others hothers =>
      refine ⟨?_, h.once⟩
      intro h' hmem n enc hn henc hyields
      exact hd.othersKeep hothers (h.used h' hmem n enc hn henc hyields)

/-- Of a message with one element one stream at most yields a `NewMessage`. -/
theorem second_stream_misses {as : List (StreamsAction σ)}
    (hd : DecryptsOnce w.toDecoder others used)
    (hrun : (updateStreams w identityKey others).Run as s) {h h' : Handling σ κ}
    (hmem : h ∈ s.handlings) (hmem' : h' ∈ s.handlings) (hevent : h.event = h'.event)
    (hstream : h.stream ≠ h'.stream) {n : Node} {enc : EncInfo}
    (hn : s.log[h.event]? = some (.node n)) (henc : w.Encloses n enc) (hyields : h.Yields) :
    ¬ h'.Yields := by
  have hinv : UsedInv w used s := by
    refine hrun.history_invariant (I := fun _ s => UsedInv w used s) ?_ ?_
    · rintro s ⟨-, -, -, hhandlings⟩
      exact .init hhandlings
    · intro as s a t hrun hinv hstep
      exact hinv.step (.run hrun) hd hstep
  exact hinv.once h hmem h' hmem' hevent hstream n enc hn henc hyields

end Once

/-! ## One stream and two -/

section Runs

omit [WacoreBinary]

/-- The stores hold the ciphertexts that were decrypted. -/
def decryptOnce (b : Bytes) (used : List Bytes) : Except String Bytes × List Bytes :=
  if b ∈ used then (.error "duplicated message", used) else (.ok b, b :: used)

/-- A decoder of the example messages that decrypts each once. -/
def onceDecoder : Decoder (List Bytes) (Option String) where
  parseJid _ := none
  categorizeEncNodes := letI := plainWacore; categorizeByType
  isPreKeySignalMessage _ := true
  isSignalMessage _ := true
  messageDecrypt c _ := decryptOnce c.serialized
  groupDecrypt b _ := decryptOnce b
  decodePlaintext b _ := exampleMessage b
  unwrapDeviceSent m := m
  isSenderKeyDistributionOnly _ := false
  isSenderKeyDistributionMessage _ := true
  processSenderKeyDistributionMessage _ _ used := (.ok (), used)
  decodeMessage := exampleMessage
  isTimestamp _ := true

def onceHandlers : HandlerWacore (List Bytes) (Option String) where
  toDecoder := onceDecoder
  pairCode := plainPairCodeUtils
  dirtyBit dirtyType _ := .ok ⟨dirtyType, none⟩

theorem decryptOnce_ok {b plaintext : Bytes} {used used' : List Bytes}
    (h : decryptOnce b used = (.ok plaintext, used')) : b ∉ used ∧ b ∈ used' := by
  simp only [decryptOnce] at h
  split at h
  · cases h
  · next hunused =>
      cases h
      exact ⟨hunused, List.mem_cons_self ..⟩

theorem decryptOnce_keeps {b c : Bytes} {used : List Bytes} (h : b ∈ used) :
    b ∈ (decryptOnce c used).2 := by
  simp only [decryptOnce]
  split
  · exact h
  · exact List.mem_cons_of_mem _ h

/-- The other tasks leave the stores alone. -/
theorem onceDecoder_decryptsOnce :
    DecryptsOnce onceDecoder (fun s s' => s' = s) fun used b => b ∈ used where
  message h := (decryptOnce_ok h).2
  group h := (decryptOnce_ok h).2
  messageFails hused h := (decryptOnce_ok h).1 hused
  groupFails hused h := (decryptOnce_ok h).1 hused
  messageKeeps := decryptOnce_keeps
  groupKeeps := decryptOnce_keeps
  distributionKeeps h := h
  othersKeep hsame h := hsame ▸ h

/-- A text from a contact. -/
def aliceGreeting : Node :=
  .mk "message" [("from", .jid aliceJid), ("id", .string "3EB0")]
    (some (.nodes [.mk "enc" [("type", .string "msg")] (some (.bytes [2]))]))

theorem aliceGreeting_readable :
    letI := plainWacore
    onceHandlers.Readable aliceGreeting [] :=
  letI := plainWacore
  .encrypted rfl rfl rfl rfl rfl rfl rfl

/-- A client without streams. -/
def noStreams : StreamsState (List Bytes) (Option String) := ⟨[], [], ⟨[], .idle⟩, 0, []⟩

/-- One stream sees the message. -/
theorem every_stream_sees_alone :
    letI := plainWacore
    ∃ s, ((updateStreams onceHandlers ⟨1, 2⟩ fun s s' => s' = s).restrict
        onceHandlers.OneStream).Run
        [.subscribe, .broadcast (.node aliceGreeting), .take 0 exampleSurroundings false] s ∧
      (∃ h ∈ s.handlings, h.stream = 0 ∧ h.Yields ∧ h.effects.length = 1) ∧
      s.EveryStreamSees onceHandlers ⟨1, 2⟩ := by
  let _ := plainWacore
  let S := (updateStreams onceHandlers ⟨1, 2⟩ fun s s' => s' = s).restrict onceHandlers.OneStream
  have hstep : ∀ {s t : StreamsState (List Bytes) (Option String)} {a : StreamsAction (List Bytes)},
      StreamsStep onceHandlers ⟨1, 2⟩ (fun s s' => s' = s) s a t → onceHandlers.OneStream s a →
      S.step s a t := fun h hguard => ⟨h, hguard⟩
  have h0 : S.Run [] noStreams := .start ⟨rfl, rfl, rfl, rfl⟩
  have h1 := h0.tail (hstep .subscribe trivial)
  have h2 := h1.tail (hstep (.broadcast (e := .node aliceGreeting)) (by
    intro _ i j task task' hi hj _ _
    have hi' := (List.getElem?_eq_some_iff.mp hi).1
    have hj' := (List.getElem?_eq_some_iff.mp hj).1
    exact (Nat.lt_one_iff.mp hi').trans (Nat.lt_one_iff.mp hj').symm))
  have h3 := h2.tail (hstep (a := .take 0 exampleSurroundings false) (.take rfl rfl rfl rfl) (by
    intro task _ h hmem
    cases hmem))
  exact ⟨_, h3, ⟨_, List.mem_singleton_self _, rfl, ⟨_, List.mem_singleton_self _⟩, rfl⟩,
    every_stream_sees _ _ _ _ _ h3⟩

/-- Of two streams the second misses the message. -/
theorem two_streams_not_see :
    letI := plainWacore
    ¬ ∀ (w : HandlerWacore (List Bytes) (Option String)) (identityKey : KeyPair)
      (others : StoreChange (List Bytes)) (used : List Bytes → Bytes → Prop),
      DecryptsOnce w.toDecoder others used →
      ∀ (as : List (StreamsAction (List Bytes))) (s : StreamsState (List Bytes) (Option String)),
        (updateStreams w identityKey others).Run as s →
          s.EveryStreamSees w identityKey := by
  let _ := plainWacore
  intro hall
  let S := updateStreams onceHandlers ⟨1, 2⟩ fun s s' => s' = s
  have hstep : ∀ {s t : StreamsState (List Bytes) (Option String)} {a : StreamsAction (List Bytes)},
      StreamsStep onceHandlers ⟨1, 2⟩ (fun s s' => s' = s) s a t → S.step s a t := fun h => h
  have h0 : S.Run [] noStreams := .start ⟨rfl, rfl, rfl, rfl⟩
  have h1 := h0.tail (hstep .subscribe)
  have h2 := h1.tail (hstep .subscribe)
  have h3 := h2.tail (hstep (.broadcast (e := .node aliceGreeting)))
  have h4 := h3.tail (hstep (a := .take 0 exampleSurroundings false) (.take rfl rfl rfl rfl))
  have h5 := h4.tail (hstep (a := .take 1 exampleSurroundings false) (.take rfl rfl rfl rfl))
  have hsees := hall _ _ _ _ onceDecoder_decryptsOnce _ _ h5
  have henc : onceHandlers.Encloses aliceGreeting ⟨.message, [2]⟩ := ⟨rfl, .inl rfl⟩
  obtain ⟨h', hmem', hstream, hevent, hyields⟩ := hsees.yielded _ (List.mem_cons_self ..)
    aliceGreeting rfl aliceGreeting_readable 1 _ rfl (Nat.le_refl 0) Nat.zero_lt_one
  refine second_stream_misses onceDecoder_decryptsOnce h5 (List.mem_cons_self ..) hmem' hevent.symm
    ?_ rfl henc ⟨_, List.mem_singleton_self _⟩ hyields
  rw [hstream]
  exact Nat.zero_ne_one

end Runs

end Waepic.Client
