import Waepic.Library.WriteBack
import Waepic.Client.CacheFlush
import Waepic.Client.Incoming

/-!
# Consumed prekeys

On a pre-key message `message_decrypt` stores the session that it establishes and
then removes the one-time prekey.  `SessionAdapter` puts the session into the
Signal cache, which reaches the backend at the next flush; `PreKeyAdapter`
removes the prekey from the backend at once.  The process may stop in between,
and then the backend has neither.

Session records are numbered in the order in which they are stored, so a larger
number for an address is a later session.
-/

namespace Waepic.Client

open Transition Binary WriteBack WriteBack.Store

/-- A one-time prekey that a pre-key message consumed. -/
structure Consumption where
  preKey : UInt32
  address : ProtocolAddress
  /-- The session that the message established. -/
  session : Nat
  /-- The process that decrypted the message. -/
  process : Nat
  /-- That process has flushed the cache since. -/
  flushed : Bool

inductive DecryptPhase where
  /-- At `raw_rx.recv`. -/
  | idle
  /-- Handling a message. -/
  | handling
  /-- In `message_decrypt`, between `store_session` and `remove_pre_key`. -/
  | removing (preKey : UInt32) (address : ProtocolAddress) (session : Nat)

structure ConsumeState where
  loop : UpdateLoop
  phase : DecryptPhase
  sessions : Store ProtocolAddress Nat
  /-- The one-time prekeys of the backend. -/
  preKeys : UInt32 → Option PreKeyRow
  /-- How many session records were stored so far. -/
  stored : Nat
  /-- How often the process was restarted. -/
  process : Nat
  /-- The prekeys that were consumed. -/
  consumed : List Consumption

namespace ConsumeState

/-- `SessionAdapter::store_session`. -/
def storeSession (s : ConsumeState) (address : ProtocolAddress) : ConsumeState :=
  { s with sessions := s.sessions.put address s.stored, stored := s.stored + 1 }

/-- `PreKeyAdapter::remove_pre_key`. -/
def removePreKey (s : ConsumeState) (preKey : UInt32) : ConsumeState :=
  { s with preKeys := Function.update s.preKeys preKey none }

/-- `signal_cache.flush`. -/
def flush (s : ConsumeState) : ConsumeState :=
  { s with
    sessions := s.sessions.flush
    consumed := s.consumed.map fun c =>
      { c with flushed := c.flushed || decide (c.process = s.process) } }

/-- A flush that fails after it has written some entries. -/
def flushFailed (s : ConsumeState) (written : List ProtocolAddress) : ConsumeState :=
  { s with sessions := written.foldl Store.writeBack s.sessions }

/-- The process stops and starts again: what the backend holds stays. -/
def restart (s : ConsumeState) : ConsumeState :=
  { s with
    loop := .new, phase := .idle, sessions := s.sessions.restart, process := s.process + 1 }

end ConsumeState

inductive ConsumeAction where
  /-- `raw_rx.recv` returns. -/
  | recv (r : Recv)
  /-- A pre-key message is decrypted and its session stored. -/
  | establish (preKey : UInt32) (address : ProtocolAddress)
  /-- `remove_pre_key` returns. -/
  | removed (ok : Bool)
  /-- Another message is decrypted and its session stored. -/
  | ratchet (address : ProtocolAddress)
  | handled
  /-- A session is read. -/
  | load (address : ProtocolAddress)
  /-- Another task stores a session. -/
  | putSession (address : ProtocolAddress)
  /-- An upload stores a prekey. -/
  | storePreKey (preKey : UInt32) (row : PreKeyRow)
  | stop

/-- A `<message>` that the loop has received. -/
def IsMessage (r : Recv) : Prop :=
  ∃ n postPairReconnect, r = .event (.node n) postPairReconnect ∧ n.tag = "message"

variable [WacoreBinary]

/-- The steps of the update stream on the session store, and of what runs beside it. -/
inductive ConsumeStep (contentAsString : Node → Option String) :
    ConsumeState → ConsumeAction → ConsumeState → Prop where
  | recvMessage {s : ConsumeState} {r : Recv} :
      s.phase = .idle → s.loop.ended = false → IsMessage r →
      ConsumeStep contentAsString s (.recv r)
        { s with loop := s.loop.step contentAsString r, phase := .handling }
  | recv {s : ConsumeState} {r : Recv} :
      s.phase = .idle → ¬ IsMessage r →
      (s.loop.step contentAsString r).flushes = s.loop.flushes →
      ConsumeStep contentAsString s (.recv r)
        { s with loop := s.loop.step contentAsString r }
  /-- The event completes a hundred. -/
  | recvFlush {s : ConsumeState} {r : Recv} :
      s.phase = .idle → (s.loop.step contentAsString r).flushes ≠ s.loop.flushes →
      ConsumeStep contentAsString s (.recv r)
        { s.flush with loop := s.loop.step contentAsString r }
  | recvFlushFailed {s : ConsumeState} {r : Recv} (written : List ProtocolAddress) :
      s.phase = .idle → (s.loop.step contentAsString r).flushes ≠ s.loop.flushes →
      ConsumeStep contentAsString s (.recv r)
        { s.flushFailed written with loop := s.loop.step contentAsString r }
  | establish {s : ConsumeState} {preKey : UInt32} {address : ProtocolAddress} :
      s.phase = .handling → (s.preKeys preKey).isSome →
      ConsumeStep contentAsString s (.establish preKey address)
        { s.storeSession address with phase := .removing preKey address s.stored }
  | removed {s : ConsumeState} {preKey : UInt32} {address : ProtocolAddress} {session : Nat} :
      s.phase = .removing preKey address session →
      ConsumeStep contentAsString s (.removed true)
        { s.removePreKey preKey with
          phase := .handling
          consumed := ⟨preKey, address, session, s.process, false⟩ :: s.consumed }
  | removeFailed {s : ConsumeState} {preKey : UInt32} {address : ProtocolAddress} {session : Nat} :
      s.phase = .removing preKey address session →
      ConsumeStep contentAsString s (.removed false) { s with phase := .handling }
  | ratchet {s : ConsumeState} {address : ProtocolAddress} :
      s.phase = .handling →
      ConsumeStep contentAsString s (.ratchet address) (s.storeSession address)
  | handled {s : ConsumeState} :
      s.phase = .handling → ConsumeStep contentAsString s .handled { s with phase := .idle }
  | load {s : ConsumeState} {address : ProtocolAddress} :
      ConsumeStep contentAsString s (.load address)
        { s with sessions := s.sessions.load address }
  | putSession {s : ConsumeState} {address : ProtocolAddress} :
      ConsumeStep contentAsString s (.putSession address) (s.storeSession address)
  | storePreKey {s : ConsumeState} {preKey : UInt32} {row : PreKeyRow} :
      ConsumeStep contentAsString s (.storePreKey preKey row)
        { s with preKeys := Function.update s.preKeys preKey (some row) }
  | stop {s : ConsumeState} : ConsumeStep contentAsString s .stop s.restart

/-- The update stream starts with an empty cache, on any backend. -/
structure ConsumeState.Initial (s : ConsumeState) : Prop where
  loop : s.loop = .new
  phase : s.phase = .idle
  cache : ∀ k, s.sessions.cache k = none
  stored : ∀ k v, s.sessions.backing k = some v → v < s.stored
  consumed : s.consumed = []

/-- The runs of the update stream on the session store. -/
def preKeyConsumption (contentAsString : Node → Option String) :
    System ConsumeState ConsumeAction where
  init := ConsumeState.Initial
  step := ConsumeStep contentAsString

/-- Of a prekey that a message consumed and the backend no longer holds, the
backend holds the session that the message established, or a later one. -/
def ConsumeState.CrashConsistent (s : ConsumeState) : Prop :=
  ∀ c ∈ s.consumed, s.preKeys c.preKey = none → AtLeast c.session (s.sessions.backing c.address)

/-- Until the process stops it has the session that a message established, or a
later one, and once it has flushed the cache the backend does. -/
def ConsumeState.SessionsKept (s : ConsumeState) : Prop :=
  ∀ c ∈ s.consumed,
    (c.process = s.process → AtLeast c.session (s.sessions.view c.address)) ∧
    (c.flushed = true → AtLeast c.session (s.sessions.backing c.address))

/-! ## The invariant -/

structure ConsumeState.Inv (s : ConsumeState) : Prop where
  sound : s.sessions.Sound
  /-- Every record was stored before. -/
  stored : ∀ k v, s.sessions.view k = some v → v < s.stored
  removing : ∀ preKey address session, s.phase = .removing preKey address session →
    AtLeast session (s.sessions.view address)
  process : ∀ c ∈ s.consumed, c.process ≤ s.process
  kept : s.SessionsKept

variable {contentAsString : Node → Option String} {s t : ConsumeState} {a : ConsumeAction}
  {address : ProtocolAddress}

omit [WacoreBinary] in
/-- Growing stores keep the invariant, if the removal under way has its session. -/
theorem ConsumeState.Inv.of_grows (h : s.Inv) (hsound : t.sessions.Sound)
    (hgrows : Store.Grows s.sessions t.sessions)
    (hstored : ∀ k v, t.sessions.view k = some v → v < t.stored)
    (hremoving : ∀ preKey address session, t.phase = .removing preKey address session →
      AtLeast session (t.sessions.view address))
    (hprocess : t.process = s.process) (hconsumed : t.consumed = s.consumed) : t.Inv where
  sound := hsound
  stored := hstored
  removing := hremoving
  process := by rw [hprocess, hconsumed]; exact h.process
  kept := by
    intro c hc
    rw [hconsumed] at hc
    obtain ⟨hview, hbacking⟩ := h.kept c hc
    rw [hprocess]
    exact ⟨fun hp => hgrows.view _ _ (hview hp), fun hf => hgrows.backing _ _ (hbacking hf)⟩

omit [WacoreBinary] in
/-- The record that is stored next is later than what the store holds. -/
theorem ConsumeState.Inv.le_stored (h : s.Inv) (address : ProtocolAddress) :
    ∀ w, s.sessions.view address = some w → w ≤ s.stored :=
  fun w hw => Nat.le_of_lt (h.stored address w hw)

omit [WacoreBinary] in
theorem ConsumeState.Inv.view_storeSession_lt (h : s.Inv) :
    ∀ k v, (s.storeSession address).sessions.view k = some v →
      v < (s.storeSession address).stored := by
  intro k v hv
  simp only [ConsumeState.storeSession, view_put] at hv ⊢
  split at hv
  · cases hv
    exact Nat.lt_succ_self s.stored
  · exact Nat.lt_succ_of_lt (h.stored k v hv)

omit [WacoreBinary] in
theorem ConsumeState.Inv.storeSession (h : s.Inv) (address : ProtocolAddress) :
    (s.storeSession address).Inv := by
  have hgrows := grows_put (h.le_stored address)
  refine h.of_grows (h.sound.put (h.le_stored address)) hgrows h.view_storeSession_lt ?_ rfl rfl
  intro preKey address' session hphase
  exact hgrows.view _ _ (h.removing preKey address' session hphase)

omit [WacoreBinary] in
/-- Reading and writing back changes no view. -/
theorem ConsumeState.Inv.of_view (h : s.Inv) (hsound : t.sessions.Sound)
    (hgrows : Store.Grows s.sessions t.sessions) (hview : t.sessions.view = s.sessions.view)
    (hstored : t.stored = s.stored) (hphase : t.phase = s.phase)
    (hprocess : t.process = s.process) (hconsumed : t.consumed = s.consumed) : t.Inv := by
  refine h.of_grows hsound hgrows ?_ ?_ hprocess hconsumed
  · rw [hview, hstored]
    exact h.stored
  · rw [hview, hphase]
    exact h.removing

omit [WacoreBinary] in
theorem ConsumeState.Inv.flush (h : s.Inv) : s.flush.Inv where
  sound := h.sound.flush
  stored k v hv := h.stored k v (by rwa [ConsumeState.flush, view_flush] at hv)
  removing preKey address session hphase := by
    rw [ConsumeState.flush, view_flush]
    exact h.removing preKey address session hphase
  process := by
    intro c' hc'
    obtain ⟨c, hc, rfl⟩ := List.mem_map.mp hc'
    exact h.process c hc
  kept := by
    intro c' hc'
    obtain ⟨c, hc, rfl⟩ := List.mem_map.mp hc'
    obtain ⟨hview, hbacking⟩ := h.kept c hc
    have hgrows := h.sound.grows_flush
    constructor
    · intro hp
      exact hgrows.view _ _ (hview hp)
    · intro hf
      rcases Bool.or_eq_true_iff.mp hf with hf | hp
      · exact hgrows.backing _ _ (hbacking hf)
      · simp only [ConsumeState.flush, h.sound.backing_flush]
        exact hview (of_decide_eq_true hp)

omit [WacoreBinary] in
theorem ConsumeState.Inv.flushFailed (h : s.Inv) (written : List ProtocolAddress) :
    (s.flushFailed written).Inv := by
  obtain ⟨hsound, hgrows⟩ := h.sound.foldl_writeBack written
  refine h.of_view hsound hgrows ?_ rfl rfl rfl rfl
  funext k
  exact view_foldl_writeBack written

omit [WacoreBinary] in
/-- A restart takes every session back to what the backend holds; what was
consumed before it belongs to an earlier process. -/
theorem ConsumeState.Inv.restart (h : s.Inv) : s.restart.Inv where
  sound := sound_restart
  stored k v hv := by
    obtain ⟨w, hw, hvw⟩ := h.sound.ahead k v hv
    exact Nat.lt_of_le_of_lt hvw (h.stored k w hw)
  removing := nofun
  process c hc := Nat.le_succ_of_le (h.process c hc)
  kept c hc := by
    constructor
    · intro hp
      have hle := h.process c hc
      simp only [ConsumeState.restart] at hp
      omega
    · exact (h.kept c hc).2

omit [WacoreBinary] in
theorem ConsumeState.Initial.inv (h : s.Initial) : s.Inv where
  sound := sound_of_empty h.cache
  stored k v hv := h.stored k v (by rwa [view, h.cache k] at hv)
  removing := by simp [h.phase]
  process := by simp [h.consumed]
  kept := by simp [ConsumeState.SessionsKept, h.consumed]

omit [WacoreBinary] in
/-- A message that is not between its two calls has no removal under way. -/
theorem ConsumeState.Inv.of_phase (h : s.Inv) (hsessions : t.sessions = s.sessions)
    (hstored : t.stored = s.stored)
    (hphase : ∀ preKey address session, t.phase = .removing preKey address session →
      s.phase = .removing preKey address session)
    (hprocess : t.process = s.process) (hconsumed : t.consumed = s.consumed) : t.Inv := by
  refine h.of_grows (by rw [hsessions]; exact h.sound) (by rw [hsessions]; exact .refl _)
    (by rw [hsessions, hstored]; exact h.stored) ?_ hprocess hconsumed
  intro preKey address session ht
  rw [hsessions]
  exact h.removing preKey address session (hphase preKey address session ht)

/-- Every step keeps the invariant. -/
theorem ConsumeStep.inv (hstep : ConsumeStep contentAsString s a t) (h : s.Inv) : t.Inv := by
  cases hstep with
  | recvMessage _ _ _ => exact h.of_phase rfl rfl nofun rfl rfl
  | recv _ _ _ => exact h.of_phase rfl rfl (fun _ _ _ hp => hp) rfl rfl
  | recvFlush _ _ => exact h.flush.of_phase rfl rfl (fun _ _ _ hp => hp) rfl rfl
  | recvFlushFailed written _ _ =>
      exact (h.flushFailed written).of_phase rfl rfl (fun _ _ _ hp => hp) rfl rfl
  | @establish preKey address _ _ =>
      have hstored := h.storeSession address
      refine hstored.of_grows hstored.sound (.refl _) hstored.stored ?_ rfl rfl
      rintro _ _ _ ⟨⟩
      exact ⟨s.stored, by simp [ConsumeState.storeSession, view_put], le_refl _⟩
  | @removed preKey address session hphase =>
      have hsession := h.removing preKey address session hphase
      constructor
      · exact h.sound
      · exact h.stored
      · exact nofun
      · intro c hc
        rcases List.mem_cons.mp hc with rfl | hc
        · exact le_refl _
        · exact h.process c hc
      · intro c hc
        rcases List.mem_cons.mp hc with rfl | hc
        · exact ⟨fun _ => hsession, nofun⟩
        · exact h.kept c hc
  | removeFailed _ => exact h.of_phase rfl rfl nofun rfl rfl
  | ratchet _ => exact h.storeSession _
  | handled _ => exact h.of_phase rfl rfl nofun rfl rfl
  | load =>
      refine h.of_view h.sound.load grows_load ?_ rfl rfl rfl rfl
      funext k
      exact view_load
  | putSession => exact h.storeSession _
  | storePreKey => exact h.of_phase rfl rfl (fun _ _ _ hp => hp) rfl rfl
  | stop => exact h.restart

/-- In every run: while the process lives that consumed a prekey, its session
store has the session that the message established or a later one, and once that
process has flushed the cache the backend has it, whatever happens after. -/
theorem consumed_session_kept {as : List ConsumeAction}
    (h : (preKeyConsumption contentAsString).Run as s) : s.SessionsKept := by
  have hinv : s.Inv :=
    h.invariant (I := ConsumeState.Inv) (fun _ => ConsumeState.Initial.inv)
      fun _ _ _ hi hstep => ConsumeStep.inv hstep hi
  exact hinv.kept

/-! ## A lost session -/

/-- The address of a contact. -/
def aliceAddress : ProtocolAddress := ⟨"alice@s.whatsapp.net", 0⟩

/-- A client whose backend holds one prekey. -/
def lostSessionStart : ConsumeState where
  loop := .new
  phase := .idle
  sessions := { cache := fun _ => none, backing := fun _ => none }
  preKeys := Function.update (fun _ => none) 7777 (some ⟨⟨1, 2⟩, true⟩)
  stored := 0
  process := 0
  consumed := []

/-- It decrypts the first message of the contact. -/
def lostSessionRun : List ConsumeAction :=
  [.recv (.event (.node (.mk "message" [] none)) false), .establish 7777 aliceAddress,
    .removed true]

omit [WacoreBinary] in
theorem run_lostSessionRun :
    letI := plainWacore
    ∃ s, (preKeyConsumption fun _ => none).Run lostSessionRun s ∧
      s.consumed = [⟨7777, aliceAddress, 0, 0, false⟩] ∧ s.process = 0 ∧
      s.preKeys 7777 = none ∧ s.sessions.backing aliceAddress = none := by
  let _ := plainWacore
  have hstep : ∀ {s : ConsumeState} (a : ConsumeAction) {t : ConsumeState},
      ConsumeStep (fun _ => none) s a t → (preKeyConsumption fun _ => none).step s a t :=
    fun _ _ h => h
  have h0 : (preKeyConsumption fun _ => none).Run [] lostSessionStart :=
    .start ⟨rfl, rfl, fun _ => rfl, nofun, rfl⟩
  have h1 := h0.tail (hstep _ (.recvMessage rfl rfl ⟨.mk "message" [] none, false, rfl, rfl⟩))
  have h2 := h1.tail (hstep (.establish 7777 aliceAddress) (.establish rfl rfl))
  have h3 := h2.tail (hstep (.removed true) (.removed rfl))
  exact ⟨_, h3, rfl, rfl, rfl, rfl⟩

omit [WacoreBinary] in
/-- The process may stop after the backend lost a prekey and before it holds the
session. -/
theorem lost_session :
    letI := plainWacore
    ¬ ∀ as s, (preKeyConsumption fun _ => none).Run as s → s.CrashConsistent := by
  let _ := plainWacore
  intro h
  obtain ⟨s, hrun, hconsumed, -, hpreKey, hbacking⟩ := run_lostSessionRun
  obtain ⟨w, hw, -⟩ := h _ s hrun ⟨7777, aliceAddress, 0, 0, false⟩ (by simp [hconsumed]) hpreKey
  rw [hbacking] at hw
  cases hw

omit [WacoreBinary] in
/-- The running process still has it. -/
theorem lost_session_cached :
    letI := plainWacore
    ∃ s, (preKeyConsumption fun _ => none).Run lostSessionRun s ∧
      AtLeast 0 (s.sessions.view aliceAddress) := by
  let _ := plainWacore
  obtain ⟨s, hrun, hconsumed, hprocess, -⟩ := run_lostSessionRun
  have hkept := consumed_session_kept hrun ⟨7777, aliceAddress, 0, 0, false⟩ (by simp [hconsumed])
  exact ⟨s, hrun, hkept.1 hprocess.symm⟩

end Waepic.Client
