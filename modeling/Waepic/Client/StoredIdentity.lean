import Waepic.Client.PairSuccess
import Waepic.Session.SignalRecords

/-!
# Signal records and the stored identity

The device and the Signal records of a SQLite session are in different tables.
`clear_device` and `create` touch the device only, and `save` puts the device of
a pairing over any other, so the records of an older device stay when a new one
is stored.  `load_or_create_device` takes a signed prekey that it finds under the
id of the device for that of the device, whichever device stored it.

A client's runs are modelled by the operations on the session, each one step, and
what the client keeps between them.  `storedAt` and `createdAt` are the times of
the history: they change no step but the draw of an identity key, which is new.

The records belong to the stored device in every run in which a device is stored
only where no record is older, and `load_or_create_device` finds no signed prekey
but its own (`signal_records_belong_iff`).
-/

namespace Waepic.Client

open Binary Connection Transition Session Statements

/-! ## The client -/

/-- Where a call is that reloads the device. -/
inductive LoadStage (ρ : Type) where
  /-- `session.load()` returned. -/
  | loaded (device : Option (PairingDevice ρ))
  /-- It holds the lock of the device. -/
  | checking
  /-- It found no signed prekey. -/
  | storing
  /-- `load_or_create_device` returned `Ok`. -/
  | returned

/-- Where a pairing is. -/
inductive PairingStage (ρ : Type) where
  /-- It has the device that a pair-success pairs. -/
  | waiting (device : PairingDevice ρ)
  /-- It has a clone with the new secret. -/
  | rotated (device : PairingDevice ρ)
  | saved (device : PairingDevice ρ)

def PairingStage.device {ρ : Type} : PairingStage ρ → PairingDevice ρ
  | waiting device | rotated device | saved device => device

structure SignalClient (ρ : Type) where
  session : SqliteSession
  /-- The device in memory. -/
  memory : PairingDevice ρ
  loads : Nat → Option (LoadStage ρ)
  pairings : Nat → Option (PairingStage ρ)
  /-- The time of the next creation or store. -/
  time : Nat
  /-- When the record of a key was stored last. -/
  storedAt : SignalKey → Nat
  /-- When the device with an identity key was created. -/
  createdAt : KeyPair → Option Nat

/-- `α` is what a call returns. -/
inductive SignalAction (ι ρ' ρ : Type) where
  /-- `Client::connect`; `Device::new()` gives the device. -/
  | connect (new : PairingDevice ρ)
  /-- An operation on the Signal state, the app state, the protocol state or the secrets. -/
  | call {α : Type} (op : StoreOp ι ρ' α) (ok : Bool)
  /-- An operation on the LID mappings, the chats or the contacts. -/
  | other
  | create (new : PairingDevice ρ) (ok : Bool)
  | clearDevice (ok : Bool)
  | load (c : Nat) (ok : Bool)
  /-- `load_or_create_device` takes the lock. -/
  | lock (c : Nat)
  /-- `run_post_connect_init` puts the device in memory. -/
  | overwrite (c : Nat)
  | check (c : Nat) (ok : Bool)
  | storeSigned (c : Nat) (now : Int) (ok : Bool)
  | requestPairing (p : Nat) (ok : Bool)
  /-- The pair-success of a pairing by code. -/
  | clone (p : Nat)
  /-- The second stage of a pairing by code. -/
  | rotate (p : Nat) (secret : Bytes)
  | save (p : Nat) (n : Node) (ok : Bool)
  | storePaired (p : Nat) (now : Int) (ok : Bool)

namespace SignalClient

variable {ρ : Type}

/-- A client with an empty database. -/
def new (device : PairingDevice ρ) : SignalClient ρ where
  session := .new
  memory := device
  loads _ := none
  pairings _ := none
  time := 1
  storedAt _ := 0
  createdAt := Function.update (fun _ => none) device.identityKey (some 0)

/-- The lock of the device is free. -/
def Unlocked (s : SignalClient ρ) : Prop :=
  ∀ c, s.loads c ≠ some .checking ∧ s.loads c ≠ some .storing

/-- `Device::new()` gave the device. -/
def created (s : SignalClient ρ) (device : PairingDevice ρ) : SignalClient ρ :=
  { s with
    createdAt := Function.update s.createdAt device.identityKey (some s.time)
    time := s.time + 1 }

/-- A record of the key was stored. -/
def stored (s : SignalClient ρ) (k : SignalKey) : SignalClient ρ :=
  { s with storedAt := Function.update s.storedAt k s.time, time := s.time + 1 }

def setLoad (s : SignalClient ρ) (c : Nat) (stage : Option (LoadStage ρ)) : SignalClient ρ :=
  { s with loads := Function.update s.loads c stage }

def setPairing (s : SignalClient ρ) (p : Nat) (stage : Option (PairingStage ρ)) :
    SignalClient ρ :=
  { s with pairings := Function.update s.pairings p stage }

end SignalClient

/-- What is found after an update was put there, or was there before. -/
theorem of_update_eq_some {κ ν : Type} [DecidableEq κ] {f : κ → Option ν} {k j : κ}
    {o : Option ν} {v : ν}
    (h : Function.update f k o j = some v) : o = some v ∨ f j = some v := by
  by_cases hj : j = k
  · rw [hj, Function.update_self] at h
    exact .inl h
  · rw [Function.update_of_ne hj] at h
    exact .inr h

variable [WacoreBinary] {ι ρ' ρ : Type} [Inhabited ι]

/-- A step of the client.  An operation on the session ends in `t`, with `Ok` or an error. -/
inductive SignalStep (w : PairWacore) (codecs : Codecs ι ρ')
    (codec : JsonCodec (PairingDevice ρ)) :
    SignalClient ρ → SignalAction ι ρ' ρ → SignalClient ρ → Prop where
  | connect {s : SignalClient ρ} {new : PairingDevice ρ} :
      s.createdAt new.identityKey = none →
      SignalStep w codecs codec s (.connect new)
        { s.created new with memory := new, loads := fun _ => none, pairings := fun _ => none }
  | callWrites {s : SignalClient ρ} {α : Type} {op : StoreOp ι ρ' α} {k : SignalKey}
      {record : Blob} {a : α} {t : SqliteSession} :
      op.writes = some (k, record) → (op.run codecs).Yields s.session a t →
      SignalStep w codecs codec s (.call op true) { s.stored k with session := t }
  | call {s : SignalClient ρ} {α : Type} {op : StoreOp ι ρ' α} {r : Except StoreError α}
      {t : SqliteSession} :
      op.writes = none ∨ r.isOk = false → (op.run codecs).Ends s.session r t →
      SignalStep w codecs codec s (.call op r.isOk) { s with session := t }
  | other {s : SignalClient ρ} {t : SqliteSession} :
      t.record = s.session.record → t.device = s.session.device →
      SignalStep w codecs codec s .other { s with session := t }
  | create {s : SignalClient ρ} {new : PairingDevice ρ} {id : Int} {t : SqliteSession} :
      s.session.device = none → s.createdAt new.identityKey = none →
      (SqliteSession.create codec new).Yields s.session id t →
      SignalStep w codecs codec s (.create new true) { s.created new with session := t }
  | createKeeps {s : SignalClient ρ} {new : PairingDevice ρ} {r : Except StoreError Int}
      {t : SqliteSession} :
      s.session.device ≠ none ∨ r.isOk = false →
      (SqliteSession.create codec new).Ends s.session r t →
      SignalStep w codecs codec s (.create new r.isOk) { s with session := t }
  | clearDevice {s : SignalClient ρ} {r : Except StoreError Unit} {t : SqliteSession} :
      SqliteSession.clearDevice.Ends s.session r t →
      SignalStep w codecs codec s (.clearDevice r.isOk) { s with session := t }
  | load {s : SignalClient ρ} {c : Nat} {r : Except StoreError (Option (PairingDevice ρ))}
      {t : SqliteSession} :
      s.loads c = none → (SqliteSession.load codec).Ends s.session r t →
      SignalStep w codecs codec s (.load c r.isOk)
        { s.setLoad c (r.toOption.map .loaded) with session := t }
  | lock {s : SignalClient ρ} {c : Nat} {device : Option (PairingDevice ρ)} :
      s.loads c = some (.loaded device) → s.Unlocked →
      SignalStep w codecs codec s (.lock c)
        { s.setLoad c (some .checking) with memory := device.getD s.memory }
  | overwrite {s : SignalClient ρ} {c : Nat} {device : PairingDevice ρ} :
      s.loads c = some (.loaded (some device)) → s.Unlocked →
      SignalStep w codecs codec s (.overwrite c) { s.setLoad c none with memory := device }
  | checkFound {s : SignalClient ρ} {c : Nat} {record : Blob} {t : SqliteSession} :
      s.loads c = some .checking →
      (SignalKey.signedPrekey s.memory.signedPreKeyId).get.Yields s.session (some record) t →
      SignalStep w codecs codec s (.check c true) { s.setLoad c (some .returned) with session := t }
  | checkMissing {s : SignalClient ρ} {c : Nat} {t : SqliteSession} :
      s.loads c = some .checking →
      (SignalKey.signedPrekey s.memory.signedPreKeyId).get.Yields s.session none t →
      SignalStep w codecs codec s (.check c true) { s.setLoad c (some .storing) with session := t }
  | checkFailed {s : SignalClient ρ} {c : Nat} {e : StoreError} {t : SqliteSession} :
      s.loads c = some .checking →
      (SignalKey.signedPrekey s.memory.signedPreKeyId).get.Ends s.session (.error e) t →
      SignalStep w codecs codec s (.check c false) { s.setLoad c none with session := t }
  | storeSigned {s : SignalClient ρ} {c : Nat} {now : Int} {t : SqliteSession} :
      s.loads c = some .storing →
      (SqliteSession.storeSignedPrekey s.memory.signedPreKeyId
        (s.memory.signedPreKeyRecord w now)).Yields s.session () t →
      SignalStep w codecs codec s (.storeSigned c now true)
        { (s.stored (.signedPrekey s.memory.signedPreKeyId)).setLoad c (some .returned) with
          session := t }
  | storeSignedFailed {s : SignalClient ρ} {c : Nat} {now : Int} {e : StoreError}
      {t : SqliteSession} :
      s.loads c = some .storing →
      (SqliteSession.storeSignedPrekey s.memory.signedPreKeyId
        (s.memory.signedPreKeyRecord w now)).Ends s.session (.error e) t →
      SignalStep w codecs codec s (.storeSigned c now false)
        { s.setLoad c none with session := t }
  | requestPairing {s : SignalClient ρ} {p : Nat}
      {r : Except StoreError (Option (PairingDevice ρ))} {t : SqliteSession} :
      s.pairings p = none → (SqliteSession.load codec).Ends s.session r t →
      SignalStep w codecs codec s (.requestPairing p r.isOk)
        { s.setPairing p (r.toOption.join.map .waiting) with session := t }
  | clone {s : SignalClient ρ} {p : Nat} :
      s.pairings p = none → s.Unlocked →
      SignalStep w codecs codec s (.clone p) (s.setPairing p (some (.waiting s.memory)))
  | rotate {s : SignalClient ρ} {p : Nat} {secret : Bytes} :
      s.pairings p = none → s.Unlocked →
      SignalStep w codecs codec s (.rotate p secret)
        { s.setPairing p (some (.rotated { s.memory with advSecretKey := secret })) with
          memory := { s.memory with advSecretKey := secret } }
  | savePaired {s : SignalClient ρ} {p : Nat} {device : PairingDevice ρ} {n : Node}
      {r : Except StoreError Unit} {t : SqliteSession} :
      s.pairings p = some (.waiting device) →
      (SqliteSession.save codec (device.updated w n)).Ends s.session r t →
      SignalStep w codecs codec s (.save p n r.isOk)
        { s.setPairing p (r.toOption.map fun _ => .saved (device.updated w n)) with session := t }
  | saveRotated {s : SignalClient ρ} {p : Nat} {device : PairingDevice ρ} {n : Node}
      {r : Except StoreError Unit} {t : SqliteSession} :
      s.pairings p = some (.rotated device) →
      (SqliteSession.save codec device).Ends s.session r t →
      SignalStep w codecs codec s (.save p n r.isOk) { s.setPairing p none with session := t }
  | storePaired {s : SignalClient ρ} {p : Nat} {device : PairingDevice ρ} {now : Int}
      {t : SqliteSession} :
      s.pairings p = some (.saved device) →
      (SqliteSession.storeSignedPrekey device.signedPreKeyId
        (device.signedPreKeyRecord w now)).Yields s.session () t →
      SignalStep w codecs codec s (.storePaired p now true)
        { (s.stored (.signedPrekey device.signedPreKeyId)).setPairing p none with session := t }
  | storePairedFailed {s : SignalClient ρ} {p : Nat} {device : PairingDevice ρ} {now : Int}
      {e : StoreError} {t : SqliteSession} :
      s.pairings p = some (.saved device) →
      (SqliteSession.storeSignedPrekey device.signedPreKeyId
        (device.signedPreKeyRecord w now)).Ends s.session (.error e) t →
      SignalStep w codecs codec s (.storePaired p now false)
        { s.setPairing p none with session := t }

/-- The runs of a client on a SQLite session. -/
def signalClients (w : PairWacore) (codecs : Codecs ι ρ') (codec : JsonCodec (PairingDevice ρ)) :
    System (SignalClient ρ) (SignalAction ι ρ' ρ) where
  init s := ∃ device, s = .new device
  step := SignalStep w codecs codec

/-! ## Records of the stored device -/

namespace SignalClient

/-- The records were stored since the device was created. -/
def Fresh (s : SignalClient ρ) (device : PairingDevice ρ) : Prop :=
  ∀ k, s.session.record k ≠ none →
    ∃ created, s.createdAt device.identityKey = some created ∧ created ≤ s.storedAt k

/-- What the session returns of the Signal state was stored since the device that it
loads was created. -/
def Belongs (codec : JsonCodec (PairingDevice ρ)) (s : SignalClient ρ) : Prop :=
  ∀ device k record t u, (SqliteSession.load codec).Yields s.session (some device) t →
    k.get.Yields s.session (some record) u →
      ∃ created, s.createdAt device.identityKey = some created ∧ created ≤ s.storedAt k

/-- A signed prekey under the id of the device in memory is that of the device. -/
def OwnSignedPrekey (w : PairWacore) (s : SignalClient ρ) : Prop :=
  ∀ record t, (SignalKey.signedPrekey s.memory.signedPreKeyId).get.Yields s.session
    (some record) t → ∃ now, record = s.memory.signedPreKeyRecord w now

/-- `load_or_create_device` returns with the signed prekey of the device in memory. -/
def LeavesOwn (w : PairWacore) (s t : SignalClient ρ) : Prop :=
  ∀ c, t.loads c = some .returned → s.loads c ≠ some .returned →
    t.session.record (.signedPrekey t.memory.signedPreKeyId) ≠ none ∧ t.OwnSignedPrekey w

/-- A device is stored where no record is older than it, and
`load_or_create_device` finds no signed prekey but its own. -/
def StoresFresh (w : PairWacore) (s : SignalClient ρ) : SignalAction ι ρ' ρ → Prop
  | .create _ ok => ok = true → s.session.device = none → ∀ k, s.session.record k = none
  | .save p _ ok => ok = true → ∀ stage, s.pairings p = some stage → s.Fresh stage.device
  | .check _ ok => ok = true → s.OwnSignedPrekey w
  | _ => True

/-- A device with each of these identities was created. -/
structure Known (codec : JsonCodec (PairingDevice ρ)) (s : SignalClient ρ)
    (P : KeyPair → Prop) : Prop where
  memory : P s.memory.identityKey
  loads : ∀ c device, s.loads c = some (.loaded (some device)) → P device.identityKey
  pairings : ∀ p stage, s.pairings p = some stage → P stage.device.identityKey
  stored : ∀ text device, s.session.device = some text → codec.fromStr text = .ok device →
    P device.identityKey

/-- What the guarded steps keep. -/
structure Inv (codec : JsonCodec (PairingDevice ρ)) (s : SignalClient ρ) : Prop where
  storedAt_lt : ∀ k, s.session.record k ≠ none → s.storedAt k < s.time
  createdAt_lt : ∀ key created, s.createdAt key = some created → created < s.time
  known : s.Known codec fun key => s.createdAt key ≠ none
  fresh : ∀ text device, s.session.device = some text → codec.fromStr text = .ok device →
    s.Fresh device

end SignalClient

section Steps

variable {w : PairWacore} {codecs : Codecs ι ρ'} {codec : JsonCodec (PairingDevice ρ)}
  {s t : SignalClient ρ} {session : SqliteSession} {P Q : KeyPair → Prop} {a : SignalAction ι ρ' ρ}

namespace SignalClient

/-! ### Known identities -/

omit [WacoreBinary] in
theorem Known.mono (h : s.Known codec P) (hPQ : ∀ key, P key → Q key) : s.Known codec Q where
  memory := hPQ _ h.memory
  loads c device hload := hPQ _ (h.loads c device hload)
  pairings p stage hstage := hPQ _ (h.pairings p stage hstage)
  stored text device hrow htext := hPQ _ (h.stored text device hrow htext)

omit [WacoreBinary] in
theorem Known.setLoad {c : Nat} {stage : Option (LoadStage ρ)} (h : s.Known codec P)
    (hstage : ∀ device, stage = some (.loaded (some device)) → P device.identityKey) :
    (s.setLoad c stage).Known codec P where
  memory := h.memory
  loads c' device hload := (of_update_eq_some hload).elim (hstage device) (h.loads c' device)
  pairings := h.pairings
  stored := h.stored

omit [WacoreBinary] in
theorem Known.setPairing {p : Nat} {stage : Option (PairingStage ρ)} (h : s.Known codec P)
    (hstage : ∀ st, stage = some st → P st.device.identityKey) :
    (s.setPairing p stage).Known codec P where
  memory := h.memory
  loads := h.loads
  pairings p' st hst := (of_update_eq_some hst).elim (hstage st) (h.pairings p' st)
  stored := h.stored

/-! ### The parts of a step -/

omit [WacoreBinary] in
theorem inv_new (device : PairingDevice ρ) : (SignalClient.new device).Inv codec where
  storedAt_lt k h := by cases k <;> exact absurd rfl h
  createdAt_lt key created h := by
    have hupdate : Function.update (fun _ => none) device.identityKey (some 0) key =
      some created := h
    rcases of_update_eq_some hupdate with heq | hnone
    · cases heq
      exact Nat.zero_lt_one
    · cases hnone
  known := by
    refine ⟨?_, fun _ _ h => ?_, fun _ _ h => ?_, fun _ _ h => ?_⟩
    · simp [new]
    all_goals cases h
  fresh _ _ h := by cases h

omit [WacoreBinary] in
theorem Inv.setLoad {c : Nat} {stage : Option (LoadStage ρ)} (h : s.Inv codec)
    (hstage : ∀ device, stage = some (.loaded (some device)) →
      s.createdAt device.identityKey ≠ none) : (s.setLoad c stage).Inv codec :=
  { h with known := h.known.setLoad hstage }

omit [WacoreBinary] in
theorem Inv.setPairing {p : Nat} {stage : Option (PairingStage ρ)} (h : s.Inv codec)
    (hstage : ∀ st, stage = some st → s.createdAt st.device.identityKey ≠ none) :
    (s.setPairing p stage).Inv codec :=
  { h with known := h.known.setPairing hstage }

omit [WacoreBinary] in
theorem Inv.setMemory {device : PairingDevice ρ} (h : s.Inv codec)
    (hdevice : s.createdAt device.identityKey ≠ none) :
    SignalClient.Inv codec { s with memory := device } :=
  { h with known := { h.known with memory := hdevice } }

omit [WacoreBinary] in
/-- An operation that writes no record. -/
theorem Inv.noNewRecord (h : s.Inv codec) (hnew : NoNewRecord s.session session) :
    SignalClient.Inv codec { s with session := session } := by
  have hold : ∀ k, session.record k ≠ none → s.session.record k ≠ none := by
    intro k hk
    rcases hnew.record k with heq | hnone
    · rw [← heq]
      exact hk
    · exact absurd hnone hk
  refine ⟨fun k hk => h.storedAt_lt k (hold k hk), h.createdAt_lt, ?_, ?_⟩
  · refine { h.known with stored := fun text device hrow htext => ?_ }
    rw [hnew.device] at hrow
    exact h.known.stored text device hrow htext
  · intro text device hrow htext k hk
    rw [hnew.device] at hrow
    exact h.fresh text device hrow htext k (hold k hk)

omit [WacoreBinary] in
/-- A record that is written is newer than every device. -/
theorem Inv.stored {k : SignalKey} {record : Blob} (h : s.Inv codec)
    (hwrite : WritesRecord k record s.session session) :
    SignalClient.Inv codec { s.stored k with session := session } := by
  have hother : ∀ j, j ≠ k → session.record j ≠ none → s.session.record j ≠ none := by
    intro j hj hrecord
    rw [hwrite.record, Function.update_of_ne hj] at hrecord
    exact hrecord
  refine ⟨fun j hj => ?_, fun key created hkey => ?_, ?_, ?_⟩
  · show Function.update s.storedAt k s.time j < s.time + 1
    by_cases hjk : j = k
    · rw [hjk, Function.update_self]
      exact Nat.lt_succ_self _
    · rw [Function.update_of_ne hjk]
      exact Nat.lt_succ_of_lt (h.storedAt_lt j (hother j hjk hj))
  · exact Nat.lt_succ_of_lt (h.createdAt_lt key created hkey)
  · refine { h.known with stored := fun text device hrow htext => ?_ }
    rw [hwrite.device] at hrow
    exact h.known.stored text device hrow htext
  · intro text device hrow htext j hj
    rw [hwrite.device] at hrow
    show ∃ created, s.createdAt device.identityKey = some created ∧
      created ≤ Function.update s.storedAt k s.time j
    by_cases hjk : j = k
    · obtain ⟨created, hcreated⟩ :=
        Option.ne_none_iff_exists'.mp (h.known.stored text device hrow htext)
      rw [hjk, Function.update_self]
      exact ⟨created, hcreated, Nat.le_of_lt (h.createdAt_lt _ _ hcreated)⟩
    · rw [Function.update_of_ne hjk]
      exact h.fresh text device hrow htext j (hother j hjk hj)

omit [WacoreBinary] in
theorem created_self (s : SignalClient ρ) (device : PairingDevice ρ) :
    (s.created device).createdAt device.identityKey = some s.time :=
  Function.update_self ..

omit [WacoreBinary] in
/-- A new identity changes no time of the others. -/
theorem Inv.created {device : PairingDevice ρ} (h : s.Inv codec)
    (hnew : s.createdAt device.identityKey = none) : (s.created device).Inv codec := by
  have hold : ∀ key, s.createdAt key ≠ none →
      (s.created device).createdAt key = s.createdAt key := by
    intro key hkey
    refine Function.update_of_ne ?_ _ _
    rintro rfl
    exact hkey hnew
  refine ⟨fun k hk => Nat.lt_succ_of_lt (h.storedAt_lt k hk), fun key created hkey => ?_, ?_, ?_⟩
  · show created < s.time + 1
    rcases of_update_eq_some hkey with heq | hbefore
    · cases heq
      exact Nat.lt_succ_self _
    · exact Nat.lt_succ_of_lt (h.createdAt_lt key created hbefore)
  · have hknown : (s.created device).Known codec fun key => s.createdAt key ≠ none :=
      ⟨h.known.memory, h.known.loads, h.known.pairings, h.known.stored⟩
    refine hknown.mono fun key hkey => ?_
    rw [hold key hkey]
    exact hkey
  · intro text stored hrow htext k hk
    rw [hold _ (h.known.stored text stored hrow htext)]
    exact h.fresh text stored hrow htext k hk

omit [WacoreBinary] in
/-- A device is stored where no record is older. -/
theorem Inv.setDevice {device : PairingDevice ρ} {text : String} (h : s.Inv codec)
    (hknown : s.createdAt device.identityKey ≠ none) (hfresh : s.Fresh device)
    (htext : codec.toString device = .ok text) :
    SignalClient.Inv codec { s with session := { s.session with device := some text } } := by
  have hdevice : ∀ text' device', some text = some text' → codec.fromStr text' = .ok device' →
      device' = device := by
    intro text' device' hrow hdecode
    cases hrow
    rw [codec.fromStr_toString htext] at hdecode
    cases hdecode
    rfl
  refine ⟨h.storedAt_lt, h.createdAt_lt, ?_, ?_⟩
  · refine { h.known with stored := fun text' device' hrow hdecode => ?_ }
    rw [hdevice text' device' hrow hdecode]
    exact hknown
  · intro text' device' hrow hdecode
    rw [hdevice text' device' hrow hdecode]
    exact hfresh

omit [WacoreBinary] in
/-- Without a device nothing belongs to one. -/
theorem Inv.clearDevice (h : s.Inv codec) :
    SignalClient.Inv codec { s with session := { s.session with device := none } } := by
  refine ⟨h.storedAt_lt, h.createdAt_lt, ?_, fun _ _ hrow => nomatch hrow⟩
  exact { h.known with stored := fun _ _ hrow => nomatch hrow }

omit [WacoreBinary] in
/-- A loaded device is the stored one. -/
theorem Inv.loaded {device : PairingDevice ρ} {u : SqliteSession} (h : s.Inv codec)
    (hload : (SqliteSession.load codec).Yields s.session (some device) u) :
    s.createdAt device.identityKey ≠ none := by
  rcases load_yields hload with ⟨text, d, hrow, htext, hd⟩ | ⟨-, hd⟩
  · cases hd
    exact h.known.stored text device hrow htext
  · cases hd

omit [WacoreBinary] in
theorem Inv.belongs (h : s.Inv codec) : s.Belongs codec := by
  intro device k record t u hload hget
  obtain ⟨hrecord, -⟩ := get_yields hget
  rcases load_yields hload with ⟨text, d, hrow, htext, hd⟩ | ⟨-, hd⟩
  · cases hd
    exact h.fresh text device hrow htext k (by rw [← hrecord]; exact Option.some_ne_none record)
  · cases hd

end SignalClient

/-! ### Every guarded step -/

theorem SignalClient.Inv.step (h : s.Inv codec) (hguard : s.StoresFresh w a)
    (hstep : SignalStep w codecs codec s a t) : t.Inv codec := by
  cases hstep with
  | @connect new hnew =>
      have hcreated := h.created hnew
      have hknown : (s.created new).createdAt new.identityKey ≠ none := by
        rw [SignalClient.created_self]
        exact Option.some_ne_none _
      refine { hcreated with known := ⟨hknown, ?_, ?_, hcreated.known.stored⟩ }
      · exact fun _ _ hload => nomatch hload
      · exact fun _ _ hstage => nomatch hstage
  | callWrites hop hyields =>
      rcases StoreOp.writes_ends hop hyields with ⟨⟨e, he⟩, -⟩ | ⟨-, hwrite⟩
      · cases he
      · exact h.stored hwrite
  | @call _ op r session hop hends =>
      cases hwrites : op.writes with
      | none => exact h.noNewRecord (StoreOp.keeps_records hwrites _ _ _ hends)
      | some written =>
          rcases StoreOp.writes_ends hwrites hends with ⟨-, rfl⟩ | ⟨hok, -⟩
          · exact h
          · rw [hwrites, hok] at hop
            simp at hop
  | other hrecord hdevice => exact h.noNewRecord (.of_eq hrecord hdevice)
  | @create new id session hnone hnew hyields =>
      rcases create_ends hyields with ⟨-, -, text, htext, rfl⟩ | ⟨-, hfailed⟩
      · refine (h.created hnew).setDevice ?_ ?_ htext
        · rw [SignalClient.created_self]
          exact Option.some_ne_none _
        · exact fun k hk => absurd (hguard rfl hnone k) hk
      · obtain ⟨e, he⟩ := hfailed hnone
        cases he
  | createKeeps hkeeps hends =>
      rcases create_ends hends with ⟨rfl, hnone, -⟩ | ⟨rfl, -⟩
      · rcases hkeeps with hsome | herror
        · exact absurd hnone hsome
        · cases herror
      · exact h
  | clearDevice hends =>
      rcases hends.execute with ⟨-, rfl⟩ | ⟨-, rfl⟩
      · exact h
      · exact h.clearDevice
  | @load c r session _ hends =>
      obtain rfl := load_keeps _ _ _ hends
      refine h.setLoad fun device hstage => ?_
      cases r with
      | error e => cases hstage
      | ok o =>
          cases hstage
          exact h.loaded hends
  | @lock c device hload _ =>
      have hset : (s.setLoad c (some .checking)).Inv codec :=
        h.setLoad fun _ hstage => nomatch hstage
      refine hset.setMemory ?_
      cases device with
      | none => exact h.known.memory
      | some device => exact h.known.loads c device hload
  | @overwrite c device hload _ =>
      have hset : (s.setLoad c none).Inv codec := h.setLoad fun _ hstage => nomatch hstage
      exact hset.setMemory (h.known.loads c device hload)
  | checkFound _ hyields | checkMissing _ hyields =>
      obtain ⟨-, rfl⟩ := get_yields hyields
      exact h.setLoad fun _ hstage => nomatch hstage
  | checkFailed _ hends =>
      obtain rfl := get_keeps _ _ _ _ hends
      exact h.setLoad fun _ hstage => nomatch hstage
  | storeSigned _ hyields =>
      rcases storeSignedPrekey_ends hyields with ⟨⟨e, he⟩, -⟩ | ⟨-, hwrite⟩
      · cases he
      · exact (h.stored hwrite).setLoad fun _ hstage => nomatch hstage
  | storeSignedFailed _ hends =>
      rcases storeSignedPrekey_ends hends with ⟨-, rfl⟩ | ⟨hok, -⟩
      · exact h.setLoad fun _ hstage => nomatch hstage
      · cases hok
  | @requestPairing p r session _ hends =>
      obtain rfl := load_keeps _ _ _ hends
      refine h.setPairing fun stage hstage => ?_
      match r, hstage with
      | .ok (some device), hstage =>
          cases hstage
          exact h.loaded hends
  | clone _ _ =>
      refine h.setPairing fun stage hstage => ?_
      cases hstage
      exact h.known.memory
  | rotate _ _ =>
      refine (h.setPairing fun stage hstage => ?_).setMemory h.known.memory
      cases hstage
      exact h.known.memory
  | @savePaired p device n r session hstage hends =>
      have hdevice : s.createdAt (device.updated w n).identityKey ≠ none :=
        h.known.pairings p _ hstage
      rcases save_ends hends with ⟨⟨e, rfl⟩, rfl⟩ | ⟨rfl, text, htext, rfl⟩
      · exact h.setPairing fun _ hnone => nomatch hnone
      · -- The updated device has the identity of the one that waits.
        have hfresh : s.Fresh (device.updated w n) := hguard rfl _ hstage
        refine (h.setDevice hdevice hfresh htext).setPairing fun stage hsaved => ?_
        cases hsaved
        exact hdevice
  | @saveRotated p device n r session hstage hends =>
      rcases save_ends hends with ⟨-, rfl⟩ | ⟨rfl, text, htext, rfl⟩
      · exact h.setPairing fun _ hnone => nomatch hnone
      · refine (h.setDevice (h.known.pairings p _ hstage) (hguard rfl _ hstage) htext).setPairing ?_
        exact fun _ hnone => nomatch hnone
  | storePaired _ hyields =>
      rcases storeSignedPrekey_ends hyields with ⟨⟨e, he⟩, -⟩ | ⟨-, hwrite⟩
      · cases he
      · exact (h.stored hwrite).setPairing fun _ hnone => nomatch hnone
  | storePairedFailed _ hends =>
      rcases storeSignedPrekey_ends hends with ⟨-, rfl⟩ | ⟨hok, -⟩
      · exact h.setPairing fun _ hnone => nomatch hnone
      · cases hok

/-! ### The guard is exact -/

/-- `load_or_create_device` returns when it finds a signed prekey, or stores its own. -/
theorem returned_cases {c : Nat} (hstep : SignalStep w codecs codec s a t)
    (ht : t.loads c = some .returned) (hs : s.loads c ≠ some .returned) :
    (a = .check c true ∧ t.memory = s.memory ∧ t.session = s.session ∧
      s.session.record (.signedPrekey s.memory.signedPreKeyId) ≠ none) ∨
    ∃ now, t.memory = s.memory ∧ t.session.record (.signedPrekey s.memory.signedPreKeyId) =
      some (s.memory.signedPreKeyRecord w now) := by
  cases hstep with
  | connect _ => cases ht
  | callWrites _ _ | call _ _ | other _ _ | create _ _ _ | createKeeps _ _ | clearDevice _
  | requestPairing _ _ | clone _ _ | rotate _ _ | savePaired _ _ | saveRotated _ _
  | storePaired _ _ | storePairedFailed _ _ => exact absurd ht hs
  | load _ _ =>
      rcases of_update_eq_some ht with hstage | hbefore
      · obtain ⟨_, -, hloaded⟩ := Option.map_eq_some_iff.mp hstage
        cases hloaded
      · exact absurd hbefore hs
  | lock _ _ | overwrite _ _ | checkMissing _ _ | checkFailed _ _ | storeSignedFailed _ _ =>
      rcases of_update_eq_some ht with hstage | hbefore
      · cases hstage
      · exact absurd hbefore hs
  | @checkFound c' record _ _ hyields =>
      by_cases hc : c = c'
      · subst hc
        obtain ⟨hrecord, rfl⟩ := get_yields hyields
        refine .inl ⟨rfl, rfl, rfl, ?_⟩
        rw [← hrecord]
        exact Option.some_ne_none _
      · have hother : Function.update s.loads c' (some .returned) c = some .returned := ht
        rw [Function.update_of_ne hc] at hother
        exact absurd hother hs
  | @storeSigned _ now _ _ hyields =>
      rcases storeSignedPrekey_ends hyields with ⟨⟨e, he⟩, -⟩ | ⟨-, hwrite⟩
      · cases he
      · refine .inr ⟨now, rfl, ?_⟩
        show SqliteSession.record _ _ = _
        rw [hwrite.record, Function.update_self]

theorem leavesOwn_of_guard (hguard : s.StoresFresh w a) (hstep : SignalStep w codecs codec s a t) :
    s.LeavesOwn w t := by
  intro c ht hs
  rcases returned_cases hstep ht hs with ⟨rfl, hmemory, hsession, hfound⟩ | ⟨now, hmemory, hown⟩
  · have hown := hguard rfl
    unfold SignalClient.OwnSignedPrekey at hown ⊢
    rw [hmemory, hsession]
    exact ⟨hfound, hown⟩
  · unfold SignalClient.OwnSignedPrekey
    rw [hmemory, hown]
    refine ⟨Option.some_ne_none _, fun record u hget => ?_⟩
    obtain ⟨hrecord, -⟩ := get_yields hget
    rw [hown] at hrecord
    cases hrecord
    exact ⟨now, rfl⟩

omit [WacoreBinary] in
/-- What belongs to a stored device is not older than it. -/
theorem SignalClient.Belongs.fresh {device : PairingDevice ρ} {text : String}
    (h : s.Belongs codec) (hrow : s.session.device = some text)
    (htext : codec.toString device = .ok text) : s.Fresh device := by
  intro k hk
  obtain ⟨record, hrecord⟩ := Option.ne_none_iff_exists'.mp hk
  have hget := yields_get s.session k
  rw [hrecord] at hget
  exact h device k record _ _ (yields_load hrow (codec.fromStr_toString htext)) hget

/-- After a step that does not meet the guard, a record does not belong to the stored
device, or `load_or_create_device` left the signed prekey of another. -/
theorem guard_of_belongs (h : s.Inv codec) (hstep : SignalStep w codecs codec s a t)
    (hbelongs : t.Belongs codec) (hown : s.LeavesOwn w t) : s.StoresFresh w a := by
  cases hstep with
  | @create new id session hnone hnew hyields =>
      rintro - - k
      by_contra hk
      rcases create_ends hyields with ⟨-, -, text, htext, rfl⟩ | ⟨-, hfailed⟩
      · obtain ⟨created, hcreated, hle⟩ := hbelongs.fresh rfl htext k hk
        rw [show created = s.time from by
          have hself := SignalClient.created_self s new
          exact Option.some.inj (hcreated.symm.trans hself)] at hle
        exact absurd (h.storedAt_lt k hk) (Nat.not_lt.mpr hle)
      · obtain ⟨e, he⟩ := hfailed hnone
        cases he
  | createKeeps hkeeps hends =>
      intro hok hnone
      rcases hkeeps with hsome | herror
      · exact absurd hnone hsome
      · rw [herror] at hok
        cases hok
  | @savePaired p device n r session hstage hends =>
      intro hok stage hst
      cases hstage.symm.trans hst
      rcases save_ends hends with ⟨⟨e, rfl⟩, -⟩ | ⟨rfl, text, htext, rfl⟩
      · cases hok
      · -- The records of a session do not depend on its device.
        exact (hbelongs.fresh rfl htext : SignalClient.Fresh _ (device.updated w n))
  | @saveRotated p device n r session hstage hends =>
      intro hok stage hst
      cases hstage.symm.trans hst
      rcases save_ends hends with ⟨⟨e, rfl⟩, -⟩ | ⟨rfl, text, htext, rfl⟩
      · cases hok
      · exact hbelongs.fresh rfl htext
  | @checkFound c record session hchecking hyields =>
      intro _
      obtain ⟨-, rfl⟩ := get_yields hyields
      exact (hown c (Function.update_self ..) (by rw [hchecking]; nofun)).2
  | checkMissing hchecking hyields =>
      intro _ record u hget
      obtain ⟨hnone, -⟩ := get_yields hyields
      obtain ⟨hsome, -⟩ := get_yields hget
      cases hsome.trans hnone.symm
  | checkFailed _ _ => exact fun hok => nomatch hok
  | _ => trivial

/-- In every run in which a device is stored only where no record is older, and
`load_or_create_device` finds no signed prekey but its own, what the session
returns of the Signal state was stored since the device it loads was created, and
`load_or_create_device` leaves its own signed prekey.  A step that does not meet
the condition ends this. -/
theorem signal_records_belong_iff (w : PairWacore) (codecs : Codecs ι ρ')
    (codec : JsonCodec (PairingDevice ρ)) (as : List (SignalAction ι ρ' ρ)) (s : SignalClient ρ)
    (hrun : ((signalClients w codecs codec).restrict fun s a => s.StoresFresh w a).Run as s) :
    s.Belongs codec ∧ ∀ a t, SignalStep w codecs codec s a t →
      (s.StoresFresh w a ↔ t.Belongs codec ∧ s.LeavesOwn w t) := by
  have hinv : s.Inv codec := by
    refine hrun.invariant (I := fun s => SignalClient.Inv codec s) ?_ ?_
    · rintro s ⟨device, rfl⟩
      exact SignalClient.inv_new device
    · exact fun s a t hs hstep => hs.step hstep.2 hstep.1
  refine ⟨hinv.belongs, fun a t hstep => ⟨fun hguard => ?_, fun hafter => ?_⟩⟩
  · exact ⟨(hinv.step hguard hstep).belongs, leavesOwn_of_guard hguard hstep⟩
  · exact guard_of_belongs hinv hstep hafter.1 hafter.2

end Steps

/-! ## A second device -/

deriving instance DecidableEq for DeviceState, PairingDevice

/-- An unpaired device with an identity key of its own. -/
def deviceOf (n : Nat) : PairingDevice Unit := { unpairedDevice with identityKey := ⟨n, n⟩ }

/-- A codec for two devices. -/
def twoDevices : JsonCodec (PairingDevice Unit) where
  toString device :=
    if device = deviceOf 0 then .ok "0"
    else if device = deviceOf 1 then .ok "1"
    else .error "unknown device"
  fromStr text := .ok (deviceOf (if text = "0" then 0 else 1))
  fromStr_toString := by
    intro device text h
    split at h
    · next hdevice =>
        cases h
        rw [hdevice, if_pos rfl]
    · split at h
      · next hdevice =>
          cases h
          rw [hdevice, if_neg (by decide)]
      · cases h

/-- A database with the device of an identity. -/
def storedSession (n : Nat) : SqliteSession :=
  { SqliteSession.new with device := some (if n = 0 then "0" else "1") }

omit [WacoreBinary] in
/-- A device is created and `load_or_create_device` stores its signed prekey. -/
theorem signal_records_belong_loaded :
    letI := plainWacore
    ∃ (as : List (SignalAction Unit Unit Unit)) (s : SignalClient Unit),
      ((signalClients acceptingWacore userCodecs twoDevices).restrict fun s a =>
        s.StoresFresh acceptingWacore a).Run as s ∧
      s.session.record (.signedPrekey 1) = some [] ∧ s.Belongs twoDevices := by
  let _ := plainWacore
  have hstep : ∀ {as s} (_ : ((signalClients acceptingWacore userCodecs twoDevices).restrict
      fun s a => s.StoresFresh acceptingWacore a).Run as s) (a : SignalAction Unit Unit Unit) {t},
      SignalStep acceptingWacore userCodecs twoDevices s a t → s.StoresFresh acceptingWacore a →
      ((signalClients acceptingWacore userCodecs twoDevices).restrict
        fun s a => s.StoresFresh acceptingWacore a).step s a t := fun _ _ _ h hguard => ⟨h, hguard⟩
  have hcreate : (SqliteSession.create twoDevices (deviceOf 0)).Yields .new 0 (storedSession 0) :=
    ⟨[], [], rfl⟩
  have hload : (SqliteSession.load twoDevices).Ends (storedSession 0) (.ok (some (deviceOf 0)))
    (storedSession 0) := ⟨[], [], rfl⟩
  have hget : (SignalKey.signedPrekey 1).get.Yields (storedSession 0) none (storedSession 0) :=
    ⟨[], [], rfl⟩
  have hstore : (SqliteSession.storeSignedPrekey 1 []).Yields (storedSession 0) ()
    { storedSession 0 with signedPrekeys := Tables.Table.empty.insertOrReplaceById 1 [] } :=
    ⟨[], [], rfl⟩
  have h₀ : ((signalClients acceptingWacore userCodecs twoDevices).restrict
      fun s a => s.StoresFresh acceptingWacore a).Run [] (.new (deviceOf 2)) :=
    System.Run.start ⟨_, rfl⟩
  have h₁ := h₀.tail (hstep h₀ (.create (deviceOf 0) true) (.create rfl rfl hcreate)
    fun _ _ k => by cases k <;> rfl)
  have h₂ := h₁.tail (hstep h₁ _ (.load (c := 0) rfl hload) trivial)
  have h₃ := h₂.tail (hstep h₂ (.lock 0) (.lock rfl fun c => by
    cases c <;> exact ⟨nofun, nofun⟩) trivial)
  have h₄ := h₃.tail (hstep h₃ (.check 0 true) (.checkMissing rfl hget) fun _ record u hfound => by
    cases (get_yields hfound).1)
  have h₅ := h₄.tail (hstep h₄ (.storeSigned 0 0 true) (.storeSigned rfl hstore) trivial)
  exact ⟨_, _, h₅, rfl, (signal_records_belong_iff _ _ _ _ _ h₅).1⟩

omit [WacoreBinary] in
/-- The session of an older device is found after another was created. -/
theorem signal_session_of_older_device :
    letI := plainWacore
    ¬ ∀ (as : List (SignalAction Unit Unit Unit)) (s : SignalClient Unit),
      (signalClients acceptingWacore userCodecs twoDevices).Run as s → s.Belongs twoDevices := by
  let _ := plainWacore
  intro hall
  have hstep : ∀ {as s} (_ : (signalClients acceptingWacore userCodecs twoDevices).Run as s)
      (a : SignalAction Unit Unit Unit) {t},
      SignalStep acceptingWacore userCodecs twoDevices s a t →
      (signalClients acceptingWacore userCodecs twoDevices).step s a t := fun _ _ _ h => h
  have hcreate : (SqliteSession.create twoDevices (deviceOf 0)).Yields .new 0 (storedSession 0) :=
    ⟨[], [], rfl⟩
  have hput : (StoreOp.run userCodecs (.putSession "a" [1])).Yields (storedSession 0) ()
      { storedSession 0 with signalSessions := Tables.Table.empty.insertOrReplace "a" [1] } :=
    ⟨[], [], rfl⟩
  have hclear : SqliteSession.clearDevice.Ends
      { storedSession 0 with signalSessions := Tables.Table.empty.insertOrReplace "a" [1] } (.ok ())
      { SqliteSession.new with
        signalSessions := Tables.Table.empty.insertOrReplace "a" [1] } := ⟨[], [], rfl⟩
  have hagain : (SqliteSession.create twoDevices (deviceOf 1)).Yields
      { SqliteSession.new with
        signalSessions := Tables.Table.empty.insertOrReplace "a" [1] } 0
      { storedSession 1 with signalSessions := Tables.Table.empty.insertOrReplace "a" [1] } :=
    ⟨[], [], rfl⟩
  have h₀ : (signalClients acceptingWacore userCodecs twoDevices).Run []
    (SignalClient.new (deviceOf 2)) := System.Run.start ⟨_, rfl⟩
  have h₁ := h₀.tail (hstep h₀ (.create (deviceOf 0) true) (.create rfl rfl hcreate))
  have h₂ := h₁.tail (hstep h₁ (.call (.putSession "a" [1]) true) (.callWrites rfl hput))
  have h₃ := h₂.tail (hstep h₂ _ (.clearDevice hclear))
  have h₄ := h₃.tail (hstep h₃ (.create (deviceOf 1) true) (.create rfl rfl hagain))
  obtain ⟨created, hcreated, hle⟩ := hall _ _ h₄ (deviceOf 1) (.session "a") [1] _ _
    ⟨[], [], rfl⟩ ⟨[], [], rfl⟩
  cases hcreated
  exact absurd hle (by decide)

end Waepic.Client
