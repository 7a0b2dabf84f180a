import Waepic.Client.Incoming
import Waepic.Library.LastWrites

/-!
# The Signal store adapter

libsignal keeps its state through the five sub-stores of
`SignalProtocolStoreAdapter`, whose clones share one cache and one backend.
Sessions, identities and sender keys go through the cache; prekeys go to the
backend, encoded; of signed prekeys only the reads do, and `save_signed_pre_key`
returns `Ok` without doing anything.  A load of a prekey does not fail here.

The cache returns the last value put for a key, and else what the backend has, so
it is the values put with a function for the rest (`CacheBackend`).  A call of
`save_identity` reads the identity before it puts the new one, with the steps of
other calls between the two.  `adapterReads` says for each save and removal which
read it promises what.  Every step leaves the other reads alone, and every step
but a save of a signed prekey keeps its promise; that one does exactly if the
backend holds the record already (`adapter_reads`).
-/

namespace Waepic.Client

open Connection Transition LastWrites

/-! ## Records and errors -/

/-- The errors of libsignal that the adapter returns. -/
inductive SignalProtocolError where
  | backendError (context message : String)
  | invalidPreKeyId
  | invalidSignedPreKeyId
  | invalidArgument (message : String)
  /-- An error of a record or a key. -/
  | record (message : String)
deriving DecidableEq, Repr

/-- The encoding of prekeys of one kind. -/
structure RecordCodec (ρ : Type) where
  Structure : Type
  /-- `prekey_record_to_structure`. -/
  toStructure : ρ → Except SignalProtocolError Structure
  encodeToVec : Structure → Bytes
  decodeFromSlice : Bytes → Except String Structure
  /-- `prekey_structure_to_record`. -/
  toRecord : Structure → Except SignalProtocolError ρ

namespace RecordCodec

variable {ρ : Type} (codec : RecordCodec ρ)

def write (record : ρ) : Except SignalProtocolError Bytes :=
  (codec.toStructure record).map codec.encodeToVec

/-- `what` is what the error of the decoding says. -/
def read (what : String) (bytes : Bytes) : Except SignalProtocolError ρ :=
  match codec.decodeFromSlice bytes with
  | .error e => .error (.invalidArgument (what ++ e))
  | .ok s => codec.toRecord s

/-- What was encoded is decoded without change. -/
structure Lawful : Prop where
  decode_encode : ∀ s, codec.decodeFromSlice (codec.encodeToVec s) = .ok s
  toRecord_toStructure : ∀ record s, codec.toStructure record = .ok s →
    codec.toRecord s = .ok record

variable {codec}

theorem Lawful.read_write (h : codec.Lawful) {what : String} {record : ρ} {bytes : Bytes}
    (hwrite : codec.write record = .ok bytes) : codec.read what bytes = .ok record := by
  simp only [write] at hwrite
  cases hs : codec.toStructure record with
  | error e =>
      rw [hs] at hwrite
      cases hwrite
  | ok s =>
      rw [hs] at hwrite
      cases hwrite
      rw [read, h.decode_encode]
      exact h.toRecord_toStructure record s hs

end RecordCodec

/-- The records and keys of libsignal. -/
structure Libsignal where
  SessionRecord : Type
  SenderKeyRecord : Type
  IdentityKey : Type
  [identityEq : DecidableEq IdentityKey]
  PreKeyRecord : Type
  SignedPreKeyRecord : Type
  /-- `public_key().public_key_bytes()`. -/
  publicKeyBytes : IdentityKey → Bytes
  /-- `PublicKey::from_djb_public_key_bytes`. -/
  fromDjbPublicKeyBytes : Bytes → Except SignalProtocolError IdentityKey
  preKeys : RecordCodec PreKeyRecord
  signedPreKeys : RecordCodec SignedPreKeyRecord

attribute [instance] Libsignal.identityEq

/-- A key is read from its bytes, and prekeys are decoded as they were encoded. -/
structure Libsignal.Lawful (L : Libsignal) : Prop where
  publicKeyBytes_ne_nil : ∀ key, L.publicKeyBytes key ≠ []
  fromDjb_publicKeyBytes : ∀ key, L.fromDjbPublicKeyBytes (L.publicKeyBytes key) = .ok key
  preKeys : L.preKeys.Lawful

/-- What the cache gets from the backend for keys that nothing was put for. -/
structure CacheBackend (L : Libsignal) where
  getSession : ProtocolAddress → Except String (Option L.SessionRecord)
  getIdentity : ProtocolAddress → Except String (Option Bytes)
  getSenderKey : SenderKeyName → Except String (Option L.SenderKeyRecord)

inductive IdentityChange where
  | newOrUnchanged
  | replacedExisting
deriving DecidableEq, Repr

/-! ## The adapter -/

variable {L : Libsignal}

/-- What the clones of an adapter share. -/
structure AdapterState (L : Libsignal) where
  /-- The values put into the cache. -/
  sessions : ProtocolAddress → Option L.SessionRecord
  identities : ProtocolAddress → Option Bytes
  senderKeys : SenderKeyName → Option L.SenderKeyRecord
  /-- The prekeys in the backend. -/
  prekeys : UInt32 → Option Bytes
  signedPrekeys : UInt32 → Option Bytes
  /-- The calls of `save_identity` that have read the identity there is. -/
  saving : CallId → Option (ProtocolAddress × L.IdentityKey × Option L.IdentityKey)

/-- A get of the cache. -/
def cached {κ ν : Type} (context : String) (put : κ → Option ν)
    (backend : κ → Except String (Option ν)) (k : κ) : Except SignalProtocolError (Option ν) :=
  match put k with
  | some v => .ok (some v)
  | none => (backend k).mapError (.backendError context)

namespace AdapterState

variable (b : CacheBackend L) (s : AdapterState L)

def loadSession (address : ProtocolAddress) :
    Except SignalProtocolError (Option L.SessionRecord) :=
  cached "backend" s.sessions b.getSession address

def loadSenderKey (name : SenderKeyName) :
    Except SignalProtocolError (Option L.SenderKeyRecord) :=
  cached "backend" s.senderKeys b.getSenderKey name

def getIdentity (address : ProtocolAddress) : Except SignalProtocolError (Option L.IdentityKey) :=
  match cached "get_identity" s.identities b.getIdentity address with
  | .error e => .error e
  | .ok none => .ok none
  | .ok (some data) =>
      if data.isEmpty then .ok none else (L.fromDjbPublicKeyBytes data).map some

def getPreKey (id : UInt32) : Except SignalProtocolError L.PreKeyRecord :=
  match s.prekeys id with
  | none => .error .invalidPreKeyId
  | some bytes => L.preKeys.read "decode prekey: " bytes

def getSignedPreKey (id : UInt32) : Except SignalProtocolError L.SignedPreKeyRecord :=
  match s.signedPrekeys id with
  | none => .error .invalidSignedPreKeyId
  | some bytes => L.signedPreKeys.read "decode signed prekey: " bytes

end AdapterState

/-- What `save_identity` returns. -/
def identityChange (existing : Option L.IdentityKey) (identity : L.IdentityKey) : IdentityChange :=
  match existing with
  | none => .newOrUnchanged
  | some existing => if existing = identity then .newOrUnchanged else .replacedExisting

inductive AdapterAction (L : Libsignal) where
  | storeSession (address : ProtocolAddress) (record : L.SessionRecord)
  /-- `save_identity` reads the identity there is. -/
  | readIdentity (c : CallId) (address : ProtocolAddress) (identity : L.IdentityKey)
  /-- It puts the new one and returns. -/
  | saveIdentity (c : CallId) (address : ProtocolAddress) (identity : L.IdentityKey)
      (change : IdentityChange)
  | savePreKey (id : UInt32) (record : L.PreKeyRecord)
  | savePreKeyFailed (id : UInt32) (record : L.PreKeyRecord)
  | removePreKey (id : UInt32)
  | removePreKeyFailed (id : UInt32)
  | saveSignedPreKey (id : UInt32) (record : L.SignedPreKeyRecord)
  | storeSenderKey (name : SenderKeyName) (record : L.SenderKeyRecord)
  /-- A read, or a call of `save_identity` that fails to read the identity. -/
  | observe

/-- The steps of the calls.  A call of the backend that fails may have had its
effect. -/
inductive AdapterStep (b : CacheBackend L) :
    AdapterState L → AdapterAction L → AdapterState L → Prop where
  | storeSession {s : AdapterState L} (address : ProtocolAddress) (record : L.SessionRecord) :
      AdapterStep b s (.storeSession address record)
        { s with sessions := Function.update s.sessions address (some record) }
  | readIdentity {s : AdapterState L} {c : CallId} {address : ProtocolAddress}
      {existing : Option L.IdentityKey} (identity : L.IdentityKey) :
      s.saving c = none → s.getIdentity b address = .ok existing →
      AdapterStep b s (.readIdentity c address identity)
        { s with saving := Function.update s.saving c (some (address, identity, existing)) }
  | saveIdentity {s : AdapterState L} {c : CallId} {address : ProtocolAddress}
      {identity : L.IdentityKey} {existing : Option L.IdentityKey} :
      s.saving c = some (address, identity, existing) →
      AdapterStep b s (.saveIdentity c address identity (identityChange existing identity))
        { s with
          identities :=
            Function.update s.identities address (some (L.publicKeyBytes identity))
          saving := Function.update s.saving c none }
  | savePreKey {s : AdapterState L} {id : UInt32} {record : L.PreKeyRecord} {encoded : Bytes} :
      L.preKeys.write record = .ok encoded →
      AdapterStep b s (.savePreKey id record)
        { s with prekeys := Function.update s.prekeys id (some encoded) }
  | savePreKeyFailed {s : AdapterState L} (id : UInt32) (record : L.PreKeyRecord) :
      AdapterStep b s (.savePreKeyFailed id record) s
  | savePreKeyUnsure {s : AdapterState L} {id : UInt32} {record : L.PreKeyRecord}
      {encoded : Bytes} :
      L.preKeys.write record = .ok encoded →
      AdapterStep b s (.savePreKeyFailed id record)
        { s with prekeys := Function.update s.prekeys id (some encoded) }
  | removePreKey {s : AdapterState L} (id : UInt32) :
      AdapterStep b s (.removePreKey id)
        { s with prekeys := Function.update s.prekeys id none }
  | removePreKeyFailed {s : AdapterState L} (id : UInt32) :
      AdapterStep b s (.removePreKeyFailed id) s
  | removePreKeyUnsure {s : AdapterState L} (id : UInt32) :
      AdapterStep b s (.removePreKeyFailed id)
        { s with prekeys := Function.update s.prekeys id none }
  /-- The body is `Ok(())`. -/
  | saveSignedPreKey {s : AdapterState L} (id : UInt32) (record : L.SignedPreKeyRecord) :
      AdapterStep b s (.saveSignedPreKey id record) s
  | storeSenderKey {s : AdapterState L} (name : SenderKeyName) (record : L.SenderKeyRecord) :
      AdapterStep b s (.storeSenderKey name record)
        { s with senderKeys := Function.update s.senderKeys name (some record) }
  | observe {s : AdapterState L} : AdapterStep b s .observe s

/-- The runs of an adapter over any backend: nothing was put, and no call is running. -/
def adapter (b : CacheBackend L) : System (AdapterState L) (AdapterAction L) where
  init s :=
    (∀ k, s.sessions k = none) ∧ (∀ k, s.identities k = none) ∧ (∀ k, s.senderKeys k = none) ∧
      ∀ c, s.saving c = none
  step := AdapterStep b

/-! ## What is promised -/

/-- What is read, by sub-store and key. -/
inductive AdapterKey where
  | session (address : ProtocolAddress)
  | identity (address : ProtocolAddress)
  | preKey (id : UInt32)
  | signedPreKey (id : UInt32)
  | senderKey (name : SenderKeyName)
deriving DecidableEq

/-- What a read returns. -/
inductive AdapterAnswer (L : Libsignal) where
  | session (r : Except SignalProtocolError (Option L.SessionRecord))
  | identity (r : Except SignalProtocolError (Option L.IdentityKey))
  | preKey (r : Except SignalProtocolError L.PreKeyRecord)
  | signedPreKey (r : Except SignalProtocolError L.SignedPreKeyRecord)
  | senderKey (r : Except SignalProtocolError (Option L.SenderKeyRecord))

/-- The matching read. -/
def AdapterState.read (b : CacheBackend L) (s : AdapterState L) : AdapterKey → AdapterAnswer L
  | .session address => .session (s.loadSession b address)
  | .identity address => .identity (s.getIdentity b address)
  | .preKey id => .preKey (s.getPreKey id)
  | .signedPreKey id => .signedPreKey (s.getSignedPreKey id)
  | .senderKey name => .senderKey (s.loadSenderKey b name)

namespace AdapterAction

/-- What the action saves or removes. -/
def key : AdapterAction L → Option AdapterKey
  | storeSession address _ => some (.session address)
  | saveIdentity _ address _ _ => some (.identity address)
  | savePreKey id _ | savePreKeyFailed id _ | removePreKey id | removePreKeyFailed id =>
      some (.preKey id)
  | saveSignedPreKey id _ => some (.signedPreKey id)
  | storeSenderKey name _ => some (.senderKey name)
  | readIdentity .. | observe => none

/-- A save that returns `Ok` promises its record, and a removal that there is none. -/
def promise : AdapterAction L → Option (AdapterAnswer L)
  | storeSession _ record => some (.session (.ok (some record)))
  | saveIdentity _ _ identity _ => some (.identity (.ok (some identity)))
  | savePreKey _ record => some (.preKey (.ok record))
  | removePreKey _ => some (.preKey (.error .invalidPreKeyId))
  | saveSignedPreKey _ record => some (.signedPreKey (.ok record))
  | storeSenderKey _ record => some (.senderKey (.ok (some record)))
  | savePreKeyFailed .. | removePreKeyFailed _ | readIdentity .. | observe => none

end AdapterAction

def adapterReads (b : CacheBackend L) :
    Reads (AdapterState L) (AdapterAction L) AdapterKey (AdapterAnswer L) where
  read := AdapterState.read b
  key := AdapterAction.key
  promise := AdapterAction.promise

/-- A signed prekey is saved only where the backend holds it already. -/
def SignedPreKeyHeld (p : AdapterState L × Promises AdapterKey (AdapterAnswer L)) :
    AdapterAction L → Prop
  | .saveSignedPreKey id record =>
      ∃ bytes, p.1.signedPrekeys id = some bytes ∧
        L.signedPreKeys.read "decode signed prekey: " bytes = .ok record
  | _ => True

/-! ## Reads after writes -/

variable {b : CacheBackend L} {s t : AdapterState L}

theorem cached_update_self {κ ν : Type} [DecidableEq κ] {context : String} {put : κ → Option ν}
    {backend : κ → Except String (Option ν)} {k : κ} {v : ν} :
    cached context (Function.update put k (some v)) backend k = .ok (some v) := by
  rw [cached, Function.update_self]

theorem cached_update_of_ne {κ ν : Type} [DecidableEq κ] {context : String} {put : κ → Option ν}
    {backend : κ → Except String (Option ν)} {j k : κ} {o : Option ν} (h : j ≠ k) :
    cached context (Function.update put k o) backend j = cached context put backend j := by
  rw [cached, Function.update_of_ne h, cached]

/-- A step leaves the reads of all other keys alone. -/
theorem AdapterStep.frames {a : AdapterAction L} (h : AdapterStep b s a t) :
    (adapterReads b).Frames s a t := by
  intro k hk
  cases h with
  | storeSession address record =>
      cases k with
      | session address' =>
          have hne : address' ≠ address := by rintro rfl; exact hk rfl
          exact congrArg AdapterAnswer.session (cached_update_of_ne hne)
      | _ => rfl
  | saveIdentity _ =>
      cases k with
      | identity address' =>
          refine congrArg AdapterAnswer.identity ?_
          simp only [AdapterState.getIdentity]
          rw [cached_update_of_ne (by rintro rfl; exact hk rfl)]
      | _ => rfl
  | savePreKey _ | savePreKeyUnsure _ | removePreKey id | removePreKeyUnsure id =>
      cases k with
      | preKey id' =>
          refine congrArg AdapterAnswer.preKey ?_
          simp only [AdapterState.getPreKey]
          rw [Function.update_of_ne (by rintro rfl; exact hk rfl)]
      | _ => rfl
  | storeSenderKey name record =>
      cases k with
      | senderKey name' =>
          have hne : name' ≠ name := by rintro rfl; exact hk rfl
          exact congrArg AdapterAnswer.senderKey (cached_update_of_ne hne)
      | _ => rfl
  | readIdentity _ _ _ => cases k <;> rfl
  | savePreKeyFailed _ _ | removePreKeyFailed _ | saveSignedPreKey _ _ | observe => rfl

theorem getSignedPreKey_eq_ok {id : UInt32} {record : L.SignedPreKeyRecord} :
    s.getSignedPreKey id = .ok record ↔
      ∃ bytes, s.signedPrekeys id = some bytes ∧
        L.signedPreKeys.read "decode signed prekey: " bytes = .ok record := by
  simp only [AdapterState.getSignedPreKey]
  cases s.signedPrekeys id with
  | none =>
      constructor
      · exact nofun
      · rintro ⟨_, h, _⟩
        cases h
  | some bytes =>
      constructor
      · exact fun h => ⟨bytes, rfl, h⟩
      · rintro ⟨_, h, hread⟩
        cases h
        exact hread

/-- A step keeps its promise, but for a save of a signed prekey. -/
theorem AdapterStep.fulfils (hL : L.Lawful) {m : Promises AdapterKey (AdapterAnswer L)}
    {a : AdapterAction L} (h : AdapterStep b s a t) (hguard : SignedPreKeyHeld (s, m) a) :
    (adapterReads b).Fulfils a t := by
  intro k r hkey hpromise
  cases h with
  | storeSession address record =>
      cases hkey
      cases hpromise
      exact congrArg AdapterAnswer.session cached_update_self
  | @saveIdentity c address identity existing _ =>
      cases hkey
      cases hpromise
      refine congrArg AdapterAnswer.identity ?_
      have hnonempty : (L.publicKeyBytes identity).isEmpty = false :=
        List.isEmpty_eq_false_iff.mpr (hL.publicKeyBytes_ne_nil identity)
      simp only [AdapterState.getIdentity, cached_update_self, hnonempty]
      rw [hL.fromDjb_publicKeyBytes identity]
      rfl
  | @savePreKey id record encoded hwrite =>
      cases hkey
      cases hpromise
      refine congrArg AdapterAnswer.preKey ?_
      simp only [AdapterState.getPreKey, Function.update_self]
      exact hL.preKeys.read_write hwrite
  | removePreKey id =>
      cases hkey
      cases hpromise
      refine congrArg AdapterAnswer.preKey ?_
      simp only [AdapterState.getPreKey, Function.update_self]
  | saveSignedPreKey id record =>
      cases hkey
      cases hpromise
      exact congrArg AdapterAnswer.signedPreKey (getSignedPreKey_eq_ok.mpr hguard)
  | storeSenderKey name record =>
      cases hkey
      cases hpromise
      exact congrArg AdapterAnswer.senderKey cached_update_self
  | readIdentity _ _ _ | savePreKeyFailed _ _ | savePreKeyUnsure _ | removePreKeyFailed _
  | removePreKeyUnsure _ | observe => cases hpromise

/-- A save of a signed prekey that keeps its promise found the record there. -/
theorem AdapterStep.held_of_fulfils {m : Promises AdapterKey (AdapterAnswer L)}
    {a : AdapterAction L} (h : AdapterStep b s a t) (hfulfils : (adapterReads b).Fulfils a t) :
    SignedPreKeyHeld (s, m) a := by
  cases h with
  | saveSignedPreKey id record =>
      have hread := hfulfils _ _ rfl rfl
      injection hread with hread
      exact getSignedPreKey_eq_ok.mp hread
  | _ => trivial

/-- In every run in which signed prekeys are saved only where the backend holds
them, every read returns what was last promised for its key.  A next step leaves
the other reads alone, and keeps this exactly if it is no other save of a signed
prekey. -/
theorem adapter_reads (hL : L.Lawful) {as : List (AdapterAction L)}
    {p : AdapterState L × Promises AdapterKey (AdapterAnswer L)}
    (hrun : (((adapterReads b).withPromises (adapter b)).restrict SignedPreKeyHeld).Run as p) :
    (adapterReads b).Kept p ∧
    ∀ a q, ((adapterReads b).withPromises (adapter b)).step p a q →
      (adapterReads b).Frames p.1 a q.1 ∧ ((adapterReads b).Kept q ↔ SignedPreKeyHeld p a) := by
  have hkept : (adapterReads b).Kept p :=
    Reads.kept_of_run (fun _ _ _ hstep => AdapterStep.frames hstep)
      (fun q _ _ hstep hguard => AdapterStep.fulfils hL (m := q.2) hstep hguard) hrun
  refine ⟨hkept, ?_⟩
  rintro a ⟨t, m⟩ ⟨hstep, rfl⟩
  have hframes : (adapterReads b).Frames p.1 a t := AdapterStep.frames hstep
  refine ⟨hframes, fun hnext => ?_, fun hguard => ?_⟩
  · exact AdapterStep.held_of_fulfils hstep hnext.fulfils
  · exact hkept.step hframes (AdapterStep.fulfils hL (m := p.2) hstep hguard)

/-! ### One adapter -/

/-- Records that are written as they are. -/
def plainCodec : RecordCodec Bytes where
  Structure := Bytes
  toStructure := .ok
  encodeToVec := id
  decodeFromSlice := .ok
  toRecord := .ok

/-- Keys and records as bytes, a key behind its type byte. -/
def plainLibsignal : Libsignal where
  SessionRecord := Bytes
  SenderKeyRecord := Bytes
  IdentityKey := Bytes
  PreKeyRecord := Bytes
  SignedPreKeyRecord := Bytes
  publicKeyBytes key := 5 :: key
  fromDjbPublicKeyBytes
    | 5 :: key => .ok key
    | _ => .error (.record "bad key type")
  preKeys := plainCodec
  signedPreKeys := plainCodec

theorem plainLibsignal_lawful : plainLibsignal.Lawful where
  publicKeyBytes_ne_nil _ := List.cons_ne_nil _ _
  fromDjb_publicKeyBytes _ := rfl
  preKeys := { decode_encode := fun _ => rfl, toRecord_toStructure := fun _ _ h => by cases h; rfl }

/-- A backend that holds nothing. -/
def emptyBackend : CacheBackend plainLibsignal where
  getSession _ := .ok none
  getIdentity _ := .ok none
  getSenderKey _ := .ok none

def emptyAdapter (L : Libsignal) : AdapterState L where
  sessions _ := none
  identities _ := none
  senderKeys _ := none
  prekeys _ := none
  signedPrekeys _ := none
  saving _ := none

/-- A prekey is saved and removed, and a signed prekey saved that is there. -/
theorem adapter_reads_prekey :
    ∃ as p, (((adapterReads emptyBackend).withPromises (adapter emptyBackend)).restrict
        SignedPreKeyHeld).Run as p ∧
      p.2 (.preKey 1) = some (.preKey (.error .invalidPreKeyId)) ∧
      p.2 (.signedPreKey 2) = some (.signedPreKey (.ok [9])) ∧
      (adapterReads emptyBackend).Kept p := by
  have h0 : (((adapterReads emptyBackend).withPromises (adapter emptyBackend)).restrict
      SignedPreKeyHeld).Run []
      ({ emptyAdapter plainLibsignal with signedPrekeys := fun _ => some [9] }, fun _ => none) :=
    .start ⟨⟨fun _ => rfl, fun _ => rfl, fun _ => rfl, fun _ => rfl⟩, rfl⟩
  have hstep : ∀ {p : AdapterState plainLibsignal × Promises AdapterKey _}
      {a : AdapterAction plainLibsignal} {t : AdapterState plainLibsignal},
      AdapterStep emptyBackend p.1 a t → SignedPreKeyHeld p a →
      (((adapterReads emptyBackend).withPromises (adapter emptyBackend)).restrict
        SignedPreKeyHeld).step p a (t, (adapterReads emptyBackend).next p.2 a) :=
    fun h hguard => ⟨⟨h, rfl⟩, hguard⟩
  have h1 := h0.tail (hstep (a := .savePreKey 1 [7]) (.savePreKey rfl) trivial)
  have h2 := h1.tail (hstep (.removePreKey 1) trivial)
  have h3 := h2.tail (hstep (.saveSignedPreKey 2 [9]) ⟨[9], rfl, rfl⟩)
  exact ⟨_, _, h3, rfl, rfl, (adapter_reads plainLibsignal_lawful h3).1⟩

/-- A new signed prekey is saved with `Ok`, and a read does not find it. -/
theorem adapter_signed_prekey_lost :
    ¬ ∀ as p, ((adapterReads emptyBackend).withPromises (adapter emptyBackend)).Run as p →
      (adapterReads emptyBackend).Kept p := by
  intro hkept
  have h0 : ((adapterReads emptyBackend).withPromises (adapter emptyBackend)).Run []
      (emptyAdapter plainLibsignal, fun _ => none) :=
    .start ⟨⟨fun _ => rfl, fun _ => rfl, fun _ => rfl, fun _ => rfl⟩, rfl⟩
  have hstep : ∀ {p : AdapterState plainLibsignal × Promises AdapterKey _}
      {a : AdapterAction plainLibsignal} {t : AdapterState plainLibsignal},
      AdapterStep emptyBackend p.1 a t →
      ((adapterReads emptyBackend).withPromises (adapter emptyBackend)).step p a
        (t, (adapterReads emptyBackend).next p.2 a) :=
    fun h => ⟨h, rfl⟩
  have h1 := h0.tail (hstep (.saveSignedPreKey 1 [7]))
  have hread := hkept _ _ h1 (.signedPreKey 1) (.signedPreKey (.ok [7])) rfl
  injection hread with hread
  cases hread

end Waepic.Client
