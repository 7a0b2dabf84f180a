import Waepic.Library.Transition
import Mathlib.Logic.Function.Basic

/-!
# One-time prekeys

`upload_prekeys_if_needed` asks the server for its count, generates what is
missing from `next_pre_key_id` of the device it was given, uploads the public
halves and, once the server has answered, stores the key pairs one by one; a
store that fails is logged and skipped.  It runs after a pairing, with the
device just saved, and after every connect, with the device the session holds.

Uploads queue for the connection and may be lost before or after they are
written.  The server may accept an upload whose answer never arrives.  The
process may stop at any point; what the session holds stays.

`uploads`, `stores` and `accepted` are histories, newest first.  A call reads
`accepted` only to know that its upload was answered.
-/

namespace Waepic.Client

open Transition

/-- A key pair of Curve25519. -/
structure KeyPair where
  publicKey : Nat
  privateKey : Nat
deriving DecidableEq, Repr

/-- The random source: no two draws give one public key. -/
structure KeySource where
  /-- The pair of the `n`-th `KeyPair::generate`. -/
  generate : Nat → KeyPair
  generate_inj : ∀ m n, (generate m).publicKey = (generate n).publicKey → m = n

/-- The fields of `Device` that the upload reads. -/
structure Device where
  registrationId : UInt32
  identityKey : KeyPair
  signedPreKeyId : UInt32
  signedPreKey : KeyPair
  signedPreKeySignature : List UInt8
  nextPreKeyId : UInt32
  pn : Option String
deriving DecidableEq, Repr

/-- A prekey id with its key pair. -/
abbrev PreKey := UInt32 × KeyPair

/-- What leaves the client of a prekey. -/
def PreKey.publicHalf (k : PreKey) : UInt32 × Nat := (k.1, k.2.publicKey)

/-- The upload IQ. -/
structure PreKeyUploadSpec where
  registrationId : UInt32
  identityKey : Nat
  signedPreKeyId : UInt32
  signedPreKey : Nat
  signedPreKeySignature : List UInt8
  preKeys : List (UInt32 × Nat)
deriving DecidableEq, Repr

def PreKeyUploadSpec.new (device : Device) (preKeys : List PreKey) : PreKeyUploadSpec where
  registrationId := device.registrationId
  identityKey := device.identityKey.publicKey
  signedPreKeyId := device.signedPreKeyId
  signedPreKey := device.signedPreKey.publicKey
  signedPreKeySignature := device.signedPreKeySignature
  preKeys := preKeys.map PreKey.publicHalf

/-- `MIN_PREKEY_COUNT`. -/
def minPrekeyCount : Nat := 100

/-- The `needed` prekeys from `startId` on, drawn after `draws` earlier ones. -/
def generatePreKeys (source : KeySource) (draws : Nat) (startId : UInt32) (needed : Nat) :
    List PreKey :=
  (List.range needed).map fun i => (startId + UInt32.ofNat i, source.generate (draws + i))

/-- A row of the `prekeys` table. -/
structure PreKeyRow where
  record : KeyPair
  uploaded : Bool
deriving DecidableEq, Repr

/-- A call of `upload_prekeys_if_needed`. -/
abbrev UploadId := Nat

/-- Where a call waits. -/
inductive UploadStage where
  /-- For the server's count. -/
  | counting (device : Device)
  /-- For the answer to the upload of these prekeys. -/
  | uploading (preKeys : List PreKey)
  /-- For the session to store the first of these prekeys. -/
  | storing (preKeys : List PreKey)
deriving DecidableEq, Repr

structure PreKeyState where
  /-- The device the session holds. -/
  stored : Option Device
  /-- The device in memory. -/
  device : Device
  calls : UploadId → Option UploadStage
  /-- The key pairs drawn so far. -/
  draws : Nat
  /-- The uploads queued for the connection. -/
  outgoing : List PreKeyUploadSpec
  /-- The uploads written and not yet read by the server. -/
  onWire : List PreKeyUploadSpec
  /-- The uploads written. -/
  uploads : List PreKeyUploadSpec
  /-- The uploads the server accepted. -/
  accepted : List PreKeyUploadSpec
  /-- The public keys the server accepted and has not handed out. -/
  published : List (UInt32 × Nat)
  /-- The public keys the server has handed out. -/
  handedOut : List (UInt32 × Nat)
  /-- The `prekeys` table of the session. -/
  prekeys : UInt32 → Option PreKeyRow
  /-- The prekeys stored. -/
  stores : List PreKey

/-- The call `c` moves to `stage`. -/
def PreKeyState.setCall (s : PreKeyState) (c : UploadId) (stage : Option UploadStage) :
    PreKeyState :=
  { s with calls := Function.update s.calls c stage }

/-- The prekeys that were uploaded or stored, by their public halves. -/
def PreKeyState.used (s : PreKeyState) : List (UInt32 × Nat) :=
  s.uploads.flatMap (·.preKeys) ++ s.stores.map PreKey.publicHalf

/-- A first start: an empty session and the device of `Device::new()`. -/
def PreKeyState.fresh (device : Device) : PreKeyState where
  stored := none
  device := device
  calls := fun _ => none
  draws := 0
  outgoing := []
  onWire := []
  uploads := []
  accepted := []
  published := []
  handedOut := []
  prekeys := fun _ => none
  stores := []

inductive PreKeyAction where
  | pairSuccess (c : UploadId) (jid : String)
  | postConnect (c : UploadId)
  | countFailed (c : UploadId)
  | count (c : UploadId) (n : Nat)
  | transmit (upload : PreKeyUploadSpec)
  | lose (upload : PreKeyUploadSpec)
  | accept (upload : PreKeyUploadSpec)
  | uploadFailed (c : UploadId)
  | uploadOk (c : UploadId)
  | store (c : UploadId)
  | storeFailed (c : UploadId)
  | finish (c : UploadId)
  | handOut (key : UInt32 × Nat)
  | removePreKey (key : UInt32 × Nat)
  | saveDevice
  | loadDevice
  | clearDevice
  | restart (device : Device)

/-- The steps of the client, the connection and the server.  `Device::new()`
numbers from `firstPreKeyId`. -/
inductive PreKeyStep (source : KeySource) (firstPreKeyId : UInt32) :
    PreKeyState → PreKeyAction → PreKeyState → Prop where
  /-- `handle_pair_success` saves the paired device and uploads with it. -/
  | pairSuccess {s : PreKeyState} {c : UploadId} {jid : String} :
      s.calls c = none →
      PreKeyStep source firstPreKeyId s (.pairSuccess c jid)
        { s.setCall c (some (.counting { s.device with pn := some jid })) with
            stored := some { s.device with pn := some jid } }
  /-- `run_post_connect_init` loads the device and uploads if it is paired. -/
  | postConnect {s : PreKeyState} {c : UploadId} {device : Device} :
      s.calls c = none → s.stored = some device → device.pn ≠ none →
      PreKeyStep source firstPreKeyId s (.postConnect c)
        { s.setCall c (some (.counting device)) with device := device }
  | countFailed {s : PreKeyState} {c : UploadId} {device : Device} :
      s.calls c = some (.counting device) →
      PreKeyStep source firstPreKeyId s (.countFailed c) (s.setCall c none)
  | countSufficient {s : PreKeyState} {c : UploadId} {device : Device} {n : Nat} :
      s.calls c = some (.counting device) → minPrekeyCount ≤ n →
      PreKeyStep source firstPreKeyId s (.count c n) (s.setCall c none)
  /-- The missing prekeys are generated and their upload is queued. -/
  | countLow {s : PreKeyState} {c : UploadId} {device : Device} {n : Nat}
      {preKeys : List PreKey} :
      s.calls c = some (.counting device) → n < minPrekeyCount →
      preKeys = generatePreKeys source s.draws device.nextPreKeyId (minPrekeyCount - n) →
      PreKeyStep source firstPreKeyId s (.count c n)
        { s.setCall c (some (.uploading preKeys)) with
            draws := s.draws + (minPrekeyCount - n)
            outgoing := PreKeyUploadSpec.new device preKeys :: s.outgoing }
  /-- The connection writes a queued upload. -/
  | transmit {s : PreKeyState} {upload : PreKeyUploadSpec} :
      upload ∈ s.outgoing →
      PreKeyStep source firstPreKeyId s (.transmit upload)
        { s with outgoing := s.outgoing.erase upload
                 onWire := upload :: s.onWire
                 uploads := upload :: s.uploads }
  /-- The connection breaks with an upload queued or on the wire. -/
  | lose {s : PreKeyState} {upload : PreKeyUploadSpec} :
      PreKeyStep source firstPreKeyId s (.lose upload)
        { s with outgoing := s.outgoing.erase upload
                 onWire := s.onWire.erase upload }
  | accept {s : PreKeyState} {upload : PreKeyUploadSpec} :
      upload ∈ s.onWire →
      PreKeyStep source firstPreKeyId s (.accept upload)
        { s with onWire := s.onWire.erase upload
                 accepted := upload :: s.accepted
                 published := upload.preKeys ++ s.published }
  /-- `send_iq` ends with an error: not sent, refused, or no answer in time. -/
  | uploadFailed {s : PreKeyState} {c : UploadId} {preKeys : List PreKey} :
      s.calls c = some (.uploading preKeys) →
      PreKeyStep source firstPreKeyId s (.uploadFailed c) (s.setCall c none)
  /-- The answer to an accepted upload arrives. -/
  | uploadOk {s : PreKeyState} {c : UploadId} {preKeys : List PreKey}
      {upload : PreKeyUploadSpec} :
      s.calls c = some (.uploading preKeys) → upload ∈ s.accepted →
      upload.preKeys = preKeys.map PreKey.publicHalf →
      PreKeyStep source firstPreKeyId s (.uploadOk c) (s.setCall c (some (.storing preKeys)))
  /-- `store_prekey(id, record, true)`. -/
  | store {s : PreKeyState} {c : UploadId} {k : PreKey} {rest : List PreKey} :
      s.calls c = some (.storing (k :: rest)) →
      PreKeyStep source firstPreKeyId s (.store c)
        { s.setCall c (some (.storing rest)) with
            prekeys := Function.update s.prekeys k.1 (some { record := k.2, uploaded := true })
            stores := k :: s.stores }
  /-- The error of a store is logged and the loop goes on. -/
  | storeFailed {s : PreKeyState} {c : UploadId} {k : PreKey} {rest : List PreKey} :
      s.calls c = some (.storing (k :: rest)) →
      PreKeyStep source firstPreKeyId s (.storeFailed c) (s.setCall c (some (.storing rest)))
  | finish {s : PreKeyState} {c : UploadId} :
      s.calls c = some (.storing []) →
      PreKeyStep source firstPreKeyId s (.finish c) (s.setCall c none)
  /-- The server gives a prekey to someone who starts a session. -/
  | handOut {s : PreKeyState} {key : UInt32 × Nat} :
      key ∈ s.published →
      PreKeyStep source firstPreKeyId s (.handOut key)
        { s with published := s.published.erase key, handedOut := key :: s.handedOut }
  /-- A message used a prekey: `remove_pre_key`. -/
  | removePreKey {s : PreKeyState} {key : UInt32 × Nat} :
      key ∈ s.handedOut →
      PreKeyStep source firstPreKeyId s (.removePreKey key)
        { s with prekeys := Function.update s.prekeys key.1 none }
  /-- `handle_pair_code_notification` saves the device it changed. -/
  | saveDevice {s : PreKeyState} :
      PreKeyStep source firstPreKeyId s .saveDevice { s with stored := some s.device }
  /-- `load_or_create_device`. -/
  | loadDevice {s : PreKeyState} {device : Device} :
      s.stored = some device →
      PreKeyStep source firstPreKeyId s .loadDevice { s with device := device }
  /-- The server removed the companion: the session forgets the device only. -/
  | clearDevice {s : PreKeyState} :
      PreKeyStep source firstPreKeyId s .clearDevice { s with stored := none }
  /-- The process stops and starts with a new `Device::new()`. -/
  | restart {s : PreKeyState} {device : Device} :
      device.nextPreKeyId = firstPreKeyId →
      PreKeyStep source firstPreKeyId s (.restart device)
        { s with device := device, calls := fun _ => none, outgoing := [] }

/-- The runs of one client with its session and the server. -/
def prekeyUploads (source : KeySource) (firstPreKeyId : UInt32) :
    System PreKeyState PreKeyAction where
  init s := ∃ device : Device, device.nextPreKeyId = firstPreKeyId ∧ s = .fresh device
  step := PreKeyStep source firstPreKeyId

/-! ## Generated prekeys -/

variable {source : KeySource}

theorem mem_generatePreKeys {draws needed : Nat} {startId : UInt32} {k : PreKey} :
    k ∈ generatePreKeys source draws startId needed ↔
      ∃ i < needed, (startId + UInt32.ofNat i, source.generate (draws + i)) = k := by
  simp [generatePreKeys]

/-- A batch of at most `MIN_PREKEY_COUNT` prekeys has distinct ids. -/
theorem generatePreKeys_id_inj {draws needed : Nat} {startId : UInt32}
    (hneeded : needed ≤ minPrekeyCount) {k k' : PreKey}
    (hk : k ∈ generatePreKeys source draws startId needed)
    (hk' : k' ∈ generatePreKeys source draws startId needed) (hid : k.1 = k'.1) : k = k' := by
  obtain ⟨i, hi, rfl⟩ := mem_generatePreKeys.mp hk
  obtain ⟨j, hj, rfl⟩ := mem_generatePreKeys.mp hk'
  have hij : UInt32.ofNat i = UInt32.ofNat j := by
    have h := congrArg (fun x => x - startId) hid
    simpa [UInt32.add_comm startId, UInt32.add_sub_cancel] using h
  have hmod := congrArg UInt32.toNat hij
  simp only [UInt32.toNat_ofNat'] at hmod
  have hbound : minPrekeyCount = 100 := rfl
  have : i = j := by omega
  rw [this]

theorem generatePreKeys_head {draws needed : Nat} {startId : UInt32} (h : 0 < needed) :
    ((generatePreKeys source draws startId needed).map PreKey.publicHalf).head? =
      some (startId, (source.generate draws).publicKey) := by
  cases needed with
  | zero => cases h
  | succ n => simp [generatePreKeys, List.range_succ_eq_map, PreKey.publicHalf]

end Waepic.Client
