import Waepic.Client.Pairing

/-!
# Pair-success

`handle_pair_success` checks the node, signs its device identity, sends the
signature, saves the paired device and stores the signed prekey of the device.
An error up to the save leaves the session as it is.  An error after it leaves a
paired device.  A node without a JID pairs the device under the default JID, and
the identity that was signed is sent but not kept.

What follows the signed prekey only logs its errors and saves no device: the
upload of prekeys and the active IQ.
-/

namespace Waepic.Client

open Binary Connection

/-! ## Devices -/

/-- A `Device`. -/
structure PairingDevice (ρ : Type) extends DeviceState where
  signedPreKeyId : UInt32
  signedPreKey : KeyPair
  signedPreKeySignature : Bytes
  pn : Option Jid
  lid : Option Jid
  pushName : String
  /-- The self-signed identity, encoded. -/
  account : Option Bytes
  serverHasPrekeys : Bool
  /-- The fields that no pairing touches. -/
  others : ρ

/-- What `handle_pair_success` uses of wacore. -/
structure PairWacore extends PairUtils where
  /-- `Jid::from_str`. -/
  parseJid : String → Option Jid
  /-- `Jid::default`. -/
  defaultJid : Jid
  defaultJid_user : defaultJid.user = ""
  /-- `new_signed_pre_key_record`, encoded. -/
  newSignedPreKeyRecord : UInt32 → KeyPair → Bytes → Int → Bytes

/-- The encoded record of the signed prekey. -/
def PairingDevice.signedPreKeyRecord {ρ : Type} (w : PairWacore) (device : PairingDevice ρ)
    (now : Int) : Bytes :=
  w.newSignedPreKeyRecord device.signedPreKeyId device.signedPreKey device.signedPreKeySignature
    now

/-- The session, and what was sent. -/
structure PairSession (ρ : Type) where
  /-- The device that the session stores. -/
  device : Option (PairingDevice ρ)
  signedPrekeys : UInt32 → Option Bytes
  sent : List Node

/-- How the steps after the signature end. -/
structure PairOutcomes where
  sendNode : Except String Unit
  /-- A save that fails leaves the stored device. -/
  save : Except String Unit
  storeSignedPrekey : Except String Unit
  /-- `Utc::now()`. -/
  now : Int

/-- `Client::is_authorized`, if the session loads. -/
def PairSession.isAuthorized {ρ : Type} (s : PairSession ρ) : Bool := s.device.any (·.pn.isSome)

inductive PairSuccessError where
  /-- An error before the signature is sent. -/
  | pair (e : PairError)
  /-- `ClientError::Internal`. -/
  | internal (message : String)

variable [WacoreBinary] {ρ : Type}

/-! ## The handler -/

/-- A child of the pair-success. -/
def successChild (n : Node) (tag : String) : Option Node :=
  (n.child "pair-success").bind (·.child tag)

/-- The `business_name`. -/
def businessName (n : Node) : String :=
  ((successChild n "biz").bind (·.attrText "name")).getD ""

/-- A JID of the `<device>`, if it is present and parses. -/
def PairWacore.deviceJid (w : PairWacore) (n : Node) (key : String) : Option Jid :=
  ((successChild n "device").bind (·.attrText key)).bind w.parseJid

/-- The `updated_device`. -/
def PairingDevice.updated (w : PairWacore) (n : Node) (device : PairingDevice ρ) :
    PairingDevice ρ :=
  let jid := (w.deviceJid n "jid").getD w.defaultJid
  let lid := (w.deviceJid n "lid").getD w.defaultJid
  { device with
    pn := some jid
    lid := if lid.user = "" then device.lid else some lid
    pushName := if businessName n = "" then device.pushName else businessName n
    serverHasPrekeys := false }

/-- `handle_pair_success`. -/
def pairSuccess (w : PairWacore) (o : PairOutcomes) (device : PairingDevice ρ) (n : Node)
    (s : PairSession ρ) : Except PairSuccessError Unit × PairSession ρ :=
  match handlePairSuccess w.toPairUtils device.toDeviceState n with
  | .error e => (.error (.pair e), s)
  | .ok response =>
      match o.sendNode with
      | .error e => (.error (.pair (.pairFailed ("failed to send pair-device-sign: " ++ e))), s)
      | .ok () =>
          let s := { s with sent := s.sent ++ [response] }
          let updated := device.updated w n
          match o.save with
          | .error e => (.error (.internal ("failed to save device: " ++ e)), s)
          | .ok () =>
              let s := { s with device := some updated }
              let record := w.newSignedPreKeyRecord updated.signedPreKeyId updated.signedPreKey
                updated.signedPreKeySignature o.now
              match o.storeSignedPrekey with
              | .error e => (.error (.internal ("failed to store signed prekey: " ++ e)), s)
              | .ok () =>
                  (.ok (), { s with
                    signedPrekeys := Function.update s.signedPrekeys updated.signedPreKeyId record })

/-! ## All or nothing -/

/-- The self-signed identity that pairing with a node makes. -/
def PairWacore.selfSignedIdentity (w : PairWacore) (device : PairingDevice ρ) (n : Node) :
    Option Bytes :=
  (deviceIdentity n).bind fun identity =>
    (w.doPairCrypto device.toDeviceState identity).toOption.map (·.1)

/-- `d` is `device` as a node pairs it: with the JID of the node, the LID and the
business name that it has, and the identity that it makes.  Pairing may reset
`server_has_prekeys`. -/
def PairingDevice.PairedBy (w : PairWacore) (n : Node) (device d : PairingDevice ρ) : Prop :=
  ∃ jid identity, w.deviceJid n "jid" = some jid ∧
    w.selfSignedIdentity device n = some identity ∧
    d = { device with
      pn := some jid
      lid := ((w.deviceJid n "lid").filter (·.user ≠ "")).or device.lid
      pushName := (((successChild n "biz").bind (·.attrText "name")).filter (· ≠ "")).getD
        device.pushName
      account := some identity
      serverHasPrekeys := d.serverHasPrekeys }

/-- An error leaves the stored device, and success stores the paired device. -/
def AllOrNothing (w : PairWacore) (device : PairingDevice ρ) (n : Node) (s : PairSession ρ)
    (r : Except PairSuccessError Unit × PairSession ρ) : Prop :=
  match r.1 with
  | .error _ => r.2.device = s.device
  | .ok () => ∃ d, r.2.device = some d ∧ device.PairedBy w n d

/-- The node has an id, and a device identity that wacore accepts. -/
def PairWacore.Signs (w : PairWacore) (device : PairingDevice ρ) (n : Node) : Prop :=
  n.attrText "id" ≠ none ∧ w.accepts device.toDeviceState n = true

/-- When pairing is all or nothing: if the response is signed and sent and the
device is saved, then the signed prekey is stored, the node has a JID and the
device had the identity before; or the signed prekey fails to store, and the
session held the updated device before. -/
def PairsWhole (w : PairWacore) (o : PairOutcomes) (device : PairingDevice ρ) (n : Node)
    (s : PairSession ρ) : Prop :=
  w.Signs device n → o.sendNode.isOk = true → o.save.isOk = true →
    if o.storeSignedPrekey.isOk then
      w.deviceJid n "jid" ≠ none ∧ device.account = w.selfSignedIdentity device n
    else s.device = some (device.updated w n)

variable {w : PairWacore} {o : PairOutcomes} {device : PairingDevice ρ} {n : Node}
  {s : PairSession ρ}

/-- The response is signed exactly if the node has an id and an accepted identity. -/
theorem signs_iff : w.Signs device n ↔
    ∃ response, handlePairSuccess w.toPairUtils device.toDeviceState n = .ok response := by
  have hok : (∃ response, handlePairSuccess w.toPairUtils device.toDeviceState n = .ok response) ↔
      (handlePairSuccess w.toPairUtils device.toDeviceState n).toOption ≠ none := by
    cases handlePairSuccess w.toPairUtils device.toDeviceState n <;> simp [Except.toOption]
  rw [hok, PairWacore.Signs, PairUtils.accepts]
  cases hid : n.attrText "id" with
  | none =>
      rw [handlePairSuccess, hid]
      simp [Except.toOption, throw, throwThe, MonadExceptOf.throw]
  | some id =>
      rw [handlePairSuccess_toOption hid]
      cases deviceIdentity n with
      | none => simp
      | some identity =>
          simp only [Option.bind_some, Option.any_some]
          cases w.doPairCrypto device.toDeviceState identity <;> simp [Except.toOption, Except.isOk,
            Except.toBool]

/-- What a successful save stores has the JID that the node brings, or the default. -/
theorem updated_pn : (device.updated w n).pn = some ((w.deviceJid n "jid").getD w.defaultJid) :=
  rfl

theorem updated_lid : (device.updated w n).lid =
    ((w.deviceJid n "lid").filter (·.user ≠ "")).or device.lid := by
  simp only [PairingDevice.updated]
  cases w.deviceJid n "lid" with
  | none => simp [w.defaultJid_user]
  | some lid => by_cases huser : lid.user = "" <;> simp [Option.filter, huser]

theorem updated_pushName : (device.updated w n).pushName =
    (((successChild n "biz").bind (·.attrText "name")).filter (· ≠ "")).getD device.pushName := by
  unfold PairingDevice.updated businessName
  cases (successChild n "biz").bind (·.attrText "name") with
  | none => simp
  | some name => by_cases hname : name = "" <;> simp [Option.filter, hname]

/-- The updated device is the paired one if the JID is there and the identity was. -/
theorem pairedBy_updated_iff {identity : Bytes}
    (hidentity : w.selfSignedIdentity device n = some identity) :
    device.PairedBy w n (device.updated w n) ↔
      w.deviceJid n "jid" ≠ none ∧ device.account = some identity := by
  simp only [PairingDevice.PairedBy]
  rw [← updated_lid, ← updated_pushName (w := w), hidentity]
  constructor
  · rintro ⟨jid, identity', hjid, heq, hpaired⟩
    have haccount := congrArg PairingDevice.account hpaired
    cases heq
    exact ⟨by simp [hjid], haccount⟩
  · rintro ⟨hjid, haccount⟩
    obtain ⟨jid, hjid⟩ := Option.ne_none_iff_exists'.mp hjid
    refine ⟨jid, identity, hjid, rfl, ?_⟩
    rw [← haccount]
    have hpn : (device.updated w n).pn = some jid := by rw [updated_pn, hjid]; rfl
    rw [← hpn]
    rfl

/-- The identity of a response that is signed. -/
theorem exists_selfSignedIdentity (h : w.Signs device n) :
    ∃ identity, w.selfSignedIdentity device n = some identity := by
  have haccepts := h.2
  rw [PairUtils.accepts] at haccepts
  rw [PairWacore.selfSignedIdentity]
  cases hidentity : deviceIdentity n with
  | none => simp [hidentity] at haccepts
  | some identity =>
      rw [hidentity, Option.any_some] at haccepts
      rw [Option.bind_some]
      cases hsigned : w.doPairCrypto device.toDeviceState identity with
      | error e => rw [hsigned] at haccepts; cases haccepts
      | ok signed => exact ⟨signed.1, rfl⟩

/-- Without a signed response the session is left as it is. -/
theorem pairSuccess_of_not_signs (h : ¬ w.Signs device n) :
    ∃ e, pairSuccess w o device n s = (.error e, s) := by
  rw [pairSuccess]
  cases hsigned : handlePairSuccess w.toPairUtils device.toDeviceState n with
  | error e => exact ⟨_, rfl⟩
  | ok response => exact absurd (signs_iff.mpr ⟨response, hsigned⟩) h

/-- If the response is not sent or the device is not saved, the stored device is
left as it is. -/
theorem pairSuccess_of_not_saved (h : o.sendNode.isOk = false ∨ o.save.isOk = false) :
    ∃ e, (pairSuccess w o device n s).1 = .error e ∧
      (pairSuccess w o device n s).2.device = s.device := by
  rw [pairSuccess]
  cases handlePairSuccess w.toPairUtils device.toDeviceState n with
  | error e => exact ⟨_, rfl, rfl⟩
  | ok response =>
      dsimp only
      cases hsend : o.sendNode with
      | error e => exact ⟨_, rfl, rfl⟩
      | ok _ =>
          cases hsave : o.save with
          | error e => exact ⟨_, rfl, rfl⟩
          | ok _ => rw [hsend, hsave] at h; cases h <;> contradiction

/-- Once the device is saved, the session holds the updated device, and the
storing of the signed prekey says how the handler ends. -/
theorem pairSuccess_of_saved (hsigns : w.Signs device n) (hsend : o.sendNode.isOk = true)
    (hsave : o.save.isOk = true) :
    (pairSuccess w o device n s).2.device = some (device.updated w n) ∧
      (pairSuccess w o device n s).1.isOk = o.storeSignedPrekey.isOk := by
  obtain ⟨response, hresponse⟩ := signs_iff.mp hsigns
  rw [pairSuccess, hresponse]
  dsimp only
  cases hs : o.sendNode with
  | error e => rw [hs] at hsend; cases hsend
  | ok _ =>
      cases hs' : o.save with
      | error e => rw [hs'] at hsave; cases hsave
      | ok _ => cases o.storeSignedPrekey <;> exact ⟨rfl, rfl⟩

/-- Pairing is all or nothing exactly if the condition holds. -/
theorem pair_success_all_or_nothing_iff (w : PairWacore) (o : PairOutcomes)
    (device : PairingDevice ρ) (n : Node) (s : PairSession ρ) :
    AllOrNothing w device n s (pairSuccess w o device n s) ↔ PairsWhole w o device n s := by
  simp only [AllOrNothing, PairsWhole]
  by_cases hsigns : w.Signs device n
  · by_cases hsaved : o.sendNode.isOk = true ∧ o.save.isOk = true
    · obtain ⟨hdevice, hend⟩ := pairSuccess_of_saved (s := s) hsigns hsaved.1 hsaved.2
      obtain ⟨identity, hidentity⟩ := exists_selfSignedIdentity hsigns
      rw [hdevice]
      cases hresult : (pairSuccess w o device n s).1 with
      | error e =>
          rw [hresult] at hend
          rw [← hend]
          constructor
          · intro hsame _ _ _
            exact hsame.symm
          · intro h
            exact (h hsigns hsaved.1 hsaved.2).symm
      | ok _ =>
          rw [hresult] at hend
          rw [← hend, hidentity]
          constructor
          · rintro ⟨d, hd, hpaired⟩ _ _ _
            cases hd
            exact (pairedBy_updated_iff hidentity).mp hpaired
          · intro h
            exact ⟨_, rfl, (pairedBy_updated_iff hidentity).mpr (h hsigns hsaved.1 hsaved.2)⟩
    · have hfails : o.sendNode.isOk = false ∨ o.save.isOk = false := by
        cases hsend : o.sendNode.isOk <;> cases hsave : o.save.isOk <;> simp_all
      obtain ⟨e, hresult, hdevice⟩ :
          ∃ e, (pairSuccess w o device n s).1 = .error e ∧
            (pairSuccess w o device n s).2.device = s.device := pairSuccess_of_not_saved hfails
      rw [hresult, hdevice]
      exact iff_of_true rfl fun _ hsend hsave => absurd ⟨hsend, hsave⟩ hsaved
  · obtain ⟨e, hresult⟩ := pairSuccess_of_not_signs (o := o) (s := s) hsigns
    rw [hresult]
    exact iff_of_true rfl fun h => absurd h hsigns

/-! ## A node without a JID -/

/-- wacore that accepts every device identity and knows one JID. -/
def acceptingWacore : PairWacore where
  doPairCrypto _ identity := .ok (identity, 0)
  buildPairSuccessResponse reqId _ _ := ackNode reqId
  parseJid s := if s = "me@s.whatsapp.net" then some ⟨"me", "s.whatsapp.net", 0, 0, 0⟩ else none
  defaultJid := ⟨"", "s.whatsapp.net", 0, 0, 0⟩
  defaultJid_user := rfl
  newSignedPreKeyRecord _ _ _ _ := []

/-- A pair-success with a device identity and no device. -/
def deviceless : Node :=
  .mk "iq" [("type", .string "set"), ("id", .string "1")]
    (some (.nodes [.mk "pair-success" []
      (some (.nodes [.mk "device-identity" [] (some (.bytes [1]))]))]))

/-- A device before its pairing. -/
def unpairedDevice : PairingDevice Unit where
  toDeviceState := zeroDevice
  signedPreKeyId := 1
  signedPreKey := ⟨0, 0⟩
  signedPreKeySignature := []
  pn := none
  lid := none
  pushName := ""
  account := none
  serverHasPrekeys := false
  others := ()

omit [WacoreBinary] in
/-- Nothing fails, and a device without a JID is paired. -/
theorem pair_success_without_jid :
    letI := plainWacore
    ¬ ∀ (w : PairWacore) (o : PairOutcomes) (device : PairingDevice Unit) (n : Node)
      (s : PairSession Unit), AllOrNothing w device n s (pairSuccess w o device n s) := by
  let _ := plainWacore
  intro h
  have hwhole := h acceptingWacore ⟨.ok (), .ok (), .ok (), 0⟩ unpairedDevice deviceless
    ⟨some unpairedDevice, fun _ => none, []⟩
  obtain ⟨d, -, jid, -, hjid, -⟩ := hwhole
  cases hjid

end Waepic.Client
