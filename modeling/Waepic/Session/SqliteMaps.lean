import Waepic.Session.Sqlite

/-!
# The maps of the SQLite session

The operations of the session on the Signal state, the app state, the protocol
state and the message secrets act on a family of finite maps: a write sets the
value of its key, a delete removes the value of its key, a clear removes those
of a group, and a read gives the value of its key.  `StoreOp.effect` and
`StoreOp.Returns` say so for each operation, without tables, statements and
encodings.

The tables represent the maps in every run whose operations return `Ok`
(`sqlite_refines_maps`).  The lookups by phone number and the latest sync key
are no maps.
-/

namespace Waepic.Session

open Tables Statements

/-! ## Operations -/

/-- A call of a store operation; `α` is what it returns. -/
inductive StoreOp (ι ρ : Type) : Type → Type where
  | putIdentity (address : String) (key : FixedBytes 32) : StoreOp ι ρ Unit
  | loadIdentity (address : String) : StoreOp ι ρ (Option (FixedBytes 32))
  | deleteIdentity (address : String) : StoreOp ι ρ Unit
  | getSession (address : String) : StoreOp ι ρ (Option Blob)
  | putSession (address : String) (session : Blob) : StoreOp ι ρ Unit
  | deleteSession (address : String) : StoreOp ι ρ Unit
  | storePrekey (id : UInt32) (record : Blob) (uploaded : Bool) : StoreOp ι ρ Unit
  | loadPrekey (id : UInt32) : StoreOp ι ρ (Option Blob)
  | removePrekey (id : UInt32) : StoreOp ι ρ Unit
  | getMaxPrekeyId : StoreOp ι ρ UInt32
  | storeSignedPrekey (id : UInt32) (record : Blob) : StoreOp ι ρ Unit
  | loadSignedPrekey (id : UInt32) : StoreOp ι ρ (Option Blob)
  | loadAllSignedPrekeys : StoreOp ι ρ (List (UInt32 × Blob))
  | removeSignedPrekey (id : UInt32) : StoreOp ι ρ Unit
  | putSenderKey (address : String) (record : Blob) : StoreOp ι ρ Unit
  | getSenderKey (address : String) : StoreOp ι ρ (Option Blob)
  | deleteSenderKey (address : String) : StoreOp ι ρ Unit
  | markPrekeysUploaded (ids : List UInt32) : StoreOp ι ρ Unit
  | getSyncKey (keyId : Blob) : StoreOp ι ρ (Option AppStateSyncKey)
  | setSyncKey (keyId : Blob) (key : AppStateSyncKey) : StoreOp ι ρ Unit
  | getVersion (name : String) : StoreOp ι ρ (HashState ι)
  | setVersion (name : String) (state : HashState ι) : StoreOp ι ρ Unit
  | putMutationMacs (name : String) (version : UInt64) (mutations : List AppStateMutationMAC) :
      StoreOp ι ρ Unit
  | getMutationMac (name : String) (indexMac : Blob) : StoreOp ι ρ (Option Blob)
  | deleteMutationMacs (name : String) (indexMacs : List Blob) : StoreOp ι ρ Unit
  | clearMutationMacs (name : String) : StoreOp ι ρ Unit
  | getSenderKeyDevices (groupJid : String) : StoreOp ι ρ (List (String × Bool))
  | setSenderKeyStatus (groupJid : String) (entries : List (String × Bool)) : StoreOp ι ρ Unit
  | clearSenderKeyDevices (groupJid : String) : StoreOp ι ρ Unit
  | clearAllSenderKeyDevices : StoreOp ι ρ Unit
  | deleteSenderKeyDeviceRows (deviceJids : List String) : StoreOp ι ρ Unit
  | saveBaseKey (address messageId : String) (baseKey : Blob) : StoreOp ι ρ Unit
  | hasSameBaseKey (address messageId : String) (currentBaseKey : Blob) : StoreOp ι ρ Bool
  | deleteBaseKey (address messageId : String) : StoreOp ι ρ Unit
  | updateDeviceList (record : DeviceListRecord ρ) : StoreOp ι ρ Unit
  | getDevices (user : String) : StoreOp ι ρ (Option (DeviceListRecord ρ))
  | deleteDevices (user : String) : StoreOp ι ρ Unit
  | getTcToken (jid : String) : StoreOp ι ρ (Option TcTokenEntry)
  | putTcToken (jid : String) (entry : TcTokenEntry) : StoreOp ι ρ Unit
  | deleteTcToken (jid : String) : StoreOp ι ρ Unit
  | getAllTcTokenJids : StoreOp ι ρ (List String)
  | deleteExpiredTcTokens (tokenCutoff senderCutoff : Int) : StoreOp ι ρ UInt32
  | storeSentMessage (now : Int) (chatJid messageId : String) (payload : Blob) : StoreOp ι ρ Unit
  | takeSentMessage (chatJid messageId : String) : StoreOp ι ρ (Option Blob)
  | deleteExpiredSentMessages (cutoffTimestamp : Int) : StoreOp ι ρ UInt32
  | putMsgSecrets (entries : List MsgSecretEntry) : StoreOp ι ρ Nat
  | getMsgSecret (chat sender msgId : String) : StoreOp ι ρ (Option Blob)
  | getMsgSecretWithTs (chat sender msgId : String) : StoreOp ι ρ (Option (Blob × Int))
  | deleteExpiredMsgSecrets (cutoffTimestamp : Int) : StoreOp ι ρ UInt32

/-- The codecs of the JSON columns. -/
structure Codecs (ι ρ : Type) where
  indexValueMap : JsonCodec ι
  deviceList : JsonCodec (DeviceListRecord ρ)

variable {ι ρ α : Type} [Inhabited ι]

/-- The operation that a call runs. -/
@[reducible] def StoreOp.run (c : Codecs ι ρ) : StoreOp ι ρ α → Sql α
  | .putIdentity address key => SqliteSession.putIdentity address key
  | .loadIdentity address => SqliteSession.loadIdentity address
  | .deleteIdentity address => SqliteSession.deleteIdentity address
  | .getSession address => SqliteSession.getSession address
  | .putSession address session => SqliteSession.putSession address session
  | .deleteSession address => SqliteSession.deleteSession address
  | .storePrekey id record uploaded => SqliteSession.storePrekey id record uploaded
  | .loadPrekey id => SqliteSession.loadPrekey id
  | .removePrekey id => SqliteSession.removePrekey id
  | .getMaxPrekeyId => SqliteSession.getMaxPrekeyId
  | .storeSignedPrekey id record => SqliteSession.storeSignedPrekey id record
  | .loadSignedPrekey id => SqliteSession.loadSignedPrekey id
  | .loadAllSignedPrekeys => SqliteSession.loadAllSignedPrekeys
  | .removeSignedPrekey id => SqliteSession.removeSignedPrekey id
  | .putSenderKey address record => SqliteSession.putSenderKey address record
  | .getSenderKey address => SqliteSession.getSenderKey address
  | .deleteSenderKey address => SqliteSession.deleteSenderKey address
  | .markPrekeysUploaded ids => SqliteSession.markPrekeysUploaded ids
  | .getSyncKey keyId => SqliteSession.getSyncKey keyId
  | .setSyncKey keyId key => SqliteSession.setSyncKey keyId key
  | .getVersion name => SqliteSession.getVersion c.indexValueMap name
  | .setVersion name state => SqliteSession.setVersion c.indexValueMap name state
  | .putMutationMacs name version mutations =>
      SqliteSession.putMutationMacs name version mutations
  | .getMutationMac name indexMac => SqliteSession.getMutationMac name indexMac
  | .deleteMutationMacs name indexMacs => SqliteSession.deleteMutationMacs name indexMacs
  | .clearMutationMacs name => SqliteSession.clearMutationMacs name
  | .getSenderKeyDevices groupJid => SqliteSession.getSenderKeyDevices groupJid
  | .setSenderKeyStatus groupJid entries => SqliteSession.setSenderKeyStatus groupJid entries
  | .clearSenderKeyDevices groupJid => SqliteSession.clearSenderKeyDevices groupJid
  | .clearAllSenderKeyDevices => SqliteSession.clearAllSenderKeyDevices
  | .deleteSenderKeyDeviceRows deviceJids => SqliteSession.deleteSenderKeyDeviceRows deviceJids
  | .saveBaseKey address messageId baseKey => SqliteSession.saveBaseKey address messageId baseKey
  | .hasSameBaseKey address messageId currentBaseKey =>
      SqliteSession.hasSameBaseKey address messageId currentBaseKey
  | .deleteBaseKey address messageId => SqliteSession.deleteBaseKey address messageId
  | .updateDeviceList record => SqliteSession.updateDeviceList c.deviceList record
  | .getDevices user => SqliteSession.getDevices c.deviceList user
  | .deleteDevices user => SqliteSession.deleteDevices user
  | .getTcToken jid => SqliteSession.getTcToken jid
  | .putTcToken jid entry => SqliteSession.putTcToken jid entry
  | .deleteTcToken jid => SqliteSession.deleteTcToken jid
  | .getAllTcTokenJids => SqliteSession.getAllTcTokenJids
  | .deleteExpiredTcTokens tokenCutoff senderCutoff =>
      SqliteSession.deleteExpiredTcTokens tokenCutoff senderCutoff
  | .storeSentMessage now chatJid messageId payload =>
      SqliteSession.storeSentMessage now chatJid messageId payload
  | .takeSentMessage chatJid messageId => SqliteSession.takeSentMessage chatJid messageId
  | .deleteExpiredSentMessages cutoffTimestamp =>
      SqliteSession.deleteExpiredSentMessages cutoffTimestamp
  | .putMsgSecrets entries => SqliteSession.putMsgSecrets entries
  | .getMsgSecret chat sender msgId => SqliteSession.getMsgSecret chat sender msgId
  | .getMsgSecretWithTs chat sender msgId => SqliteSession.getMsgSecretWithTs chat sender msgId
  | .deleteExpiredMsgSecrets cutoffTimestamp =>
      SqliteSession.deleteExpiredMsgSecrets cutoffTimestamp

/-! ## The maps -/

/-- A finite map for each table. -/
structure Maps (ι ρ : Type) where
  identities : String → Option (FixedBytes 32)
  sessions : String → Option Blob
  prekeys : UInt32 → Option Blob
  signedPrekeys : UInt32 → Option Blob
  senderKeys : String → Option Blob
  syncKeys : Blob → Option AppStateSyncKey
  versions : String → Option (HashState ι)
  mutationMacs : String × Blob → Option Blob
  senderKeyDevices : String × String → Option Bool
  baseKeys : String × String → Option Blob
  deviceLists : String → Option (DeviceListRecord ρ)
  tcTokens : String → Option TcTokenEntry
  sentMessages : String × String → Option SentColumns
  msgSecrets : String × String × String → Option SecretColumns

def Maps.empty : Maps ι ρ where
  identities _ := none
  sessions _ := none
  prekeys _ := none
  signedPrekeys _ := none
  senderKeys _ := none
  syncKeys _ := none
  versions _ := none
  mutationMacs _ := none
  senderKeyDevices _ := none
  baseKeys _ := none
  deviceLists _ := none
  tcTokens _ := none
  sentMessages _ := none
  msgSecrets _ := none

open Function (update)

/-- What a call does to the maps. -/
def StoreOp.effect (op : StoreOp ι ρ α) (m : Maps ι ρ) : Maps ι ρ :=
  match op with
  | .putIdentity address key =>
      { m with identities := update m.identities address (some key) }
  | .deleteIdentity address => { m with identities := update m.identities address none }
  | .putSession address session =>
      { m with sessions := update m.sessions address (some session) }
  | .deleteSession address => { m with sessions := update m.sessions address none }
  | .storePrekey id record _ => { m with prekeys := update m.prekeys id (some record) }
  | .removePrekey id => { m with prekeys := update m.prekeys id none }
  | .storeSignedPrekey id record =>
      { m with signedPrekeys := update m.signedPrekeys id (some record) }
  | .removeSignedPrekey id => { m with signedPrekeys := update m.signedPrekeys id none }
  | .putSenderKey address record =>
      { m with senderKeys := update m.senderKeys address (some record) }
  | .deleteSenderKey address => { m with senderKeys := update m.senderKeys address none }
  | .setSyncKey keyId key => { m with syncKeys := update m.syncKeys keyId (some key) }
  | .setVersion name state => { m with versions := update m.versions name (some state) }
  | .putMutationMacs name _ mutations =>
      mutations.foldl (fun m mac =>
        { m with
          mutationMacs := update m.mutationMacs (name, mac.indexMac) (some mac.valueMac) }) m
  | .deleteMutationMacs name indexMacs =>
      indexMacs.foldl (fun m mac =>
        { m with mutationMacs := update m.mutationMacs (name, mac) none }) m
  | .clearMutationMacs name =>
      { m with mutationMacs := fun k => if k.1 = name then none else m.mutationMacs k }
  | .setSenderKeyStatus groupJid entries =>
      entries.foldl (fun m entry =>
        { m with
          senderKeyDevices :=
            update m.senderKeyDevices (groupJid, entry.1) (some entry.2) }) m
  | .clearSenderKeyDevices groupJid =>
      { m with
        senderKeyDevices := fun k => if k.1 = groupJid then none else m.senderKeyDevices k }
  | .clearAllSenderKeyDevices => { m with senderKeyDevices := fun _ => none }
  | .deleteSenderKeyDeviceRows deviceJids =>
      deviceJids.foldl (fun m jid =>
        { m with
          senderKeyDevices := fun k => if k.2 = jid then none else m.senderKeyDevices k }) m
  | .saveBaseKey address messageId baseKey =>
      { m with baseKeys := update m.baseKeys (address, messageId) (some baseKey) }
  | .deleteBaseKey address messageId =>
      { m with baseKeys := update m.baseKeys (address, messageId) none }
  | .updateDeviceList record =>
      { m with deviceLists := update m.deviceLists record.user (some record) }
  | .deleteDevices user => { m with deviceLists := update m.deviceLists user none }
  | .putTcToken jid entry => { m with tcTokens := update m.tcTokens jid (some entry) }
  | .deleteTcToken jid => { m with tcTokens := update m.tcTokens jid none }
  | .deleteExpiredTcTokens tokenCutoff senderCutoff =>
      { m with
        tcTokens := fun k =>
          (m.tcTokens k).filter fun entry => !entry.expired tokenCutoff senderCutoff }
  | .storeSentMessage now chatJid messageId payload =>
      { m with
        sentMessages := update m.sentMessages (chatJid, messageId) (some ⟨payload, now⟩) }
  | .takeSentMessage chatJid messageId =>
      { m with sentMessages := update m.sentMessages (chatJid, messageId) none }
  | .deleteExpiredSentMessages cutoffTimestamp =>
      { m with
        sentMessages := fun k =>
          (m.sentMessages k).filter fun r => !decide (r.createdAt < cutoffTimestamp) }
  | .putMsgSecrets entries =>
      entries.foldl (fun m entry =>
        { m with
          msgSecrets := update m.msgSecrets (entry.chat, entry.sender, entry.msgId)
            (some ⟨entry.secret, entry.expiresAt, entry.messageTs⟩) }) m
  | .deleteExpiredMsgSecrets cutoffTimestamp =>
      { m with
        msgSecrets := fun k =>
          (m.msgSecrets k).filter fun r => !decide (r.expiresAt < cutoffTimestamp) }
  | _ => m

/-- A list of the values that `m` has for the keys with `p`, in some order. -/
def Lists {κ ν σ : Type} (pairs : List (κ × ν)) (m : σ → Option ν) (key : κ → σ) : Prop :=
  (pairs.map Prod.fst).Nodup ∧ ∀ k v, (k, v) ∈ pairs ↔ m (key k) = some v

/-- What a call may return. -/
def StoreOp.Returns : StoreOp ι ρ α → Maps ι ρ → α → Prop
  | .loadIdentity address, m, r => r = m.identities address
  | .getSession address, m, r => r = m.sessions address
  | .loadPrekey id, m, r => r = m.prekeys id
  | .getMaxPrekeyId, m, r =>
      (m.prekeys r ≠ none ∨ r = 0) ∧ ∀ id, m.prekeys id ≠ none → m.prekeys r ≠ none ∧ id ≤ r
  | .loadSignedPrekey id, m, r => r = m.signedPrekeys id
  | .loadAllSignedPrekeys, m, r => Lists r m.signedPrekeys id
  | .getSenderKey address, m, r => r = m.senderKeys address
  | .getSyncKey keyId, m, r => r = m.syncKeys keyId
  | .getVersion name, m, r => r = (m.versions name).getD .default
  | .getMutationMac name indexMac, m, r => r = m.mutationMacs (name, indexMac)
  | .getSenderKeyDevices groupJid, m, r => Lists r m.senderKeyDevices (groupJid, ·)
  | .hasSameBaseKey address messageId currentBaseKey, m, r =>
      r = decide (m.baseKeys (address, messageId) = some currentBaseKey)
  | .getDevices user, m, r => r = m.deviceLists user
  | .getTcToken jid, m, r => r = m.tcTokens jid
  | .getAllTcTokenJids, m, r => r.Nodup ∧ ∀ jid, jid ∈ r ↔ m.tcTokens jid ≠ none
  | .takeSentMessage chatJid messageId, m, r =>
      r = (m.sentMessages (chatJid, messageId)).map (·.payload)
  | .putMsgSecrets entries, _, r => r = entries.length
  | .getMsgSecret chat sender msgId, m, r => r = (m.msgSecrets (chat, sender, msgId)).map (·.secret)
  | .getMsgSecretWithTs chat sender msgId, m, r =>
      r = (m.msgSecrets (chat, sender, msgId)).map fun c => (c.secret, c.messageTs)
  | _, _, _ => True

/-- The order of ids is the one that `MAX` uses. -/
instance lawfulOrderMax_id : Std.LawfulOrderMax UInt32 where
  max_eq_or a b := by
    simp only [max]
    split
    · exact .inr rfl
    · exact .inl rfl
  max_le_iff a b c := by
    simp only [max]
    split
    · next h => exact ⟨fun hb => ⟨UInt32.le_trans h hb, hb⟩, fun hab => hab.2⟩
    · next h =>
        have hba := (UInt32.le_total a b).resolve_left h
        exact ⟨fun ha => ⟨ha, UInt32.le_trans hba ha⟩, fun hab => hab.1⟩

/-! ## Runs -/

/-- A call that returned `Ok`. -/
structure Returned (ι ρ : Type) where
  {α : Type}
  op : StoreOp ι ρ α
  result : α

/-- The calls, oldest first, take a new database to a session, and all return `Ok`. -/
inductive Ran (c : Codecs ι ρ) : List (Returned ι ρ) → SqliteSession → Prop where
  | new : Ran c [] .new
  | call {calls : List (Returned ι ρ)} {s t : SqliteSession} {α : Type} {op : StoreOp ι ρ α}
      {a : α} : Ran c calls s → (op.run c).Yields s a t → Ran c (calls ++ [⟨op, a⟩]) t

/-- What the calls leave in the maps. -/
def mapsAfter (calls : List (Returned ι ρ)) : Maps ι ρ :=
  calls.foldl (fun m call => call.op.effect m) .empty

/-- The call took a payload of the key. -/
def Returned.isTake (chatJid messageId : String) : Returned ι ρ → Bool
  | ⟨.takeSentMessage chat id, some _⟩ => chat = chatJid && id = messageId
  | _ => false

/-- The call stored a payload of the key. -/
def Returned.isStore (chatJid messageId : String) : Returned ι ρ → Bool
  | ⟨.storeSentMessage _ chat id _, _⟩ => chat = chatJid && id = messageId
  | _ => false

/-! ## The tables represent the maps -/

/-- A row of `app_versions` for a state. -/
structure VersionColumns.IsFor (codec : JsonCodec ι) (r : VersionColumns) (v : HashState ι) :
    Prop where
  version_lt : v.version.toNat < 2 ^ 63
  version : r.version = v.version.toNat
  hash : r.hash = some v.hash.val
  indexValueMap : ∃ text, r.indexValueMap = some text ∧ codec.toString v.indexValueMap = .ok text

structure Represented (c : Codecs ι ρ) (s : SqliteSession) (m : Maps ι ρ) : Prop where
  identities : s.identities.Represents (fun _ r v => r = v.val) m.identities
  sessions : s.signalSessions.Represents (fun _ => Eq) m.sessions
  prekeys : s.prekeys.Represents (fun _ r v => r.record = v) m.prekeys
  signedPrekeys : s.signedPrekeys.Represents (fun _ => Eq) m.signedPrekeys
  senderKeys : s.senderKeys.Represents (fun _ => Eq) m.senderKeys
  syncKeys : s.syncKeys.Represents (fun _ => Eq) m.syncKeys
  versions : s.appVersions.Represents (fun _ => VersionColumns.IsFor c.indexValueMap) m.versions
  mutationMacs : s.mutationMacs.Represents (fun _ => Eq) m.mutationMacs
  senderKeyDevices :
    s.senderKeyDevices.Represents (fun _ r v => decide (r ≠ 0) = v) m.senderKeyDevices
  baseKeys : s.baseKeys.Represents (fun _ => Eq) m.baseKeys
  deviceLists :
    s.deviceLists.Represents (fun _ r v => c.deviceList.toString v = .ok r) m.deviceLists
  tcTokens : s.tcTokens.Represents (fun _ => Eq) m.tcTokens
  sentMessages : s.sentMessages.Represents (fun _ => Eq) m.sentMessages
  msgSecrets : s.msgSecrets.Represents (fun _ => Eq) m.msgSecrets

section Refinement

variable {c : Codecs ι ρ} {s t : SqliteSession} {m : Maps ι ρ}

omit [Inhabited ι] in
theorem represented_new : Represented c .new (.empty : Maps ι ρ) :=
  ⟨Table.represents_empty, Table.represents_empty, Table.represents_empty,
    Table.represents_empty, Table.represents_empty, Table.represents_empty,
    Table.represents_empty, Table.represents_empty, Table.represents_empty,
    Table.represents_empty, Table.represents_empty, Table.represents_empty,
    Table.represents_empty, Table.represents_empty⟩

omit [Inhabited ι] in
/-- Steps that each keep the representation. -/
theorem Represented.foldl {β : Type} {f : SqliteSession → β → SqliteSession}
    {g : Maps ι ρ → β → Maps ι ρ}
    (hstep : ∀ s m b, Represented c s m → Represented c (f s b) (g m b)) (bs : List β)
    (h : Represented c s m) : Represented c (bs.foldl f s) (bs.foldl g m) := by
  induction bs generalizing s m with
  | nil => exact h
  | cons b bs ih => exact ih (hstep s m b h)

/-- A state is read as it was written. -/
theorem VersionColumns.IsFor.decode {codec : JsonCodec ι} {r : VersionColumns} {v : HashState ι}
    (h : r.IsFor codec v) : r.decode codec (UInt64.ofNat r.version.toNat) = v := by
  obtain ⟨text, htext, hencode⟩ := h.indexValueMap
  obtain ⟨version, hash, ivm⟩ := v
  have hversion : UInt64.ofNat r.version.toNat = version := by simp [h.version]
  have hivm : (codec.fromStr text).toOption = some ivm := by
    rw [codec.fromStr_toString hencode]
    rfl
  unfold VersionColumns.decode
  rw [h.hash, htext, hversion, Option.bind_some, hivm]
  simp [hash.property]

omit [Inhabited ι] in
/-- The largest id is the largest key of the map. -/
theorem Represented.maxPrekeyId (h : Represented c s m) :
    (m.prekeys (s.prekeys.maxKey.getD 0) ≠ none ∨ s.prekeys.maxKey.getD 0 = 0) ∧
      ∀ id, m.prekeys id ≠ none →
        m.prekeys (s.prekeys.maxKey.getD 0) ≠ none ∧ id ≤ s.prekeys.maxKey.getD 0 := by
  cases hmax : s.prekeys.maxKey with
  | none =>
      refine ⟨.inr rfl, fun id hid => ?_⟩
      exact absurd (h.prekeys.of_none (Table.maxKey_eq_none.mp hmax id)) hid
  | some k =>
      obtain ⟨⟨v, hv⟩, hle⟩ := Table.maxKey_eq_some.mp hmax
      have hstored : m.prekeys k ≠ none := by
        rw [ne_eq, h.prekeys.eq_none_iff, hv]
        simp
      refine ⟨.inl hstored, fun id hid => ⟨hstored, ?_⟩⟩
      rw [ne_eq, h.prekeys.eq_none_iff] at hid
      obtain ⟨r, hr⟩ := Option.ne_none_iff_exists'.mp hid
      exact hle id r hr

omit [Inhabited ι] in
/-- The rows of a group list its devices. -/
theorem senderKeyDevices_lists (s : SqliteSession) (groupJid : String) :
    Lists ((s.senderKeyDevices.selectBy (fun k _ => k.1 = groupJid) (·.2)).map fun r =>
      (r.1.2, decide (r.2 ≠ 0)))
      (fun k => (s.senderKeyDevices.lookup k).map fun r => decide (r ≠ 0)) (groupJid, ·) := by
  constructor
  · -- Rows of one group with one device have one key.
    rw [List.map_map]
    have hperm := s.senderKeyDevices.selectBy_perm (fun k _ => k.1 = groupJid) (·.2)
    have hrows := hperm.nodup_iff.mpr ((List.Nodup.of_map _ s.senderKeyDevices.unique).filter _)
    refine hrows.map_on fun r hr r' hr' hdevice => ?_
    obtain ⟨hmem, hgroup⟩ := List.mem_filter.mp (hperm.mem_iff.mp hr)
    obtain ⟨hmem', hgroup'⟩ := List.mem_filter.mp (hperm.mem_iff.mp hr')
    have hkey : r.1 = r'.1 :=
      Prod.ext ((of_decide_eq_true hgroup).trans (of_decide_eq_true hgroup').symm) hdevice
    exact List.inj_on_of_nodup_map s.senderKeyDevices.unique hmem hmem' hkey
  · intro jid hasKey
    rw [Option.map_eq_some_iff]
    simp only [Table.lookup_eq_some, List.mem_map, (Table.selectBy_perm ..).mem_iff,
      Table.select, List.mem_filter, Prod.exists, decide_eq_true_eq, Prod.mk.injEq]
    constructor
    · rintro ⟨group, device, r, ⟨hrow, rfl⟩, rfl, hkey⟩
      exact ⟨r, hrow, hkey⟩
    · rintro ⟨r, hrow, hkey⟩
      exact ⟨groupJid, jid, r, ⟨hrow, rfl⟩, rfl, hkey⟩

omit [Inhabited ι] in
/-- The devices of a group. -/
theorem Represented.senderKeyDevices_lists (h : Represented c s m) (groupJid : String) :
    Lists ((s.senderKeyDevices.selectBy (fun k _ => k.1 = groupJid) (·.2)).map fun r =>
      (r.1.2, decide (r.2 ≠ 0))) m.senderKeyDevices (groupJid, ·) := by
  have hvalue : m.senderKeyDevices =
      fun k => (s.senderKeyDevices.lookup k).map fun r => decide (r ≠ 0) := by
    funext k
    exact ((h.senderKeyDevices.map_lookup fun _ _ hrow => hrow).trans
      (congrFun Option.map_id_fun' _)).symm
  rw [hvalue]
  exact Session.senderKeyDevices_lists s groupJid

/-- A boolean is read as it was written. -/
theorem decide_i32From (b : Bool) : decide (i32From b ≠ 0) = b := by
  cases b <;> rfl

/-- Each call returns what the maps say, and acts on them. -/
theorem StoreOp.refines (op : StoreOp ι ρ α) (a : α) (h : Represented c s m)
    (hyields : (op.run c).Yields s a t) : op.Returns m a ∧ Represented c t (op.effect m) := by
  cases op with
  | putIdentity address key =>
      obtain rfl := hyields.execute
      exact ⟨trivial, { h with identities := h.identities.insertOrReplace rfl }⟩
  | loadIdentity address =>
      have hrest := yields_prepare_query_bind hyields
      split at hrest
      · next key hkey =>
          obtain ⟨v, hv, hrow⟩ := h.identities.of_row hkey
          split at hrest
          · obtain ⟨rfl, rfl⟩ := hrest.pure
            subst hrow
            exact ⟨hv.symm, h⟩
          · exact hrest.throw.elim
      · next hkey =>
          obtain ⟨rfl, rfl⟩ := hrest.pure
          exact ⟨(h.identities.of_none hkey).symm, h⟩
  | deleteIdentity address =>
      obtain rfl := hyields.execute
      exact ⟨trivial, { h with identities := h.identities.delete }⟩
  | getSession address =>
      obtain ⟨rfl, rfl⟩ := yields_prepare_query hyields
      exact ⟨h.sessions.lookup_eq, h⟩
  | putSession address session =>
      obtain rfl := hyields.execute
      exact ⟨trivial, { h with sessions := h.sessions.insertOrReplace rfl }⟩
  | deleteSession address =>
      obtain rfl := hyields.execute
      exact ⟨trivial, { h with sessions := h.sessions.delete }⟩
  | storePrekey id record uploaded =>
      obtain rfl := hyields.execute
      exact ⟨trivial, { h with prekeys := h.prekeys.insertOrReplaceById rfl }⟩
  | loadPrekey id =>
      obtain ⟨rfl, rfl⟩ := yields_prepare_query hyields
      exact ⟨(h.prekeys.map_lookup fun _ _ hrow => hrow).trans (congrFun Option.map_id_fun' _), h⟩
  | removePrekey id =>
      obtain rfl := hyields.execute
      exact ⟨trivial, { h with prekeys := h.prekeys.delete }⟩
  | getMaxPrekeyId =>
      obtain ⟨_, _, hquery, hpure⟩ := hyields.bind
      obtain ⟨rfl, rfl⟩ := hquery.query
      obtain ⟨rfl, rfl⟩ := hpure.pure
      exact ⟨h.maxPrekeyId, h⟩
  | storeSignedPrekey id record =>
      obtain rfl := hyields.execute
      exact ⟨trivial, { h with signedPrekeys := h.signedPrekeys.insertOrReplaceById rfl }⟩
  | loadSignedPrekey id =>
      obtain ⟨rfl, rfl⟩ := yields_prepare_query hyields
      exact ⟨h.signedPrekeys.lookup_eq, h⟩
  | loadAllSignedPrekeys =>
      obtain ⟨rfl, rfl⟩ := yields_prepare_query hyields
      refine ⟨⟨t.signedPrekeys.unique, fun k v => ?_⟩, h⟩
      rw [← Table.lookup_eq_some, h.signedPrekeys.lookup_eq]
      rfl
  | removeSignedPrekey id =>
      obtain rfl := hyields.execute
      exact ⟨trivial, { h with signedPrekeys := h.signedPrekeys.delete }⟩
  | putSenderKey address record =>
      obtain rfl := hyields.execute
      exact ⟨trivial, { h with senderKeys := h.senderKeys.insertOrReplace rfl }⟩
  | getSenderKey address =>
      obtain ⟨rfl, rfl⟩ := yields_prepare_query hyields
      exact ⟨h.senderKeys.lookup_eq, h⟩
  | deleteSenderKey address =>
      obtain rfl := hyields.execute
      exact ⟨trivial, { h with senderKeys := h.senderKeys.delete }⟩
  | markPrekeysUploaded ids =>
      obtain rfl := yields_prepare_forM hyields
      have hkept := Represented.foldl (c := c)
        (f := fun s id => { s with prekeys := s.prekeys.update id fun r => { r with uploaded := 1 } })
        (g := fun m _ => m)
        (fun _ _ _ h => { h with prekeys := h.prekeys.unseen fun _ _ hrow => hrow }) ids h
      rw [List.foldl_fixed] at hkept
      exact ⟨trivial, hkept⟩
  | getSyncKey keyId =>
      obtain ⟨rfl, rfl⟩ := yields_prepare_query hyields
      exact ⟨h.syncKeys.lookup_eq, h⟩
  | setSyncKey keyId key =>
      obtain rfl := hyields.execute
      exact ⟨trivial, { h with syncKeys := h.syncKeys.insertOrReplace rfl }⟩
  | getVersion name =>
      have hrest := yields_prepare_query_bind hyields
      split at hrest
      · next r hr =>
          obtain ⟨v, hv, hrow⟩ := h.versions.of_row hr
          split at hrest
          · exact hrest.throw.elim
          · obtain ⟨rfl, rfl⟩ := hrest.pure
            have hread : (m.versions name).getD .default = v := by rw [hv, Option.getD_some]
            exact ⟨hrow.decode.trans hread.symm, h⟩
      · next hr =>
          obtain ⟨rfl, rfl⟩ := hrest.pure
          have hread : (m.versions name).getD .default = .default := by
            rw [h.versions.of_none hr, Option.getD_none]
          exact ⟨hread.symm, h⟩
  | setVersion name state =>
      obtain ⟨ivm, _, hjson, hwrite⟩ := hyields.bind
      obtain ⟨htext, rfl⟩ := yields_toJson hjson
      have hwritten := hwrite.statement
      split at hwritten
      · next hlt =>
          cases hwritten
          have hrow : VersionColumns.IsFor c.indexValueMap
              ⟨state.version.toNat, some state.hash.val, some ivm⟩ state :=
            ⟨hlt, rfl, rfl, ivm, rfl, htext⟩
          exact ⟨trivial, { h with versions := h.versions.insertOrReplace hrow }⟩
      · cases hwritten
  | putMutationMacs name version mutations =>
      obtain rfl := yields_prepare_forM hyields
      refine ⟨trivial, Represented.foldl (fun _ _ _ h => ?_) _ h⟩
      exact { h with mutationMacs := h.mutationMacs.insertOrReplace rfl }
  | getMutationMac name indexMac =>
      obtain ⟨rfl, rfl⟩ := yields_prepare_query hyields
      exact ⟨h.mutationMacs.lookup_eq, h⟩
  | deleteMutationMacs name indexMacs =>
      obtain rfl := yields_prepare_forM hyields
      refine ⟨trivial, Represented.foldl (fun _ _ _ h => ?_) _ h⟩
      exact { h with mutationMacs := h.mutationMacs.delete }
  | clearMutationMacs name =>
      obtain rfl := hyields.execute
      exact ⟨trivial, { h with mutationMacs := h.mutationMacs.deleteKeys }⟩
  | getSenderKeyDevices groupJid =>
      obtain ⟨rfl, rfl⟩ := yields_prepare_query hyields
      exact ⟨h.senderKeyDevices_lists groupJid, h⟩
  | setSenderKeyStatus groupJid entries =>
      obtain rfl := yields_prepare_forM hyields
      refine ⟨trivial, Represented.foldl (fun _ _ _ h => ?_) _ h⟩
      exact { h with senderKeyDevices := h.senderKeyDevices.insertOrReplace (decide_i32From _) }
  | clearSenderKeyDevices groupJid =>
      obtain rfl := hyields.execute
      exact ⟨trivial, { h with senderKeyDevices := h.senderKeyDevices.deleteKeys }⟩
  | clearAllSenderKeyDevices =>
      obtain rfl := hyields.execute
      exact ⟨trivial, { h with senderKeyDevices := h.senderKeyDevices.clear }⟩
  | deleteSenderKeyDeviceRows deviceJids =>
      obtain rfl := yields_prepare_forM hyields
      refine ⟨trivial, Represented.foldl (fun _ _ _ h => ?_) _ h⟩
      exact { h with senderKeyDevices := h.senderKeyDevices.deleteKeys }
  | saveBaseKey address messageId baseKey =>
      obtain rfl := hyields.execute
      exact ⟨trivial, { h with baseKeys := h.baseKeys.insertOrReplace rfl }⟩
  | hasSameBaseKey address messageId currentBaseKey =>
      have hrest := yields_prepare_query_bind hyields
      split at hrest
      · next baseKey hrow =>
          obtain ⟨rfl, rfl⟩ := hrest.pure
          rw [h.baseKeys.lookup_eq] at hrow
          refine ⟨?_, h⟩
          show _ = decide (m.baseKeys (address, messageId) = some currentBaseKey)
          simp [hrow]
      · next hrow =>
          obtain ⟨rfl, rfl⟩ := hrest.pure
          rw [h.baseKeys.lookup_eq] at hrow
          refine ⟨?_, h⟩
          show false = decide (m.baseKeys (address, messageId) = some currentBaseKey)
          simp [hrow]
  | deleteBaseKey address messageId =>
      obtain rfl := hyields.execute
      exact ⟨trivial, { h with baseKeys := h.baseKeys.delete }⟩
  | updateDeviceList record =>
      obtain ⟨json, _, hjson, hwrite⟩ := hyields.bind
      obtain ⟨htext, rfl⟩ := yields_toJson hjson
      obtain rfl := hwrite.execute
      exact ⟨trivial, { h with deviceLists := h.deviceLists.insertOrReplace htext }⟩
  | getDevices user =>
      have hrest := yields_prepare_query_bind hyields
      split at hrest
      · next json hrow =>
          obtain ⟨v, hv, htext⟩ := h.deviceLists.of_row hrow
          obtain ⟨record, _, hjson, hpure⟩ := hrest.bind
          obtain ⟨hrecord, rfl⟩ := yields_fromJson hjson
          obtain ⟨rfl, rfl⟩ := hpure.pure
          rw [c.deviceList.fromStr_toString htext] at hrecord
          cases hrecord
          exact ⟨hv.symm, h⟩
      · next hrow =>
          obtain ⟨rfl, rfl⟩ := hrest.pure
          exact ⟨(h.deviceLists.of_none hrow).symm, h⟩
  | deleteDevices user =>
      obtain rfl := hyields.execute
      exact ⟨trivial, { h with deviceLists := h.deviceLists.delete }⟩
  | getTcToken jid =>
      obtain ⟨rfl, rfl⟩ := yields_prepare_query hyields
      exact ⟨h.tcTokens.lookup_eq, h⟩
  | putTcToken jid entry =>
      obtain rfl := hyields.execute
      exact ⟨trivial, { h with tcTokens := h.tcTokens.insertOrReplace rfl }⟩
  | deleteTcToken jid =>
      obtain rfl := hyields.execute
      exact ⟨trivial, { h with tcTokens := h.tcTokens.delete }⟩
  | getAllTcTokenJids =>
      obtain ⟨rfl, rfl⟩ := yields_prepare_query hyields
      have hperm := t.tcTokens.selectBy_perm (fun _ _ => true) id
      have hrows : t.tcTokens.select (fun _ _ => true) = t.tcTokens.rows := List.filter_true ..
      rw [hrows] at hperm
      refine ⟨⟨((hperm.map _).nodup_iff).mpr t.tcTokens.unique, fun jid => ?_⟩, h⟩
      rw [(hperm.map _).mem_iff]
      simp [Option.ne_none_iff_exists', ← h.tcTokens.lookup_eq, Table.lookup_eq_some]
  | deleteExpiredTcTokens tokenCutoff senderCutoff =>
      obtain rfl := yields_executeDelete hyields
      exact ⟨trivial, { h with tcTokens := h.tcTokens.deleteWhere fun _ _ _ hrow => by rw [hrow] }⟩
  | storeSentMessage now chatJid messageId payload =>
      obtain rfl := hyields.execute
      exact ⟨trivial, { h with sentMessages := h.sentMessages.insertOrReplace rfl }⟩
  | takeSentMessage chatJid messageId =>
      obtain ⟨_, _, hprepare, htake⟩ := hyields.bind
      obtain ⟨-, rfl⟩ := hprepare.query
      cases htake.statement
      refine ⟨?_, { h with sentMessages := h.sentMessages.delete }⟩
      exact h.sentMessages.map_lookup fun _ _ hrow => by rw [hrow]
  | deleteExpiredSentMessages cutoffTimestamp =>
      obtain rfl := yields_executeDelete hyields
      exact ⟨trivial, { h with
        sentMessages := h.sentMessages.deleteWhere fun _ _ _ hrow => by rw [hrow] }⟩
  | putMsgSecrets entries =>
      obtain ⟨_, _, hprepare, hrest⟩ := hyields.bind
      obtain ⟨_, _, hloop, hpure⟩ := hrest.bind
      obtain ⟨-, rfl⟩ := hprepare.query
      obtain rfl := hloop.forM
      obtain ⟨rfl, rfl⟩ := hpure.pure
      refine ⟨rfl, Represented.foldl (fun _ _ _ h => ?_) _ h⟩
      exact { h with msgSecrets := h.msgSecrets.insertOrReplace rfl }
  | getMsgSecret chat sender msgId =>
      obtain ⟨rfl, rfl⟩ := yields_prepare_query hyields
      exact ⟨h.msgSecrets.map_lookup fun _ _ hrow => by rw [hrow], h⟩
  | getMsgSecretWithTs chat sender msgId =>
      obtain ⟨rfl, rfl⟩ := yields_prepare_query hyields
      exact ⟨h.msgSecrets.map_lookup fun _ _ hrow => by rw [hrow], h⟩
  | deleteExpiredMsgSecrets cutoffTimestamp =>
      obtain rfl := yields_executeDelete hyields
      exact ⟨trivial, { h with
        msgSecrets := h.msgSecrets.deleteWhere fun _ _ _ hrow => by rw [hrow] }⟩

/-! ### Payloads are taken once -/

/-- Whether there is a payload of the key. -/
def held (m : Maps ι ρ) (key : String × String) : Nat :=
  if (m.sentMessages key).isSome then 1 else 0

omit [Inhabited ι] in
theorem held_foldl {β : Type} {g : Maps ι ρ → β → Maps ι ρ}
    (hg : ∀ m b, (g m b).sentMessages = m.sentMessages) (bs : List β) (key : String × String) :
    held (bs.foldl g m) key = held m key := by
  induction bs generalizing m with
  | nil => rfl
  | cons b bs ih => rw [List.foldl_cons, ih, held, hg, held]

omit [Inhabited ι] in
theorem held_update_self (key : String × String) (r : Option SentColumns) :
    held { m with sentMessages := update m.sentMessages key r } key =
      if r.isSome then 1 else 0 := by
  simp only [held, Function.update_self]

omit [Inhabited ι] in
theorem held_update_of_ne {key other : String × String} (h : other ≠ key)
    (r : Option SentColumns) :
    held { m with sentMessages := update m.sentMessages key r } other = held m other := by
  simp only [held, Function.update_of_ne h]

omit [Inhabited ι] in
theorem held_filter_le (p : SentColumns → Bool) (key : String × String) :
    held { m with sentMessages := fun k => (m.sentMessages k).filter p } key ≤ held m key := by
  cases hm : m.sentMessages key with
  | none => simp [held, hm]
  | some r =>
      simp only [held, hm, Option.isSome_some, if_true]
      split
      · exact Nat.le_refl _
      · exact Nat.zero_le _

/-- A call takes what there is, and a store leaves one payload at most. -/
theorem StoreOp.held_effect (op : StoreOp ι ρ α) (a : α) (hreturns : op.Returns m a)
    (chatJid messageId : String) :
    (if Returned.isTake chatJid messageId ⟨op, a⟩ then 1 else 0) +
        held (op.effect m) (chatJid, messageId) ≤
      held m (chatJid, messageId) +
        if Returned.isStore chatJid messageId ⟨op, a⟩ then 1 else 0 := by
  cases op with
  | takeSentMessage chat id =>
      have hresult : a = (m.sentMessages (chat, id)).map (·.payload) := hreturns
      show _ + held { m with sentMessages := update m.sentMessages (chat, id) none } _ ≤ _
      by_cases hkey : (chatJid, messageId) = (chat, id)
      · obtain ⟨rfl, rfl⟩ := Prod.mk.inj hkey
        rw [held_update_self, hresult]
        cases hm : m.sentMessages (chatJid, messageId) <;> simp [hm, held, Returned.isTake]
      · rw [held_update_of_ne hkey]
        have hother : Returned.isTake chatJid messageId
            (⟨.takeSentMessage chat id, a⟩ : Returned ι ρ) = false := by
          cases a with
          | none => rfl
          | some payload =>
              have hne : ¬ (chat = chatJid ∧ id = messageId) := by
                rintro ⟨rfl, rfl⟩
                exact hkey rfl
              simpa [Returned.isTake] using hne
        simp [hother]
  | storeSentMessage now chat id payload =>
      show 0 + held { m with sentMessages := update m.sentMessages (chat, id) (some _) } _ ≤ _
      by_cases hkey : (chatJid, messageId) = (chat, id)
      · obtain ⟨rfl, rfl⟩ := Prod.mk.inj hkey
        rw [held_update_self]
        simp [Returned.isStore]
      · rw [held_update_of_ne hkey, Nat.zero_add]
        exact Nat.le_add_right _ _
  | deleteExpiredSentMessages cutoff =>
      show 0 + held { m with sentMessages := fun k => (m.sentMessages k).filter _ } _ ≤ _
      rw [Nat.zero_add]
      exact held_filter_le _ _
  | putMutationMacs | deleteMutationMacs | setSenderKeyStatus | deleteSenderKeyDeviceRows
  | putMsgSecrets =>
      -- A loop over the rows of another table.
      refine Nat.le_of_eq ((Nat.zero_add _).trans (Eq.trans (held_foldl ?_ _ _) rfl))
      exact fun _ _ => rfl
  | _ => exact Nat.le_of_eq (Nat.zero_add _)

/-! ### Every run -/

omit [Inhabited ι] in
theorem mapsAfter_concat (calls : List (Returned ι ρ)) (call : Returned ι ρ) :
    mapsAfter (calls ++ [call]) = call.op.effect (mapsAfter calls) :=
  List.foldl_concat ..

theorem represented_of_ran {calls : List (Returned ι ρ)} (h : Ran c calls s) :
    Represented c s (mapsAfter calls) := by
  induction h with
  | new => exact represented_new
  | call _ hyields ih =>
      rw [mapsAfter_concat]
      exact (StoreOp.refines _ _ ih hyields).2

/-- In every run whose calls return `Ok` the tables represent the maps that the
calls leave, each call returns what the maps say, and no payload is taken twice. -/
theorem sqlite_refines_maps (c : Codecs ι ρ) (calls : List (Returned ι ρ)) (s : SqliteSession)
    (h : Ran c calls s) :
    Represented c s (mapsAfter calls) ∧
      (∀ before call after, calls = before ++ call :: after →
        call.op.Returns (mapsAfter before) call.result) ∧
      ∀ chatJid messageId,
        calls.countP (Returned.isTake chatJid messageId) ≤
          calls.countP (Returned.isStore chatJid messageId) := by
  refine ⟨represented_of_ran h, ?_, ?_⟩
  · induction h with
    | new => simp
    | call hran hyields ih =>
        intro before call after heq
        rcases List.eq_nil_or_concat after with rfl | ⟨after', last, rfl⟩
        · obtain ⟨rfl, hlast⟩ := List.append_inj' heq rfl
          cases hlast
          exact (StoreOp.refines _ _ (represented_of_ran hran) hyields).1
        · rw [List.concat_eq_append, ← List.cons_append, ← List.append_assoc] at heq
          exact ih _ _ _ (List.append_inj' heq rfl).1
  · intro chatJid messageId
    have hcount : calls.countP (Returned.isTake chatJid messageId) +
        held (mapsAfter calls) (chatJid, messageId) ≤
          calls.countP (Returned.isStore chatJid messageId) := by
      induction h with
      | new => simp [mapsAfter, Maps.empty, held]
      | call hran hyields ih =>
          have hreturns := (StoreOp.refines _ _ (represented_of_ran hran) hyields).1
          have hstep := StoreOp.held_effect _ _ hreturns chatJid messageId
          rw [mapsAfter_concat, List.countP_append, List.countP_append, List.countP_singleton,
            List.countP_singleton]
          dsimp only at ih hstep ⊢
          omega
    omega

end Refinement

/-- Codecs for records of users. -/
def userCodecs : Codecs Unit Unit where
  indexValueMap := ⟨fun _ => .ok "{}", fun _ => .ok (), fun _ => rfl⟩
  deviceList :=
    { toString := fun record => .ok record.user
      fromStr := fun text => .ok ⟨text, ()⟩
      fromStr_toString := fun h => by cases h; rfl }

/-- A payload is stored and taken, and is not there again. -/
theorem sqlite_refines_maps_taken :
    ∃ s, Ran userCodecs [⟨.storeSentMessage 0 "chat" "id" [1], ()⟩,
        ⟨.takeSentMessage "chat" "id", some [1]⟩, ⟨.takeSentMessage "chat" "id", none⟩] s ∧
      Represented userCodecs s (mapsAfter [⟨.storeSentMessage 0 "chat" "id" [1], ()⟩,
        ⟨.takeSentMessage "chat" "id", some [1]⟩, ⟨.takeSentMessage "chat" "id", none⟩]) := by
  have h₁ : Ran userCodecs [⟨.storeSentMessage 0 "chat" "id" [1], ()⟩] _ :=
    .call .new ⟨[], [], rfl⟩
  have h₂ : Ran userCodecs [⟨.storeSentMessage 0 "chat" "id" [1], ()⟩,
      ⟨.takeSentMessage "chat" "id", some [1]⟩] _ := .call h₁ ⟨[], [], rfl⟩
  have h₃ : Ran userCodecs [⟨.storeSentMessage 0 "chat" "id" [1], ()⟩,
      ⟨.takeSentMessage "chat" "id", some [1]⟩, ⟨.takeSentMessage "chat" "id", none⟩] _ :=
    .call h₂ ⟨[], [], rfl⟩
  exact ⟨_, h₃, (sqlite_refines_maps _ _ _ h₃).1⟩

end Waepic.Session
