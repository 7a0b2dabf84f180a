import Waepic.Library.Statements
import Waepic.Library.Table
import Mathlib.Data.UInt

/-!
# The SQLite session

`SqliteSession` keeps its data in the tables of `SCHEMA`.  Every operation takes
the lock of the connection, so operations run one after another, and every
statement commits on its own.  A statement may fail at any point; what the
statements before it did stays.

A column has the type that the operations write to it: `INTEGER` is an `i64`,
and a boolean is written as 0 or 1.  `Device` and the values that are stored as
JSON are parameters with their codecs.  `group_metadata` and `pending_inbound`
have no operation.
-/

namespace Waepic.Session

open Tables Statements

/-! ## Values and rows -/

/-- A `BLOB`. -/
abbrev Blob := List UInt8

/-- `[u8; n]`. -/
abbrev FixedBytes (n : Nat) := { b : Blob // b.length = n }

inductive StoreError where
  /-- `rusqlite_err`. -/
  | database (message : String)
  | validation (message : String)
  | serialization (message : String)

/-- `serde_json` for a type; what it writes it reads back. -/
structure JsonCodec (α : Type) where
  toString : α → Except String String
  fromStr : String → Except String α
  fromStr_toString : ∀ {a text}, toString a = .ok text → fromStr text = .ok a

structure AppStateSyncKey where
  keyData : Blob
  fingerprint : Blob
  timestamp : Int
deriving DecidableEq

/-- `HashState`, with an `index_value_map` of type `ι`. -/
structure HashState (ι : Type) where
  version : UInt64
  hash : FixedBytes 128
  indexValueMap : ι

/-- `HashState::default()`. -/
def HashState.default {ι : Type} [Inhabited ι] : HashState ι where
  version := 0
  hash := ⟨List.replicate 128 0, List.length_replicate⟩
  indexValueMap := Inhabited.default

structure AppStateMutationMAC where
  indexMac : Blob
  valueMac : Blob

structure LidPnMappingEntry where
  lid : String
  phoneNumber : String
  createdAt : Int
  updatedAt : Int
  learningSource : String
deriving DecidableEq

/-- `DeviceListRecord`, with its other fields. -/
structure DeviceListRecord (ρ : Type) where
  user : String
  others : ρ

structure TcTokenEntry where
  token : Blob
  tokenTimestamp : Int
  senderTimestamp : Option Int
deriving DecidableEq

structure MsgSecretEntry where
  chat : String
  sender : String
  msgId : String
  secret : Blob
  expiresAt : Int
  messageTs : Int

/-- A row of `prekeys`, by its id. -/
structure PrekeyColumns where
  record : Blob
  uploaded : Int

/-- A row of `app_versions`, by its name. -/
structure VersionColumns where
  version : Int
  hash : Option Blob
  indexValueMap : Option String

/-- A row of `lid_mappings`, by its LID. -/
structure LidColumns where
  phoneNumber : String
  createdAt : Int
  updatedAt : Int
  learningSource : String
deriving DecidableEq

/-- A row of `sent_messages`, by its chat and id. -/
structure SentColumns where
  payload : Blob
  createdAt : Int

/-- A row of `msg_secrets`, by its chat, sender and id. -/
structure SecretColumns where
  secret : Blob
  expiresAt : Int
  messageTs : Int

/-- A row of `chats`, by its JID. -/
structure ChatColumns where
  name : Option String
  kind : String
deriving DecidableEq

/-! ## What is written and read -/

/-- `i32::from` of a boolean. -/
def i32From (b : Bool) : Int := if b then 1 else 0

/-- `u32::try_from` of a row count, or `u32::MAX`. -/
def rowCount (n : Nat) : UInt32 := if n < 2 ^ 32 then UInt32.ofNat n else 2 ^ 32 - 1

/-- What `get_version` makes of a row. -/
def VersionColumns.decode {ι : Type} [Inhabited ι] (codec : JsonCodec ι) (r : VersionColumns)
    (version : UInt64) : HashState ι where
  version := version
  hash :=
    match r.hash with
    | some h => if hlength : h.length = 128 then ⟨h, hlength⟩ else HashState.default (ι := ι).hash
    | none => HashState.default (ι := ι).hash
  indexValueMap := (r.indexValueMap.bind fun text => (codec.fromStr text).toOption).getD default

/-- The entry of a row of `lid_mappings`. -/
def LidColumns.entry (lid : String) (r : LidColumns) : LidPnMappingEntry :=
  ⟨lid, r.phoneNumber, r.createdAt, r.updatedAt, r.learningSource⟩

/-- `token_timestamp < ?1 OR sender_timestamp < ?2`, where no comparison with `NULL` is
true. -/
def TcTokenEntry.expired (tokenCutoff senderCutoff : Int) (entry : TcTokenEntry) : Bool :=
  entry.tokenTimestamp < tokenCutoff || entry.senderTimestamp.any (· < senderCutoff)

/-! ## The tables -/

/-- The tables of `SCHEMA`. -/
structure SqliteSession where
  identities : Table String Blob
  signalSessions : Table String Blob
  prekeys : Table UInt32 PrekeyColumns
  signedPrekeys : Table UInt32 Blob
  senderKeys : Table String Blob
  syncKeys : Table Blob AppStateSyncKey
  appVersions : Table String VersionColumns
  mutationMacs : Table (String × Blob) Blob
  senderKeyDevices : Table (String × String) Int
  lidMappings : Table String LidColumns
  baseKeys : Table (String × String) Blob
  deviceLists : Table String String
  tcTokens : Table String TcTokenEntry
  sentMessages : Table (String × String) SentColumns
  msgSecrets : Table (String × String × String) SecretColumns
  /-- The `data` of the row 0. -/
  device : Option String
  chats : Table String ChatColumns
  contacts : Table String Unit

/-- A new database. -/
def SqliteSession.new : SqliteSession where
  identities := .empty
  signalSessions := .empty
  prekeys := .empty
  signedPrekeys := .empty
  senderKeys := .empty
  syncKeys := .empty
  appVersions := .empty
  mutationMacs := .empty
  senderKeyDevices := .empty
  lidMappings := .empty
  baseKeys := .empty
  deviceLists := .empty
  tcTokens := .empty
  sentMessages := .empty
  msgSecrets := .empty
  device := none
  chats := .empty
  contacts := .empty

/-- An operation of the session. -/
abbrev Sql := Program StoreError SqliteSession

/-- `conn.prepare`. -/
def prepare : Sql Unit := query fun _ => ()

/-- `serde_json::to_string`. -/
def toJson {α : Type} (codec : JsonCodec α) (a : α) : Sql String :=
  match codec.toString a with
  | .ok text => pure text
  | .error e => throw (.serialization e)

/-- `serde_json::from_str`. -/
def fromJson {α : Type} (codec : JsonCodec α) (text : String) : Sql α :=
  match codec.fromStr text with
  | .ok a => pure a
  | .error e => throw (.serialization e)

namespace SqliteSession

/-! ## The Signal store -/

def putIdentity (address : String) (key : FixedBytes 32) : Sql Unit :=
  execute fun s => { s with identities := s.identities.insertOrReplace address key.val }

def loadIdentity (address : String) : Sql (Option (FixedBytes 32)) := do
  prepare
  match ← query fun s => s.identities.lookup address with
  | some key =>
      if h : key.length = 32 then return some ⟨key, h⟩
      else throw (.validation "identity key must be 32 bytes")
  | none => return none

def deleteIdentity (address : String) : Sql Unit :=
  execute fun s => { s with identities := s.identities.delete address }

def getSession (address : String) : Sql (Option Blob) := do
  prepare
  query fun s => s.signalSessions.lookup address

def putSession (address : String) (session : Blob) : Sql Unit :=
  execute fun s => { s with signalSessions := s.signalSessions.insertOrReplace address session }

def deleteSession (address : String) : Sql Unit :=
  execute fun s => { s with signalSessions := s.signalSessions.delete address }

def storePrekey (id : UInt32) (record : Blob) (uploaded : Bool) : Sql Unit :=
  execute fun s =>
    { s with prekeys := s.prekeys.insertOrReplaceById id ⟨record, i32From uploaded⟩ }

def loadPrekey (id : UInt32) : Sql (Option Blob) := do
  prepare
  query fun s => (s.prekeys.lookup id).map (·.record)

def removePrekey (id : UInt32) : Sql Unit :=
  execute fun s => { s with prekeys := s.prekeys.delete id }

def getMaxPrekeyId : Sql UInt32 := do
  let maxId ← query fun s => s.prekeys.maxKey
  return maxId.getD 0

def storeSignedPrekey (id : UInt32) (record : Blob) : Sql Unit :=
  execute fun s => { s with signedPrekeys := s.signedPrekeys.insertOrReplaceById id record }

def loadSignedPrekey (id : UInt32) : Sql (Option Blob) := do
  prepare
  query fun s => s.signedPrekeys.lookup id

def loadAllSignedPrekeys : Sql (List (UInt32 × Blob)) := do
  prepare
  query fun s => s.signedPrekeys.rows

def removeSignedPrekey (id : UInt32) : Sql Unit :=
  execute fun s => { s with signedPrekeys := s.signedPrekeys.delete id }

def putSenderKey (address : String) (record : Blob) : Sql Unit :=
  execute fun s => { s with senderKeys := s.senderKeys.insertOrReplace address record }

def getSenderKey (address : String) : Sql (Option Blob) := do
  prepare
  query fun s => s.senderKeys.lookup address

def deleteSenderKey (address : String) : Sql Unit :=
  execute fun s => { s with senderKeys := s.senderKeys.delete address }

def markPrekeysUploaded (ids : List UInt32) : Sql Unit := do
  prepare
  forM ids fun id =>
    execute fun s => { s with prekeys := s.prekeys.update id fun r => { r with uploaded := 1 } }

/-! ## The app-state store -/

def getSyncKey (keyId : Blob) : Sql (Option AppStateSyncKey) := do
  prepare
  query fun s => s.syncKeys.lookup keyId

def setSyncKey (keyId : Blob) (key : AppStateSyncKey) : Sql Unit :=
  execute fun s => { s with syncKeys := s.syncKeys.insertOrReplace keyId key }

def getVersion {ι : Type} [Inhabited ι] (codec : JsonCodec ι) (name : String) :
    Sql (HashState ι) := do
  prepare
  match ← query fun s => s.appVersions.lookup name with
  | some r =>
      -- A `u64` is read from an `i64` that is not negative.
      if r.version < 0 then throw (.database "integer out of range")
      else return r.decode codec (UInt64.ofNat r.version.toNat)
  | none => return .default

def setVersion {ι : Type} (codec : JsonCodec ι) (name : String) (state : HashState ι) :
    Sql Unit := do
  let ivm ← toJson codec state.indexValueMap
  statement fun s =>
    -- A `u64` is written as an `i64`.
    if state.version.toNat < 2 ^ 63 then
      .ok ((), { s with
        appVersions := s.appVersions.insertOrReplace name
          ⟨state.version.toNat, some state.hash.val, some ivm⟩ })
    else .error (.database "integer out of range")

def putMutationMacs (name : String) (_version : UInt64) (mutations : List AppStateMutationMAC) :
    Sql Unit := do
  prepare
  forM mutations fun m =>
    execute fun s =>
      { s with mutationMacs := s.mutationMacs.insertOrReplace (name, m.indexMac) m.valueMac }

def getMutationMac (name : String) (indexMac : Blob) : Sql (Option Blob) := do
  prepare
  query fun s => s.mutationMacs.lookup (name, indexMac)

def deleteMutationMacs (name : String) (indexMacs : List Blob) : Sql Unit := do
  prepare
  forM indexMacs fun mac =>
    execute fun s => { s with mutationMacs := s.mutationMacs.delete (name, mac) }

def clearMutationMacs (name : String) : Sql Unit :=
  execute fun s => { s with mutationMacs := s.mutationMacs.deleteWhere fun k _ => k.1 = name }

/-- `ORDER BY rowid DESC LIMIT 1`. -/
def getLatestSyncKeyId : Sql (Option Blob) := do
  prepare
  query fun s => s.syncKeys.rows.getLast?.map (·.1)

/-! ## The protocol store -/

/-- Without an `ORDER BY`; the rows of a group are read from the index of the
primary key. -/
def getSenderKeyDevices (groupJid : String) : Sql (List (String × Bool)) := do
  prepare
  query fun s =>
    (s.senderKeyDevices.selectBy (fun k _ => k.1 = groupJid) (·.2)).map fun r =>
      (r.1.2, decide (r.2 ≠ 0))

def setSenderKeyStatus (groupJid : String) (entries : List (String × Bool)) : Sql Unit := do
  prepare
  forM entries fun entry =>
    execute fun s =>
      { s with
        senderKeyDevices :=
          s.senderKeyDevices.insertOrReplace (groupJid, entry.1) (i32From entry.2) }

def clearSenderKeyDevices (groupJid : String) : Sql Unit :=
  execute fun s =>
    { s with senderKeyDevices := s.senderKeyDevices.deleteWhere fun k _ => k.1 = groupJid }

def clearAllSenderKeyDevices : Sql Unit :=
  execute fun s => { s with senderKeyDevices := s.senderKeyDevices.deleteWhere fun _ _ => true }

def deleteSenderKeyDeviceRows (deviceJids : List String) : Sql Unit := do
  prepare
  forM deviceJids fun jid =>
    execute fun s =>
      { s with senderKeyDevices := s.senderKeyDevices.deleteWhere fun k _ => k.2 = jid }

def getLidMapping (lid : String) : Sql (Option LidPnMappingEntry) := do
  prepare
  query fun s => (s.lidMappings.lookup lid).map (LidColumns.entry lid)

/-- `WHERE phone_number = ?1`, which visits the rows in the order of their row ids. -/
def getPnMapping (phone : String) : Sql (Option LidPnMappingEntry) := do
  prepare
  query fun s =>
    (s.lidMappings.selectFirst fun _ r => r.phoneNumber = phone).map fun r =>
      LidColumns.entry r.1 r.2

def putLidMapping (entry : LidPnMappingEntry) : Sql Unit :=
  execute fun s =>
    { s with
      lidMappings := s.lidMappings.insertOrReplace entry.lid
        ⟨entry.phoneNumber, entry.createdAt, entry.updatedAt, entry.learningSource⟩ }

/-- In the order of the row ids: no index has all the columns. -/
def getAllLidMappings : Sql (List LidPnMappingEntry) := do
  prepare
  query fun s => s.lidMappings.rows.map fun r => LidColumns.entry r.1 r.2

def saveBaseKey (address messageId : String) (baseKey : Blob) : Sql Unit :=
  execute fun s =>
    { s with baseKeys := s.baseKeys.insertOrReplace (address, messageId) baseKey }

def hasSameBaseKey (address messageId : String) (currentBaseKey : Blob) : Sql Bool := do
  prepare
  match ← query fun s => s.baseKeys.lookup (address, messageId) with
  | some baseKey => return baseKey = currentBaseKey
  | none => return false

def deleteBaseKey (address messageId : String) : Sql Unit :=
  execute fun s => { s with baseKeys := s.baseKeys.delete (address, messageId) }

def updateDeviceList {ρ : Type} (codec : JsonCodec (DeviceListRecord ρ))
    (record : DeviceListRecord ρ) : Sql Unit := do
  let json ← toJson codec record
  execute fun s => { s with deviceLists := s.deviceLists.insertOrReplace record.user json }

def getDevices {ρ : Type} (codec : JsonCodec (DeviceListRecord ρ)) (user : String) :
    Sql (Option (DeviceListRecord ρ)) := do
  prepare
  match ← query fun s => s.deviceLists.lookup user with
  | some json =>
      let record ← fromJson codec json
      return some record
  | none => return none

def deleteDevices (user : String) : Sql Unit :=
  execute fun s => { s with deviceLists := s.deviceLists.delete user }

def getTcToken (jid : String) : Sql (Option TcTokenEntry) := do
  prepare
  query fun s => s.tcTokens.lookup jid

def putTcToken (jid : String) (entry : TcTokenEntry) : Sql Unit :=
  execute fun s => { s with tcTokens := s.tcTokens.insertOrReplace jid entry }

def deleteTcToken (jid : String) : Sql Unit :=
  execute fun s => { s with tcTokens := s.tcTokens.delete jid }

/-- Without an `ORDER BY`; the index of the primary key has all that is read. -/
def getAllTcTokenJids : Sql (List String) := do
  prepare
  query fun s => (s.tcTokens.selectBy (fun _ _ => true) id).map (·.1)

/-- `DELETE FROM ... WHERE p`, with the number of rows. -/
def executeDelete {κ ν : Type} (get : SqliteSession → Table κ ν)
    (set : SqliteSession → Table κ ν → SqliteSession) (p : κ → ν → Bool) : Sql UInt32 :=
  statement fun s =>
    .ok (rowCount ((get s).select p).length, set s ((get s).deleteWhere p))

def deleteExpiredTcTokens (tokenCutoff senderCutoff : Int) : Sql UInt32 :=
  executeDelete (·.tcTokens) (fun s t => { s with tcTokens := t })
    fun _ entry => entry.expired tokenCutoff senderCutoff

/-- The clock reads `now`. -/
def storeSentMessage (now : Int) (chatJid messageId : String) (payload : Blob) : Sql Unit :=
  execute fun s =>
    { s with sentMessages := s.sentMessages.insertOrReplace (chatJid, messageId) ⟨payload, now⟩ }

/-- `DELETE ... RETURNING payload`. -/
def takeSentMessage (chatJid messageId : String) : Sql (Option Blob) := do
  prepare
  statement fun s =>
    .ok ((s.sentMessages.lookup (chatJid, messageId)).map (·.payload),
      { s with sentMessages := s.sentMessages.delete (chatJid, messageId) })

def deleteExpiredSentMessages (cutoffTimestamp : Int) : Sql UInt32 :=
  executeDelete (·.sentMessages) (fun s t => { s with sentMessages := t })
    fun _ r => r.createdAt < cutoffTimestamp

/-! ## The store of message secrets -/

def putMsgSecrets (entries : List MsgSecretEntry) : Sql Nat := do
  prepare
  forM entries fun entry =>
    execute fun s =>
      { s with
        msgSecrets := s.msgSecrets.insertOrReplace (entry.chat, entry.sender, entry.msgId)
          ⟨entry.secret, entry.expiresAt, entry.messageTs⟩ }
  return entries.length

def getMsgSecret (chat sender msgId : String) : Sql (Option Blob) := do
  prepare
  query fun s => (s.msgSecrets.lookup (chat, sender, msgId)).map (·.secret)

def getMsgSecretWithTs (chat sender msgId : String) : Sql (Option (Blob × Int)) := do
  prepare
  query fun s => (s.msgSecrets.lookup (chat, sender, msgId)).map fun r => (r.secret, r.messageTs)

def deleteExpiredMsgSecrets (cutoffTimestamp : Int) : Sql UInt32 :=
  executeDelete (·.msgSecrets) (fun s t => { s with msgSecrets := t })
    fun _ r => r.expiresAt < cutoffTimestamp

/-! ## The device -/

section Device

variable {δ : Type} (codec : JsonCodec δ)

def save (device : δ) : Sql Unit := do
  let json ← toJson codec device
  execute fun s => { s with device := some json }

def load : Sql (Option δ) := do
  prepare
  match ← query fun s => s.device with
  | some json =>
      let device ← fromJson codec json
      return some device
  | none => return none

def «exists» : Sql Bool := query fun s => s.device.isSome

/-- `Device::new()` gives `new`. -/
def create (new : δ) : Sql Int := do
  let count ← queryOk fun s => s.device.isSome
  if count.getD false then return 0
  let json ← toJson codec new
  statement fun s =>
    match s.device with
    | some _ => .error (.database "UNIQUE constraint failed: device.id")
    | none => .ok ((), { s with device := some json })
  return 0

def clearDevice : Sql Unit := execute fun s => { s with device := none }

end Device

end SqliteSession

/-! ## What the statements of an operation do -/

section Yields

variable {α β : Type} {s t : SqliteSession}

/-- A prepared query. -/
theorem yields_prepare_query {f : SqliteSession → α} {a : α}
    (h : (do prepare; query f : Sql α).Yields s a t) : a = f s ∧ t = s := by
  obtain ⟨_, _, hprepare, hquery⟩ := h.bind
  obtain ⟨rfl, rfl⟩ := hquery.query
  obtain ⟨-, rfl⟩ := hprepare.query
  exact ⟨rfl, rfl⟩

/-- A prepared statement that is executed for each element. -/
theorem yields_prepare_forM {g : β → SqliteSession → SqliteSession} {bs : List β} {r : Unit}
    (h : (do prepare; forM bs fun b => execute (g b) : Sql Unit).Yields s r t) :
    t = bs.foldl (fun s b => g b s) s := by
  obtain ⟨_, _, hprepare, hloop⟩ := h.bind
  obtain ⟨-, rfl⟩ := hprepare.query
  exact hloop.forM

/-- A prepared query, and what is made of its row. -/
theorem yields_prepare_query_bind {f : SqliteSession → β} {k : β → Sql α} {a : α}
    (h : (do prepare; let b ← query f; k b : Sql α).Yields s a t) : (k (f s)).Yields s a t := by
  obtain ⟨_, _, hprepare, hrest⟩ := h.bind
  obtain ⟨_, _, hquery, hk⟩ := hrest.bind
  obtain ⟨rfl, rfl⟩ := hquery.query
  obtain ⟨-, rfl⟩ := hprepare.query
  exact hk

theorem yields_executeDelete {κ ν : Type} {get : SqliteSession → Table κ ν}
    {set : SqliteSession → Table κ ν → SqliteSession} {p : κ → ν → Bool} {n : UInt32}
    (h : (SqliteSession.executeDelete get set p).Yields s n t) :
    t = set s ((get s).deleteWhere p) := by
  cases h.statement
  rfl

theorem yields_toJson {codec : JsonCodec α} {a : α} {text : String}
    (h : (toJson codec a).Yields s text t) : codec.toString a = .ok text ∧ t = s := by
  simp only [toJson] at h
  split at h
  · next htext =>
      obtain ⟨rfl, rfl⟩ := h.pure
      exact ⟨htext, rfl⟩
  · exact h.throw.elim

theorem yields_fromJson {codec : JsonCodec α} {a : α} {text : String}
    (h : (fromJson codec text).Yields s a t) : codec.fromStr text = .ok a ∧ t = s := by
  simp only [fromJson] at h
  split at h
  · next htext =>
      obtain ⟨rfl, rfl⟩ := h.pure
      exact ⟨htext, rfl⟩
  · exact h.throw.elim

end Yields

/-! ## What the operations on the device do -/

section Device

variable {δ : Type} {codec : JsonCodec δ} {s t : SqliteSession}

/-- `load` decodes the row. -/
theorem load_yields {r : Option δ} (h : (SqliteSession.load codec).Yields s r t) :
    (∃ text device, s.device = some text ∧ codec.fromStr text = .ok device ∧ r = some device) ∨
      s.device = none ∧ r = none := by
  have hrest := yields_prepare_query_bind h
  split at hrest
  · next text htext =>
      obtain ⟨device, _, hjson, hpure⟩ := hrest.bind
      exact .inl ⟨text, device, htext, (yields_fromJson hjson).1, hpure.pure.1⟩
  · next hnone => exact .inr ⟨hnone, hrest.pure.1⟩

/-- The row that `load` decodes. -/
theorem yields_load {text : String} {device : δ} (hrow : s.device = some text)
    (htext : codec.fromStr text = .ok device) :
    (SqliteSession.load codec).Yields s (some device) s := by
  refine ⟨[], [], ?_⟩
  show (match s.device with
    | some json => do
        let device ← fromJson codec json
        return some device
    | none => return none : Sql (Option δ)) ⟨s, []⟩ = _
  rw [hrow]
  show (do
    let device ← fromJson codec text
    return some device : Sql (Option δ)) ⟨s, []⟩ = _
  rw [fromJson, htext]
  rfl

theorem toJson_keeps {device : δ} : (toJson codec device).Keeps Eq := by
  simp only [toJson]
  cases codec.toString device with
  | ok text => exact .pure text
  | error e => exact .throw _

theorem load_keeps : (SqliteSession.load codec).Keeps Eq := by
  refine .bind (.query _) fun _ => .bind (.query _) fun row => ?_
  cases row with
  | none => exact .pure none
  | some text =>
      refine .bind ?_ fun device => .pure (some device)
      simp only [fromJson]
      cases codec.fromStr text with
      | ok device => exact .pure device
      | error e => exact .throw _

/-- `save` writes the row, or fails. -/
theorem save_ends {device : δ} {r : Except StoreError Unit}
    (h : (SqliteSession.save codec device).Ends s r t) :
    (∃ e, r = .error e) ∧ t = s ∨
      r = .ok () ∧ ∃ text, codec.toString device = .ok text ∧
        t = { s with device := some text } := by
  rcases h.bind with ⟨e, herror, hr⟩ | ⟨text, u, hencode, hwrite⟩
  · exact .inl ⟨⟨e, hr⟩, (toJson_keeps _ _ _ herror).symm⟩
  · obtain ⟨htext, rfl⟩ := yields_toJson hencode
    rcases hwrite.execute with herror | ⟨hok, ht⟩
    · exact .inl herror
    · exact .inr ⟨hok, text, htext, ht⟩

/-- `create` stores the new device if there was none, or leaves the session.  It
fails if there was none and it leaves it. -/
theorem create_ends {new : δ} {r : Except StoreError Int}
    (h : (SqliteSession.create codec new).Ends s r t) :
    (r = .ok 0 ∧ s.device = none ∧
      ∃ text, codec.toString new = .ok text ∧ t = { s with device := some text }) ∨
      t = s ∧ (s.device = none → ∃ e, r = .error e) := by
  rcases h.bind with ⟨e, herror, -⟩ | ⟨count, s₁, hcount, hrest⟩
  · exact herror.queryOk.elim
  obtain ⟨hcount, rfl⟩ := hcount.queryOk
  by_cases hsome : count.getD false = true
  · rw [hsome, if_pos rfl] at hrest
    obtain ⟨-, rfl⟩ := hrest.pure
    refine .inr ⟨rfl, fun hnone => ?_⟩
    rcases hcount with rfl | rfl
    · simp [hnone] at hsome
    · cases hsome
  rw [if_neg hsome] at hrest
  rcases hrest.bind with ⟨e, herror, hr⟩ | ⟨text, s₂, hencode, hwrite⟩
  · exact .inr ⟨(toJson_keeps _ _ _ herror).symm, fun _ => ⟨e, hr⟩⟩
  obtain ⟨htext, rfl⟩ := yields_toJson hencode
  rcases hwrite.bind with ⟨e, herror, hr⟩ | ⟨_, u, hinsert, hpure⟩
  · exact .inr ⟨herror.statement, fun _ => ⟨e, hr⟩⟩
  have hinserted := hinsert.statement
  cases hdevice : s₂.device with
  | some row =>
      rw [hdevice] at hinserted
      cases hinserted
  | none =>
      rw [hdevice] at hinserted
      cases hinserted
      obtain ⟨hr, rfl⟩ := hpure.pure
      exact .inl ⟨hr, rfl, text, htext, rfl⟩

end Device

end Waepic.Session
