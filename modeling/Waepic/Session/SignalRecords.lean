import Waepic.Session.SqliteMaps

/-!
# Signal records

The Signal state of the SQLite session is the records of four tables: the
sessions, the prekeys, the signed prekeys and the sender keys.  Four operations
write a record, each under one key (`StoreOp.writes`).  No other operation leaves
a record that was not there before (`StoreOp.keeps_records`), whether it returns
`Ok` or an error.
-/

namespace Waepic.Session

open Tables Statements

/-- What a Signal record is stored under. -/
inductive SignalKey where
  | session (address : String)
  | prekey (id : UInt32)
  | signedPrekey (id : UInt32)
  | senderKey (address : String)
deriving DecidableEq

/-- The operation that returns the record of a key. -/
def SignalKey.get : SignalKey → Sql (Option Blob)
  | session address => SqliteSession.getSession address
  | prekey id => SqliteSession.loadPrekey id
  | signedPrekey id => SqliteSession.loadSignedPrekey id
  | senderKey address => SqliteSession.getSenderKey address

/-- The record of a key in the tables. -/
def SqliteSession.record (s : SqliteSession) : SignalKey → Option Blob
  | .session address => s.signalSessions.lookup address
  | .prekey id => (s.prekeys.lookup id).map (·.record)
  | .signedPrekey id => s.signedPrekeys.lookup id
  | .senderKey address => s.senderKeys.lookup address

/-- Every record of `t` is one of `s`, and the device is that of `s`. -/
structure NoNewRecord (s t : SqliteSession) : Prop where
  record : ∀ k, t.record k = s.record k ∨ t.record k = none
  device : t.device = s.device

/-- The record of one key is written, and the device stays. -/
structure WritesRecord (k : SignalKey) (record : Blob) (s t : SqliteSession) : Prop where
  record : t.record = Function.update s.record k (some record)
  device : t.device = s.device

theorem NoNewRecord.of_eq {s t : SqliteSession} (hrecord : t.record = s.record)
    (hdevice : t.device = s.device) : NoNewRecord s t :=
  ⟨fun k => .inl (congrFun hrecord k), hdevice⟩

instance : Std.Refl NoNewRecord where
  refl _ := .of_eq rfl rfl

instance : IsTrans SqliteSession NoNewRecord where
  trans s t u h₁ h₂ := by
    refine ⟨fun k => ?_, h₂.device.trans h₁.device⟩
    rcases h₂.record k with h | h
    · rw [h]
      exact h₁.record k
    · exact .inr h

/-- The record that an operation writes, and its key. -/
def StoreOp.writes {ι ρ α : Type} : StoreOp ι ρ α → Option (SignalKey × Blob)
  | .putSession address session => some (.session address, session)
  | .storePrekey id record _ => some (.prekey id, record)
  | .storeSignedPrekey id record => some (.signedPrekey id, record)
  | .putSenderKey address record => some (.senderKey address, record)
  | _ => none

variable {ι ρ α : Type} {s t : SqliteSession}

theorem get_yields {k : SignalKey} {r : Option Blob} (h : k.get.Yields s r t) :
    r = s.record k ∧ t = s := by
  cases k <;> exact yields_prepare_query h

theorem yields_get (s : SqliteSession) (k : SignalKey) : k.get.Yields s (s.record k) s := by
  cases k <;> exact ⟨[], [], rfl⟩

theorem get_keeps (k : SignalKey) : k.get.Keeps Eq := by
  cases k <;> exact .bind (.query _) fun _ => .query _

/-- A deleted row leaves the other records of its table. -/
theorem lookup_delete_eq_or {κ ν : Type} [DecidableEq κ] (t : Table κ ν) (j k : κ) :
    (t.delete j).lookup k = t.lookup k ∨ (t.delete j).lookup k = none := by
  rw [Table.lookup_delete]
  by_cases h : k = j
  · exact .inr (by rw [h, Function.update_self])
  · exact .inl (Function.update_of_ne h _ _)

/-! ## Operations on the Signal tables -/

section Operations

/-- A write ends with its record, or fails. -/
theorem execute_ends_record {g : SqliteSession → SqliteSession} {k : SignalKey} {record : Blob}
    {r : Except StoreError Unit}
    (hg : ∀ j, (g s).record j = if j = k then some record else s.record j)
    (hdevice : (g s).device = s.device) (h : (execute g : Sql Unit).Ends s r t) :
    (∃ e, r = .error e) ∧ t = s ∨ r.isOk = true ∧ WritesRecord k record s t := by
  rcases h.execute with herror | ⟨rfl, rfl⟩
  · exact .inl herror
  · refine .inr ⟨rfl, ?_, hdevice⟩
    funext j
    rw [hg, Function.update_apply]

theorem storeSignedPrekey_ends {id : UInt32} {record : Blob} {r : Except StoreError Unit}
    (h : (SqliteSession.storeSignedPrekey id record).Ends s r t) :
    (∃ e, r = .error e) ∧ t = s ∨
      r.isOk = true ∧ WritesRecord (.signedPrekey id) record s t := by
  refine execute_ends_record (fun j => ?_) rfl h
  cases j <;> simp [SqliteSession.record, Function.update_apply]

variable [Inhabited ι] {c : Codecs ι ρ}

/-- An operation that writes a record ends with it, or fails. -/
theorem StoreOp.writes_ends {op : StoreOp ι ρ α} {k : SignalKey} {record : Blob}
    {r : Except StoreError α} (hop : op.writes = some (k, record)) (h : (op.run c).Ends s r t) :
    (∃ e, r = .error e) ∧ t = s ∨ r.isOk = true ∧ WritesRecord k record s t := by
  cases op with
  | putSession address session =>
      cases hop
      refine execute_ends_record (fun j => ?_) rfl h
      cases j <;> simp [SqliteSession.record, Function.update_apply]
  | storePrekey id record uploaded =>
      cases hop
      refine execute_ends_record (fun j => ?_) rfl h
      cases j with
      | prekey id' => by_cases hid : id' = id <;> simp [SqliteSession.record, hid]
      | _ => rfl
  | storeSignedPrekey id record =>
      cases hop
      exact storeSignedPrekey_ends h
  | putSenderKey address record =>
      cases hop
      refine execute_ends_record (fun j => ?_) rfl h
      cases j <;> simp [SqliteSession.record, Function.update_apply]
  | _ => cases hop

omit [Inhabited ι] in
theorem read_keeps {f : SqliteSession → α} : (do prepare; query f : Sql α).Keeps NoNewRecord :=
  .bind (.query _) fun _ => .query _

/-- A write to another table. -/
theorem execute_keeps {g : SqliteSession → SqliteSession} (hg : ∀ s, (g s).record = s.record)
    (hdevice : ∀ s, (g s).device = s.device) : (execute g : Sql Unit).Keeps NoNewRecord :=
  .execute fun s => .of_eq (hg s) (hdevice s)

/-- A loop of writes to another table. -/
theorem forM_keeps {β : Type} {g : β → SqliteSession → SqliteSession}
    (hg : ∀ b s, (g b s).record = s.record) (hdevice : ∀ b s, (g b s).device = s.device)
    (bs : List β) : (do prepare; forM bs fun b => execute (g b) : Sql Unit).Keeps NoNewRecord :=
  .bind (.query _) fun _ => .forM (fun b s => .of_eq (hg b s) (hdevice b s)) bs

theorem executeDelete_keeps {κ ν : Type} {get : SqliteSession → Table κ ν}
    {set : SqliteSession → Table κ ν → SqliteSession} {p : κ → ν → Bool}
    (hset : ∀ s t, (set s t).record = s.record) (hdevice : ∀ s t, (set s t).device = s.device) :
    (SqliteSession.executeDelete get set p).Keeps NoNewRecord :=
  .statement fun s _ _ h => by
    cases h
    exact .of_eq (hset s _) (hdevice s _)

theorem toJson_keeps_records {codec : JsonCodec α} {a : α} :
    (toJson codec a).Keeps NoNewRecord := by
  intro s r t h
  obtain rfl := toJson_keeps _ _ _ h
  exact refl_of NoNewRecord _

theorem fromJson_keeps_records {codec : JsonCodec α} {text : String} :
    (fromJson codec text).Keeps NoNewRecord := by
  unfold fromJson
  cases codec.fromStr text with
  | ok a => exact .pure a
  | error e => exact .throw _

/-- An operation that writes no record leaves none that was not there. -/
theorem StoreOp.keeps_records {op : StoreOp ι ρ α} (hop : op.writes = none) :
    (op.run c).Keeps NoNewRecord := by
  cases op with
  | putSession | storePrekey | storeSignedPrekey | putSenderKey => cases hop
  | getSession | loadPrekey | loadSignedPrekey | loadAllSignedPrekeys | getSenderKey
  | getSyncKey | getMutationMac | getSenderKeyDevices | getTcToken | getAllTcTokenJids
  | getMsgSecret | getMsgSecretWithTs => exact read_keeps
  | putIdentity | deleteIdentity | setSyncKey | clearMutationMacs | clearSenderKeyDevices
  | clearAllSenderKeyDevices | saveBaseKey | deleteBaseKey | deleteDevices | putTcToken
  | deleteTcToken | storeSentMessage => exact execute_keeps (fun _ => rfl) fun _ => rfl
  | putMutationMacs | deleteMutationMacs | setSenderKeyStatus | deleteSenderKeyDeviceRows =>
      refine forM_keeps ?_ ?_ _ <;> exact fun _ _ => rfl
  | deleteExpiredTcTokens | deleteExpiredSentMessages | deleteExpiredMsgSecrets =>
      exact executeDelete_keeps (fun _ _ => rfl) fun _ _ => rfl
  | getMaxPrekeyId => exact .bind (.query _) fun _ => .pure _
  | deleteSession address =>
      refine .execute fun s => ⟨fun k => ?_, rfl⟩
      cases k with
      | session a => exact lookup_delete_eq_or s.signalSessions address a
      | _ => exact .inl rfl
  | removePrekey id =>
      refine .execute fun s => ⟨fun k => ?_, rfl⟩
      cases k with
      | prekey id' =>
          refine (lookup_delete_eq_or s.prekeys id id').imp ?_ ?_ <;>
            exact congrArg (Option.map PrekeyColumns.record)
      | _ => exact .inl rfl
  | removeSignedPrekey id =>
      refine .execute fun s => ⟨fun k => ?_, rfl⟩
      cases k with
      | signedPrekey id' => exact lookup_delete_eq_or s.signedPrekeys id id'
      | _ => exact .inl rfl
  | deleteSenderKey address =>
      refine .execute fun s => ⟨fun k => ?_, rfl⟩
      cases k with
      | senderKey a => exact lookup_delete_eq_or s.senderKeys address a
      | _ => exact .inl rfl
  | markPrekeysUploaded ids =>
      refine forM_keeps ?_ ?_ ids
      on_goal 2 => exact fun _ _ => rfl
      intro id s
      funext k
      cases k with
      | prekey id' =>
          rw [SqliteSession.record, Table.lookup_update, SqliteSession.record]
          by_cases h : id' = id
          · rw [h, Function.update_self, Option.map_map]
            rfl
          · rw [Function.update_of_ne h]
      | _ => rfl
  | loadIdentity address =>
      refine .bind (.query _) fun _ => .bind (.query _) fun row => ?_
      cases row with
      | none => exact .pure _
      | some key =>
          dsimp only
          split
          · exact .pure _
          · exact .throw _
  | getVersion name =>
      refine .bind (.query _) fun _ => .bind (.query _) fun row => ?_
      cases row with
      | none => exact .pure _
      | some r =>
          dsimp only
          split
          · exact .throw _
          · exact .pure _
  | hasSameBaseKey address messageId currentBaseKey =>
      refine .bind (.query _) fun _ => .bind (.query _) fun row => ?_
      cases row <;> exact .pure _
  | getDevices user =>
      refine .bind (.query _) fun _ => .bind (.query _) fun row => ?_
      cases row with
      | none => exact .pure _
      | some json => exact .bind fromJson_keeps_records fun _ => .pure _
  | setVersion name state =>
      refine .bind toJson_keeps_records fun ivm => .statement fun s _ t h => ?_
      split at h
      · cases h
        exact .of_eq rfl rfl
      · cases h
  | updateDeviceList record =>
      exact .bind toJson_keeps_records fun _ => execute_keeps (fun _ => rfl) fun _ => rfl
  | takeSentMessage chatJid messageId =>
      refine .bind (.query _) fun _ => .statement fun s _ t h => ?_
      cases h
      exact .of_eq rfl rfl
  | putMsgSecrets entries =>
      refine .bind (.query _) fun _ => .bind (.forM (fun _ _ => .of_eq rfl rfl) _) fun _ => .pure _

end Operations

end Waepic.Session
