import Waepic.Session.Chats

/-!
# Operations on several rows

Six operations prepare a statement and execute it for each of their entries.
They leave by `?` at the first statement that fails, and no transaction is
opened, so the entries before it stay (`BatchOp.run_eq`).

After an error every read gives what it gave before if and only if the entries
before the failing one are what the session showed already; after `Ok` it shows
them all (`batch_applies_prefix`).  No read shows the column `uploaded`, so
`mark_prekeys_uploaded` is never seen.  `SameReads` compares all reads of the
session, and `sameReads_iff` says which columns they see.
-/

namespace Waepic.Session

open Binary Tables Statements

/-! ## The operations -/

/-- A call of one of the operations; `α` is what it returns. -/
inductive BatchOp : Type → Type where
  | setSenderKeyStatus (groupJid : String) (entries : List (String × Bool)) : BatchOp Unit
  | deleteSenderKeyDeviceRows (deviceJids : List String) : BatchOp Unit
  | putMutationMacs (name : String) (version : UInt64) (mutations : List AppStateMutationMAC) :
      BatchOp Unit
  | deleteMutationMacs (name : String) (indexMacs : List Blob) : BatchOp Unit
  | putMsgSecrets (entries : List MsgSecretEntry) : BatchOp Nat
  | markPrekeysUploaded (ids : List UInt32) : BatchOp Unit

namespace BatchOp

variable {α : Type}

def run : BatchOp α → Sql α
  | .setSenderKeyStatus groupJid entries => SqliteSession.setSenderKeyStatus groupJid entries
  | .deleteSenderKeyDeviceRows deviceJids => SqliteSession.deleteSenderKeyDeviceRows deviceJids
  | .putMutationMacs name version mutations =>
      SqliteSession.putMutationMacs name version mutations
  | .deleteMutationMacs name indexMacs => SqliteSession.deleteMutationMacs name indexMacs
  | .putMsgSecrets entries => SqliteSession.putMsgSecrets entries
  | .markPrekeysUploaded ids => SqliteSession.markPrekeysUploaded ids

/-- What the statement does for each entry. -/
def writes : BatchOp α → List (SqliteSession → SqliteSession)
  | .setSenderKeyStatus groupJid entries =>
      entries.map fun entry s =>
        { s with
          senderKeyDevices :=
            s.senderKeyDevices.insertOrReplace (groupJid, entry.1) (i32From entry.2) }
  | .deleteSenderKeyDeviceRows deviceJids =>
      deviceJids.map fun jid s =>
        { s with senderKeyDevices := s.senderKeyDevices.deleteWhere fun k _ => k.2 = jid }
  | .putMutationMacs name _ mutations =>
      mutations.map fun m s =>
        { s with mutationMacs := s.mutationMacs.insertOrReplace (name, m.indexMac) m.valueMac }
  | .deleteMutationMacs name indexMacs =>
      indexMacs.map fun mac s => { s with mutationMacs := s.mutationMacs.delete (name, mac) }
  | .putMsgSecrets entries =>
      entries.map fun entry s =>
        { s with
          msgSecrets := s.msgSecrets.insertOrReplace (entry.chat, entry.sender, entry.msgId)
            ⟨entry.secret, entry.expiresAt, entry.messageTs⟩ }
  | .markPrekeysUploaded ids =>
      ids.map fun id s =>
        { s with prekeys := s.prekeys.update id fun r => { r with uploaded := 1 } }

def result : BatchOp α → α
  | .setSenderKeyStatus _ _ => ()
  | .deleteSenderKeyDeviceRows _ => ()
  | .putMutationMacs _ _ _ => ()
  | .deleteMutationMacs _ _ => ()
  | .putMsgSecrets entries => entries.length
  | .markPrekeysUploaded _ => ()

/-- The session after the first `n` entries. -/
def after (op : BatchOp α) (n : Nat) (s : SqliteSession) : SqliteSession :=
  runAll (op.writes.take n) s

/-- Each operation is a prepared loop of its writes. -/
theorem run_eq (op : BatchOp α) :
    op.run = do
      prepare
      forM op.writes execute
      return op.result := by
  have hloop : ∀ {β : Type} (es : List β) (g : β → SqliteSession → SqliteSession),
      (do prepare; forM es fun e => execute (g e) : Sql Unit) =
        do prepare; forM (es.map g) execute; return () := by
    intro β es g
    rw [forM_map_execute, bind_pure_unit]
  cases op with
  | setSenderKeyStatus groupJid entries => exact hloop entries _
  | deleteSenderKeyDeviceRows deviceJids => exact hloop deviceJids _
  | putMutationMacs name version mutations => exact hloop mutations _
  | deleteMutationMacs name indexMacs => exact hloop indexMacs _
  | putMsgSecrets entries =>
      rw [writes, forM_map_execute]
      rfl
  | markPrekeysUploaded ids => exact hloop ids _

/-- The first statement that fails ends the operation, and the entries before it
stay.  The statement 0 is the one that is prepared. -/
theorem run_ends (op : BatchOp α) (s : SqliteSession) (outcomes : List (Option StoreError)) :
    op.run ⟨s, outcomes⟩ =
      match firstFailure (op.writes.length + 1) outcomes with
      | none => (.ok op.result, ⟨op.after op.writes.length s, outcomes.drop (op.writes.length + 1)⟩)
      | some (k, e) => (.error e, ⟨op.after (k - 1) s, outcomes.drop (k + 1)⟩) := by
  rw [run_eq, Program.bind_run, prepare, query_run, firstFailure]
  cases outcomes.head?.join with
  | some e => simp [after, runAll]
  | none =>
      dsimp only
      rw [Program.bind_run, forM_run]
      cases firstFailure op.writes.length outcomes.tail with
      | none => simp [after]; rfl
      | some p => simp [after]

end BatchOp

/-! ## The reads -/

section Reads

variable [WacoreBinary] {ι ρ δ : Type} [Inhabited ι]

/-- A call that reads; `α` is what it returns. -/
inductive SessionRead (ι ρ δ : Type) : Type → Type where
  | loadIdentity (address : String) : SessionRead ι ρ δ (Option (FixedBytes 32))
  | getSession (address : String) : SessionRead ι ρ δ (Option Blob)
  | loadPrekey (id : UInt32) : SessionRead ι ρ δ (Option Blob)
  | getMaxPrekeyId : SessionRead ι ρ δ UInt32
  | loadSignedPrekey (id : UInt32) : SessionRead ι ρ δ (Option Blob)
  | loadAllSignedPrekeys : SessionRead ι ρ δ (List (UInt32 × Blob))
  | getSenderKey (address : String) : SessionRead ι ρ δ (Option Blob)
  | getSyncKey (keyId : Blob) : SessionRead ι ρ δ (Option AppStateSyncKey)
  | getLatestSyncKeyId : SessionRead ι ρ δ (Option Blob)
  | getVersion (name : String) : SessionRead ι ρ δ (HashState ι)
  | getMutationMac (name : String) (indexMac : Blob) : SessionRead ι ρ δ (Option Blob)
  | getSenderKeyDevices (groupJid : String) : SessionRead ι ρ δ (List (String × Bool))
  | getLidMapping (lid : String) : SessionRead ι ρ δ (Option LidPnMappingEntry)
  | getPnMapping (phone : String) : SessionRead ι ρ δ (Option LidPnMappingEntry)
  | getAllLidMappings : SessionRead ι ρ δ (List LidPnMappingEntry)
  | hasSameBaseKey (address messageId : String) (currentBaseKey : Blob) : SessionRead ι ρ δ Bool
  | getDevices (user : String) : SessionRead ι ρ δ (Option (DeviceListRecord ρ))
  | getTcToken (jid : String) : SessionRead ι ρ δ (Option TcTokenEntry)
  | getAllTcTokenJids : SessionRead ι ρ δ (List String)
  | getMsgSecret (chat sender msgId : String) : SessionRead ι ρ δ (Option Blob)
  | getMsgSecretWithTs (chat sender msgId : String) : SessionRead ι ρ δ (Option (Blob × Int))
  | load : SessionRead ι ρ δ (Option δ)
  | «exists» : SessionRead ι ρ δ Bool
  | getChat (jid : Jid) : SessionRead ι ρ δ (Option ChatEntry)
  | getChats : SessionRead ι ρ δ (List ChatEntry)
  | isContact (jid : Jid) : SessionRead ι ρ δ Bool

/-- What the stored values are read with. -/
structure Readers (ι ρ δ : Type) where
  codecs : Codecs ι ρ
  device : JsonCodec δ
  jid : JidParser

def SessionRead.run {α : Type} (c : Readers ι ρ δ) : SessionRead ι ρ δ α → Sql α
  | .loadIdentity address => SqliteSession.loadIdentity address
  | .getSession address => SqliteSession.getSession address
  | .loadPrekey id => SqliteSession.loadPrekey id
  | .getMaxPrekeyId => SqliteSession.getMaxPrekeyId
  | .loadSignedPrekey id => SqliteSession.loadSignedPrekey id
  | .loadAllSignedPrekeys => SqliteSession.loadAllSignedPrekeys
  | .getSenderKey address => SqliteSession.getSenderKey address
  | .getSyncKey keyId => SqliteSession.getSyncKey keyId
  | .getLatestSyncKeyId => SqliteSession.getLatestSyncKeyId
  | .getVersion name => SqliteSession.getVersion c.codecs.indexValueMap name
  | .getMutationMac name indexMac => SqliteSession.getMutationMac name indexMac
  | .getSenderKeyDevices groupJid => SqliteSession.getSenderKeyDevices groupJid
  | .getLidMapping lid => SqliteSession.getLidMapping lid
  | .getPnMapping phone => SqliteSession.getPnMapping phone
  | .getAllLidMappings => SqliteSession.getAllLidMappings
  | .hasSameBaseKey address messageId currentBaseKey =>
      SqliteSession.hasSameBaseKey address messageId currentBaseKey
  | .getDevices user => SqliteSession.getDevices c.codecs.deviceList user
  | .getTcToken jid => SqliteSession.getTcToken jid
  | .getAllTcTokenJids => SqliteSession.getAllTcTokenJids
  | .getMsgSecret chat sender msgId => SqliteSession.getMsgSecret chat sender msgId
  | .getMsgSecretWithTs chat sender msgId => SqliteSession.getMsgSecretWithTs chat sender msgId
  | .load => SqliteSession.load c.device
  | .exists => SqliteSession.exists
  | .getChat jid => SqliteSession.getChat c.jid jid
  | .getChats => SqliteSession.getChats c.jid
  | .isContact jid => SqliteSession.isContact jid

/-- The same list up to its order, or the same error. -/
inductive SameList {β : Type} : Except StoreError (List β) → Except StoreError (List β) → Prop where
  | ok {bs bs' : List β} (hperm : bs.Perm bs') : SameList (.ok bs) (.ok bs')
  | error (e : StoreError) : SameList (.error e) (.error e)

/-- However its statements end, the read gives the same on both sessions.  The
devices of a group come in no order. -/
def SessionRead.Same {α : Type} (c : Readers ι ρ δ) (s t : SqliteSession) :
    SessionRead ι ρ δ α → Prop
  | .getSenderKeyDevices groupJid => ∀ outcomes,
      SameList (SqliteSession.getSenderKeyDevices groupJid ⟨s, outcomes⟩).1
        (SqliteSession.getSenderKeyDevices groupJid ⟨t, outcomes⟩).1
  | read => (read.run c).SameResult s t

def SameReads (c : Readers ι ρ δ) (s t : SqliteSession) : Prop :=
  ∀ {α : Type} (read : SessionRead ι ρ δ α), read.Same c s t

/-- The session without the tables that the operations write. -/
def SqliteSession.others (s : SqliteSession) : SqliteSession :=
  { s with prekeys := .empty, mutationMacs := .empty, senderKeyDevices := .empty,
           msgSecrets := .empty }

/-- What the reads see of the tables that the operations write is the same. -/
structure SeenAlike (s t : SqliteSession) : Prop where
  prekeys : ∀ id, (s.prekeys.lookup id).map (·.record) = (t.prekeys.lookup id).map (·.record)
  mutationMacs : ∀ k, s.mutationMacs.lookup k = t.mutationMacs.lookup k
  senderKeyDevices : ∀ k, (s.senderKeyDevices.lookup k).map (fun hasKey => decide (hasKey ≠ 0)) =
    (t.senderKeyDevices.lookup k).map fun hasKey => decide (hasKey ≠ 0)
  msgSecrets : ∀ k, (s.msgSecrets.lookup k).map (fun r => (r.secret, r.messageTs)) =
    (t.msgSecrets.lookup k).map fun r => (r.secret, r.messageTs)

variable {c : Readers ι ρ δ} {s t : SqliteSession}

omit [WacoreBinary] [Inhabited ι] in
/-- Decoding does not read the session. -/
theorem fromJson_sameResult {α : Type} (codec : JsonCodec α) (text : String) :
    (do
      let a ← fromJson codec text
      return some a : Sql (Option α)).SameResult s t := by
  unfold fromJson
  cases codec.fromStr text with
  | ok a => exact .pure (some a)
  | error e => exact .throw _

omit [WacoreBinary] [Inhabited ι] in
theorem sameList_prepare_query {β : Type} {f : SqliteSession → List β} (hperm : (f s).Perm (f t))
    (outcomes : List (Option StoreError)) :
    SameList ((do prepare; query f : Sql (List β)) ⟨s, outcomes⟩).1
      ((do prepare; query f : Sql (List β)) ⟨t, outcomes⟩).1 := by
  rw [Program.bind_run, Program.bind_run, prepare, query_run, query_run]
  cases outcomes.head?.join with
  | some e => exact .error e
  | none =>
      dsimp only
      rw [query_run, query_run]
      cases outcomes.tail.head?.join with
      | some e => exact .error e
      | none => exact .ok hperm

omit [WacoreBinary] [Inhabited ι] in
theorem SeenAlike.getSenderKeyDevices (h : SeenAlike s t) (groupJid : String)
    (outcomes : List (Option StoreError)) :
    SameList (SqliteSession.getSenderKeyDevices groupJid ⟨s, outcomes⟩).1
      (SqliteSession.getSenderKeyDevices groupJid ⟨t, outcomes⟩).1 := by
  have hlists := senderKeyDevices_lists s groupJid
  rw [funext h.senderKeyDevices] at hlists
  exact sameList_prepare_query (hlists.perm (senderKeyDevices_lists t groupJid)) outcomes

/-- Sessions that are seen alike and have the same other tables are read alike. -/
theorem SeenAlike.sameReads (h : SeenAlike s t) (hothers : s.others = t.others) :
    SameReads c s t := by
  intro α read
  obtain ⟨identities, signalSessions, prekeys, signedPrekeys, senderKeys, syncKeys, appVersions,
    mutationMacs, senderKeyDevices, lidMappings, baseKeys, deviceLists, tcTokens, sentMessages,
    msgSecrets, device, chats, contacts⟩ := s
  obtain ⟨⟩ := t
  cases hothers
  cases read with
  | loadIdentity address =>
      refine .query_bind rfl (.query_bind rfl ?_)
      split
      · split
        · exact .pure _
        · exact .throw _
      · exact .pure _
  | loadPrekey id => exact .query_bind rfl (.query (h.prekeys id))
  | getMaxPrekeyId =>
      have hmax : prekeys.maxKey = _ :=
        Table.maxKey_congr fun id => by simpa using congrArg Option.isSome (h.prekeys id)
      exact .query_bind hmax (.pure _)
  | getVersion name =>
      refine .query_bind rfl (.query_bind rfl ?_)
      split
      · split
        · exact .throw _
        · exact .pure _
      · exact .pure _
  | getMutationMac name indexMac =>
      exact .query_bind rfl (.query (h.mutationMacs (name, indexMac)))
  | getSenderKeyDevices groupJid => exact h.getSenderKeyDevices groupJid
  | hasSameBaseKey address messageId currentBaseKey =>
      refine .query_bind rfl (.query_bind rfl ?_)
      split <;> exact .pure _
  | getDevices user =>
      refine .query_bind rfl (.query_bind rfl ?_)
      split
      · exact fromJson_sameResult _ _
      · exact .pure _
  | getMsgSecret chat sender msgId =>
      have hsecret := congrArg (Option.map Prod.fst) (h.msgSecrets (chat, sender, msgId))
      simp only [Option.map_map, Function.comp_def] at hsecret
      exact .query_bind rfl (.query hsecret)
  | getMsgSecretWithTs chat sender msgId =>
      exact .query_bind rfl (.query (h.msgSecrets (chat, sender, msgId)))
  | load =>
      refine .query_bind rfl (.query_bind rfl ?_)
      split
      · exact fromJson_sameResult _ _
      · exact .pure _
  | «exists» => exact .query rfl
  | isContact jid => exact .query rfl
  | _ => exact .query_bind rfl (.query rfl)

/-- The reads see what `SeenAlike` compares. -/
theorem SameReads.seenAlike (h : SameReads c s t) : SeenAlike s t := by
  refine ⟨fun id => ?_, fun k => ?_, fun k => ?_, fun k => ?_⟩
  · exact Except.ok.inj (h (.loadPrekey id) [])
  · exact Except.ok.inj (h (.getMutationMac k.1 k.2) [])
  · obtain ⟨groupJid, jid⟩ := k
    refine Option.ext fun hasKey => ?_
    have hs := (senderKeyDevices_lists s groupJid).2 jid hasKey
    have ht := (senderKeyDevices_lists t groupJid).2 jid hasKey
    cases h (.getSenderKeyDevices groupJid) [] with
    | ok hperm => exact hs.symm.trans (hperm.mem_iff.trans ht)
  · exact Except.ok.inj (h (.getMsgSecretWithTs k.1 k.2.1 k.2.2) [])

/-- Two sessions that differ in the tables that the operations write at most. -/
theorem sameReads_iff (hothers : s.others = t.others) : SameReads c s t ↔ SeenAlike s t :=
  ⟨SameReads.seenAlike, fun h => h.sameReads hothers⟩

end Reads

/-! ## What is seen of the entries -/

namespace BatchOp

variable {α : Type}

/-- The reads show the first `n` entries: for each key the value of the last one,
or no row where they delete. -/
def Shows : BatchOp α → Nat → SqliteSession → Prop
  | .setSenderKeyStatus groupJid entries, n, s =>
      Table.ShowsWrites (fun entry => (groupJid, entry.1)) (fun entry => i32From entry.2)
        (fun hasKey => decide (hasKey ≠ 0)) (entries.take n) s.senderKeyDevices
  | .deleteSenderKeyDeviceRows deviceJids, n, s =>
      Table.ShowsDeletes (fun jid k => k.2 = jid) (deviceJids.take n) s.senderKeyDevices
  | .putMutationMacs name _ mutations, n, s =>
      Table.ShowsWrites (fun m => (name, m.indexMac)) (·.valueMac) id (mutations.take n)
        s.mutationMacs
  | .deleteMutationMacs name indexMacs, n, s =>
      Table.ShowsDeletes (fun mac k => k = (name, mac)) (indexMacs.take n) s.mutationMacs
  | .putMsgSecrets entries, n, s =>
      Table.ShowsWrites (fun entry => (entry.chat, entry.sender, entry.msgId))
        (fun entry => ⟨entry.secret, entry.expiresAt, entry.messageTs⟩)
        (fun r => (r.secret, r.messageTs)) (entries.take n) s.msgSecrets
  | .markPrekeysUploaded _, _, _ => True

section Parts

variable {β : Type} {s : SqliteSession}

theorem runAll_prekeys (es : List β)
    (step : β → Table UInt32 PrekeyColumns → Table UInt32 PrekeyColumns) :
    runAll (es.map fun e s => { s with prekeys := step e s.prekeys }) s =
      { s with prekeys := es.foldl (fun t e => step e t) s.prekeys } :=
  runAll_part (fun s t => { s with prekeys := t }) (fun _ _ => rfl) (fun _ _ _ => rfl)
    (fun _ => rfl) es step s

theorem runAll_mutationMacs (es : List β)
    (step : β → Table (String × Blob) Blob → Table (String × Blob) Blob) :
    runAll (es.map fun e s => { s with mutationMacs := step e s.mutationMacs }) s =
      { s with mutationMacs := es.foldl (fun t e => step e t) s.mutationMacs } :=
  runAll_part (fun s t => { s with mutationMacs := t }) (fun _ _ => rfl)
    (fun _ _ _ => rfl) (fun _ => rfl) es step s

theorem runAll_senderKeyDevices (es : List β)
    (step : β → Table (String × String) Int → Table (String × String) Int) :
    runAll (es.map fun e s => { s with senderKeyDevices := step e s.senderKeyDevices }) s =
      { s with senderKeyDevices := es.foldl (fun t e => step e t) s.senderKeyDevices } :=
  runAll_part (fun s t => { s with senderKeyDevices := t }) (fun _ _ => rfl)
    (fun _ _ _ => rfl) (fun _ => rfl) es step s

theorem runAll_msgSecrets (es : List β)
    (step : β → Table (String × String × String) SecretColumns →
      Table (String × String × String) SecretColumns) :
    runAll (es.map fun e s => { s with msgSecrets := step e s.msgSecrets }) s =
      { s with msgSecrets := es.foldl (fun t e => step e t) s.msgSecrets } :=
  runAll_part (fun s t => { s with msgSecrets := t }) (fun _ _ => rfl)
    (fun _ _ _ => rfl) (fun _ => rfl) es step s

theorem seenAlike_prekeys {t : Table UInt32 PrekeyColumns} :
    SeenAlike s { s with prekeys := t } ↔
      ∀ id, (s.prekeys.lookup id).map (·.record) = (t.lookup id).map (·.record) :=
  ⟨fun h => h.prekeys, fun h => ⟨h, fun _ => rfl, fun _ => rfl, fun _ => rfl⟩⟩

theorem seenAlike_mutationMacs {t : Table (String × Blob) Blob} :
    SeenAlike s { s with mutationMacs := t } ↔
      ∀ k, (s.mutationMacs.lookup k).map id = (t.lookup k).map id := by
  simp only [Option.map_id_fun, id_eq]
  exact ⟨fun h => h.mutationMacs, fun h => ⟨fun _ => rfl, h, fun _ => rfl, fun _ => rfl⟩⟩

theorem seenAlike_senderKeyDevices {t : Table (String × String) Int} :
    SeenAlike s { s with senderKeyDevices := t } ↔
      ∀ k, (s.senderKeyDevices.lookup k).map (fun hasKey => decide (hasKey ≠ 0)) =
        (t.lookup k).map fun hasKey => decide (hasKey ≠ 0) :=
  ⟨fun h => h.senderKeyDevices, fun h => ⟨fun _ => rfl, fun _ => rfl, h, fun _ => rfl⟩⟩

theorem seenAlike_msgSecrets {t : Table (String × String × String) SecretColumns} :
    SeenAlike s { s with msgSecrets := t } ↔
      ∀ k, (s.msgSecrets.lookup k).map (fun r => (r.secret, r.messageTs)) =
        (t.lookup k).map fun r => (r.secret, r.messageTs) :=
  ⟨fun h => h.msgSecrets, fun h => ⟨fun _ => rfl, fun _ => rfl, fun _ => rfl, h⟩⟩

end Parts

/-- The entries change nothing that is seen if and only if it was seen before.  They
are seen then, and the other tables stay. -/
theorem after_seen (op : BatchOp α) (n : Nat) (s : SqliteSession) :
    s.others = (op.after n s).others ∧ (SeenAlike s (op.after n s) ↔ op.Shows n s) ∧
      op.Shows n (op.after n s) := by
  cases op with
  | setSenderKeyStatus groupJid entries =>
      rw [after, writes, ← List.map_take, runAll_senderKeyDevices (entries.take n) fun entry t =>
        t.insertOrReplace (groupJid, entry.1) (i32From entry.2)]
      exact ⟨rfl, seenAlike_senderKeyDevices.trans Table.showsWrites_iff,
        Table.showsWrites_foldl _ _ _⟩
  | deleteSenderKeyDeviceRows deviceJids =>
      rw [after, writes, ← List.map_take, runAll_senderKeyDevices (deviceJids.take n) fun jid t =>
        t.deleteWhere fun k _ => k.2 = jid]
      exact ⟨rfl, seenAlike_senderKeyDevices.trans Table.showsDeletes_iff,
        Table.showsDeletes_foldl _ _⟩
  | putMutationMacs name version mutations =>
      rw [after, writes, ← List.map_take, runAll_mutationMacs (mutations.take n) fun m t =>
        t.insertOrReplace (name, m.indexMac) m.valueMac]
      exact ⟨rfl, seenAlike_mutationMacs.trans Table.showsWrites_iff,
        Table.showsWrites_foldl _ _ _⟩
  | deleteMutationMacs name indexMacs =>
      rw [after, writes, ← List.map_take, runAll_mutationMacs (indexMacs.take n) fun mac t =>
        t.delete (name, mac)]
      exact ⟨rfl, seenAlike_mutationMacs.trans Table.showsDeletes_iff,
        Table.showsDeletes_foldl _ _⟩
  | putMsgSecrets entries =>
      rw [after, writes, ← List.map_take, runAll_msgSecrets (entries.take n) fun entry t =>
        t.insertOrReplace (entry.chat, entry.sender, entry.msgId)
          ⟨entry.secret, entry.expiresAt, entry.messageTs⟩]
      exact ⟨rfl, seenAlike_msgSecrets.trans Table.showsWrites_iff,
        Table.showsWrites_foldl _ _ _⟩
  | markPrekeysUploaded ids =>
      rw [after, writes, ← List.map_take, runAll_prekeys (ids.take n) fun id t =>
        t.update id fun r => { r with uploaded := 1 }]
      refine ⟨rfl, iff_of_true (seenAlike_prekeys.mpr fun id => ?_) trivial, trivial⟩
      refine (Table.map_lookup_foldl_update ?_ s.prekeys (ids.take n) id).symm
      exact fun _ => rfl

end BatchOp

/-- The operations are not atomic.  After `Ok` all entries are applied and shown.
After an error those before the failing one are, and every read gives what it gave
before the call if and only if the session showed these already. -/
theorem batch_applies_prefix [WacoreBinary] {ι ρ δ : Type} [Inhabited ι] (c : Readers ι ρ δ)
    {α : Type} (op : BatchOp α) (s : SqliteSession) (outcomes : List (Option StoreError)) :
    match firstFailure (op.writes.length + 1) outcomes with
    | none =>
        (op.run ⟨s, outcomes⟩).1 = .ok op.result ∧
          (op.run ⟨s, outcomes⟩).2.store = op.after op.writes.length s ∧
            op.Shows op.writes.length (op.run ⟨s, outcomes⟩).2.store
    | some (k, e) =>
        (op.run ⟨s, outcomes⟩).1 = .error e ∧
          (op.run ⟨s, outcomes⟩).2.store = op.after (k - 1) s ∧
            (SameReads c s (op.run ⟨s, outcomes⟩).2.store ↔ op.Shows (k - 1) s) := by
  rw [op.run_ends]
  split
  · exact ⟨rfl, rfl, (op.after_seen op.writes.length s).2.2⟩
  · next k e _ =>
      obtain ⟨hothers, hseen, -⟩ := op.after_seen (k - 1) s
      exact ⟨rfl, rfl, (sameReads_iff hothers).trans hseen⟩

/-- The second of two statements fails; the first MAC is there. -/
theorem put_mutation_macs_keeps_first :
    let outcomes := [none, none, some (.database "disk I/O error")]
    let run := SqliteSession.putMutationMacs "regular" 1 [⟨[1], [2]⟩, ⟨[3], [4]⟩] ⟨.new, outcomes⟩
    run.1 = .error (.database "disk I/O error") ∧
      (SqliteSession.getMutationMac "regular" [1] ⟨.new, []⟩).1 = .ok none ∧
        (SqliteSession.getMutationMac "regular" [1] ⟨run.2.store, []⟩).1 = .ok (some [2]) :=
  ⟨rfl, rfl, rfl⟩

end Waepic.Session
