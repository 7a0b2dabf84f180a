import Waepic.Session.Sqlite

/-!
# The latest sync key

`get_latest_sync_key_id` takes the row of `sync_keys` with the largest row id.
`set_sync_key` replaces the row of a key that is stored, and the new row has the
largest row id.  So a key that is stored again, with the data that it has, is the
latest key from then on.

Storing a known key again changes no read exactly if its key was the last one to
be stored (`sync_key_redelivery_iff`).
-/

namespace Waepic.Session

open Tables Statements

/-- Calls of `set_sync_key` take a new database to a session; `keys` are those that
returned `Ok`, oldest first. -/
inductive SyncKeysStored : List (Blob × AppStateSyncKey) → SqliteSession → Prop where
  | new : SyncKeysStored [] .new
  | set {keys : List (Blob × AppStateSyncKey)} {s t : SqliteSession} {keyId : Blob}
      {key : AppStateSyncKey} : SyncKeysStored keys s →
      (SqliteSession.setSyncKey keyId key).Yields s () t → SyncKeysStored (keys ++ [(keyId, key)]) t
  | failed {keys : List (Blob × AppStateSyncKey)} {s t : SqliteSession} {keyId : Blob}
      {key : AppStateSyncKey} {e : StoreError} : SyncKeysStored keys s →
      (SqliteSession.setSyncKey keyId key).Ends s (.error e) t → SyncKeysStored keys t

/-- The reads of the sync keys give the same. -/
structure SameSyncKeys (s t : SqliteSession) : Prop where
  get : ∀ keyId, (SqliteSession.getSyncKey keyId).SameResult s t
  latest : SqliteSession.getLatestSyncKeyId.SameResult s t

section Redelivery

variable {keys : List (Blob × AppStateSyncKey)} {s t : SqliteSession} {keyId : Blob}
  {key : AppStateSyncKey}

/-- The last row is the one that was stored last. -/
theorem SyncKeysStored.getLast (h : SyncKeysStored keys s) :
    s.syncKeys.rows.getLast? = keys.getLast? := by
  induction h with
  | new => rfl
  | set _ hset _ =>
      obtain rfl := hset.execute
      rw [List.getLast?_concat]
      exact (congrArg List.getLast? Table.rows_insertOrReplace).trans List.getLast?_concat
  | failed _ hset ih =>
      rcases hset.execute with ⟨-, rfl⟩ | ⟨hok, -⟩
      · exact ih
      · cases hok

/-- A stored key that is stored again becomes the latest one, and nothing else
changes. -/
theorem redelivered_sync_key (hknown : s.syncKeys.lookup keyId = some key)
    (hset : (SqliteSession.setSyncKey keyId key).Yields s () t) :
    t.syncKeys.lookup = s.syncKeys.lookup ∧
      t.syncKeys.rows.getLast?.map (·.1) = some keyId := by
  obtain rfl := hset.execute
  constructor
  · show (s.syncKeys.insertOrReplace keyId key).lookup = _
    rw [Table.lookup_insertOrReplace, ← hknown, Function.update_eq_self]
  · show (s.syncKeys.insertOrReplace keyId key).rows.getLast?.map (·.1) = _
    rw [Table.rows_insertOrReplace, List.getLast?_concat]
    rfl

theorem sameSyncKeys_iff (hknown : s.syncKeys.lookup keyId = some key)
    (hset : (SqliteSession.setSyncKey keyId key).Yields s () t) :
    SameSyncKeys s t ↔ s.syncKeys.rows.getLast?.map (·.1) = some keyId := by
  obtain ⟨hlookup, hlast⟩ := redelivered_sync_key hknown hset
  constructor
  · intro h
    exact (Except.ok.inj (h.latest [])).trans hlast
  · intro h
    refine ⟨fun i => ?_, ?_⟩
    · exact .query_bind rfl (.query (congrFun hlookup i).symm)
    · exact .query_bind rfl (.query (h.trans hlast.symm))

/-- After any calls of `set_sync_key`, storing a known key again with its data
changes no read exactly if the key is the one that was stored last. -/
theorem sync_key_redelivery_iff (h : SyncKeysStored keys s)
    (hknown : s.syncKeys.lookup keyId = some key)
    (hset : (SqliteSession.setSyncKey keyId key).Yields s () t) :
    SameSyncKeys s t ↔ keys.getLast?.map (·.1) = some keyId := by
  rw [sameSyncKeys_iff hknown hset, h.getLast]

end Redelivery

def oldKey : AppStateSyncKey := ⟨[1], [], 1⟩

def newKey : AppStateSyncKey := ⟨[2], [], 2⟩

/-- A session with two keys, in the order of their timestamps. -/
def twoKeys : SqliteSession :=
  { SqliteSession.new with
    syncKeys := (Table.empty.insertOrReplace [0] oldKey).insertOrReplace [1] newKey }

theorem twoKeys_stored : SyncKeysStored [([0], oldKey), ([1], newKey)] twoKeys :=
  .set (.set .new ⟨[], [], rfl⟩) ⟨[], [], rfl⟩

/-- The newer key is delivered again. -/
theorem sync_key_redelivery_newer :
    SameSyncKeys twoKeys
      { twoKeys with syncKeys := twoKeys.syncKeys.insertOrReplace [1] newKey } := by
  have hknown : twoKeys.syncKeys.lookup [1] = some newKey := rfl
  exact (sync_key_redelivery_iff twoKeys_stored hknown ⟨[], [], rfl⟩).mpr rfl

/-- The older key is delivered again, and is the latest one then. -/
theorem sync_key_redelivery_older :
    (SqliteSession.getLatestSyncKeyId ⟨twoKeys, []⟩).1 = .ok (some [1]) ∧
      (SqliteSession.getSyncKey [0] ⟨twoKeys, []⟩).1 = .ok (some oldKey) ∧
        (SqliteSession.getLatestSyncKeyId
          (SqliteSession.setSyncKey [0] oldKey ⟨twoKeys, []⟩).2).1 = .ok (some [0]) :=
  ⟨rfl, rfl, rfl⟩

end Waepic.Session
