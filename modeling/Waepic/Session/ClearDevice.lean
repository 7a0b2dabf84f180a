import Waepic.Binary.Node
import Waepic.Session.Sqlite

/-!
# Clearing the device

`Client::clear_device` calls `clear_device` of the session, and so does
`run_update_stream` on a `LoggedOut`.  The trait `Session` gives it a body that
does nothing.  `SqliteSession` deletes the row of the device; `MemorySession`
keeps the body of the trait, and with it the device.

So the device is cleared in every SQLite session, and in a memory session
exactly if there was none (`clear_device_clears_iff`).
-/

namespace Waepic.Session

open Tables Statements

/-! ## The sessions -/

structure ChatEntry where
  jid : Binary.Jid
  name : Option String
  kind : String

/-- What wacore's `InMemoryBackend` does with a device. -/
structure InMemoryBackend (δ : Type) where
  State : Type
  load : State → Option δ
  «exists» : State → Bool
  /-- `Device::new()` gives the device. -/
  create : δ → State → State
  exists_eq : ∀ s, «exists» s = (load s).isSome
  load_create : ∀ new s, load s = none → load (create new s) = some new

structure MemorySession {δ : Type} (backend : InMemoryBackend δ) where
  backend : backend.State
  chats : String → Option ChatEntry
  contacts : String → Bool

/-- The device of a `Session`, as relations: an operation may return `Ok`, with a
result, and leave a state.  An implementation that has no `clear_device` gets the
body of the trait. -/
structure SessionDevice (σ δ : Type) where
  load : σ → Option δ → σ → Prop
  «exists» : σ → Bool → σ → Prop
  /-- `Device::new()` gives the device. -/
  create : δ → σ → σ → Prop
  clearDevice : σ → σ → Prop := fun s t => t = s
  Cached : Type
  /-- The chats and the contacts. -/
  cached : σ → Cached

variable {σ δ : Type}

def sqliteDevice (codec : JsonCodec δ) : SessionDevice SqliteSession δ where
  load s r t := (SqliteSession.load codec).Yields s r t
  «exists» s r t := SqliteSession.exists.Yields s r t
  create new s t := ∃ id, (SqliteSession.create codec new).Yields s id t
  clearDevice s t := SqliteSession.clearDevice.Yields s () t
  Cached := Table String ChatColumns × Table String Unit
  cached s := (s.chats, s.contacts)

def memoryDevice (backend : InMemoryBackend δ) : SessionDevice (MemorySession backend) δ where
  load s r t := r = backend.load s.backend ∧ t = s
  «exists» s r t := r = backend.exists s.backend ∧ t = s
  create new s t := t = { s with backend := backend.create new s.backend }
  Cached := (String → Option ChatEntry) × (String → Bool)
  cached s := (s.chats, s.contacts)

namespace SessionDevice

/-- `Client::is_authorized`, where `paired` says that a device has a `pn`. -/
def IsAuthorized (S : SessionDevice σ δ) (paired : δ → Bool) (s : σ) (b : Bool) (t : σ) : Prop :=
  ∃ device, S.load s device t ∧ b = device.any paired

/-- No operation finds a device in `t`, `create` stores a new one there, and the
chats and contacts are those of `s`. -/
structure Cleared (S : SessionDevice σ δ) (paired : δ → Bool) (s t : σ) : Prop where
  load : ∀ r u, S.load t r u → r = none
  «exists» : ∀ b u, S.exists t b u → b = false
  isAuthorized : ∀ b u, S.IsAuthorized paired t b u → b = false
  create : ∀ new u, S.create new t u → ∀ r v, S.load u r v → r = some new
  cached : S.cached t = S.cached s

end SessionDevice

/-! ## The device is cleared -/

section Sqlite

variable {codec : JsonCodec δ} {s t : SqliteSession} {r : Option δ}

theorem sqlite_cleared (paired : δ → Bool) (h : (sqliteDevice codec).clearDevice s t) :
    (sqliteDevice codec).Cleared paired s t := by
  obtain rfl := Program.Yields.execute h
  have hload : ∀ r u, (sqliteDevice codec).load { s with device := none } r u → r = none := by
    intro r u hload
    rcases load_yields hload with ⟨text, device, htext, -, -⟩ | ⟨-, hr⟩
    · cases htext
    · exact hr
  refine ⟨hload, ?_, ?_, ?_, rfl⟩
  · intro b u hexists
    exact (Program.Yields.query hexists).1
  · rintro b u ⟨device, hdevice, rfl⟩
    rw [hload device u hdevice]
    rfl
  · rintro new u ⟨id, hcreate⟩ r v hloaded
    rcases create_ends hcreate with ⟨-, -, text, htext, rfl⟩ | ⟨-, hfailed⟩
    · rcases load_yields hloaded with ⟨text', device, htext', hdecode, rfl⟩ | ⟨hnone, -⟩
      · cases htext'
        rw [codec.fromStr_toString htext] at hdecode
        cases hdecode
        rfl
      · cases hnone
    · obtain ⟨e, hr⟩ := hfailed rfl
      cases hr

end Sqlite

theorem memory_cleared_iff {backend : InMemoryBackend δ} (paired : δ → Bool)
    {s t : MemorySession backend} (h : (memoryDevice backend).clearDevice s t) :
    (memoryDevice backend).Cleared paired s t ↔ backend.load s.backend = none := by
  obtain rfl : t = s := h
  constructor
  · intro hcleared
    exact hcleared.load _ t ⟨rfl, rfl⟩
  · intro hnone
    refine ⟨?_, ?_, ?_, ?_, rfl⟩
    · rintro r u ⟨rfl, -⟩
      exact hnone
    · rintro b u ⟨rfl, -⟩
      rw [backend.exists_eq, hnone]
      rfl
    · rintro b u ⟨device, ⟨rfl, -⟩, rfl⟩
      rw [hnone]
      rfl
    · rintro new u rfl r v ⟨rfl, -⟩
      exact backend.load_create new _ hnone

/-- `clear_device` clears the device of every SQLite session, and that of a memory
session exactly if it has none. -/
theorem clear_device_clears_iff (codec : JsonCodec δ) (backend : InMemoryBackend δ)
    (paired : δ → Bool) :
    (∀ s t, (sqliteDevice codec).clearDevice s t → (sqliteDevice codec).Cleared paired s t) ∧
      ∀ s t, (memoryDevice backend).clearDevice s t →
        ((memoryDevice backend).Cleared paired s t ↔ backend.load s.backend = none) :=
  ⟨fun _ _ h => sqlite_cleared paired h, fun _ _ h => memory_cleared_iff paired h⟩

/-- A backend that is a device. -/
def deviceBackend : InMemoryBackend Bool where
  State := Option Bool
  load s := s
  «exists» s := s.isSome
  create new s := s.or (some new)
  exists_eq _ := rfl
  load_create new s h := by rw [h]; rfl

def boolJson : JsonCodec Bool where
  toString b := .ok (if b then "true" else "false")
  fromStr text := .ok (text = "true")
  fromStr_toString := by
    rintro (_ | _) text h <;> cases h <;> rfl

/-- A session of an unpaired device. -/
def deviceSession : MemorySession deviceBackend where
  backend := some false
  chats _ := none
  contacts _ := false

/-- A SQLite session loses its device, and a memory session had none. -/
theorem clear_device_clears_both :
    (sqliteDevice boolJson).Cleared id { SqliteSession.new with device := some "true" } .new ∧
      (memoryDevice deviceBackend).Cleared id { deviceSession with backend := none }
        { deviceSession with backend := none } := by
  have hclears := clear_device_clears_iff boolJson deviceBackend id
  exact ⟨hclears.1 _ _ ⟨[], [], rfl⟩, (hclears.2 _ _ rfl).mpr rfl⟩

/-- A memory session keeps its device. -/
theorem memory_device_not_cleared :
    ¬ ∀ s t, (memoryDevice deviceBackend).clearDevice s t →
      (memoryDevice deviceBackend).Cleared id s t := by
  intro hall
  cases (hall deviceSession deviceSession rfl).load _ deviceSession ⟨rfl, rfl⟩

end Waepic.Session
