import Waepic.Session.ClearDevice
import Waepic.Session.SqliteMaps

/-!
# The chat caches

A `Session` caches chats by the text of their JID.  `MemorySession` keeps whole
entries in a hash map.  `SqliteSession` keeps the name and the kind in a row and
reads the JID back from the key, `Jid::default()` where that does not parse.

The two return the same for every sequence of calls on empty caches, up to the
order of `get_chats`, if the JIDs of the cached chats are read back as they were
written (`chat_caches_interchangeable`).  The invariant is that the rows
represent the map, with a key that parses to the JID of its entry.
-/

namespace Waepic.Session

open Binary Tables Statements

/-- wacore's `Jid::from_str` and `Jid::default()`. -/
structure JidParser where
  fromStr : String → Option Jid
  default : Jid

/-- `parse().unwrap_or_default()`. -/
def JidParser.parseOrDefault (parser : JidParser) (text : String) : Jid :=
  (parser.fromStr text).getD parser.default

/-- The entry of a row of `chats`. -/
def ChatColumns.entry (parser : JidParser) (jid : String) (r : ChatColumns) : ChatEntry :=
  ⟨parser.parseOrDefault jid, r.name, r.kind⟩

section Calls

variable [WacoreBinary]

/-! ## The operations -/

namespace SqliteSession

def getChat (parser : JidParser) (jid : Jid) : Sql (Option ChatEntry) := do
  prepare
  query fun s =>
    (s.chats.lookup (WacoreBinary.jidText jid)).map
      (ChatColumns.entry parser (WacoreBinary.jidText jid))

def cacheChat (chat : ChatEntry) : Sql Unit :=
  execute fun s =>
    { s with
      chats := s.chats.insertOrReplace (WacoreBinary.jidText chat.jid) ⟨chat.name, chat.kind⟩ }

/-- Without an `ORDER BY`. -/
def getChats (parser : JidParser) : Sql (List ChatEntry) := do
  prepare
  query fun s => s.chats.rows.map fun r => ChatColumns.entry parser r.1 r.2

def removeChat (jid : Jid) : Sql Unit :=
  execute fun s => { s with chats := s.chats.delete (WacoreBinary.jidText jid) }

def isContact (jid : Jid) : Sql Bool :=
  query fun s => (s.contacts.lookup (WacoreBinary.jidText jid)).isSome

end SqliteSession

namespace MemorySession

variable {δ : Type} {backend : InMemoryBackend δ}

/-- `MemorySession::new`, whose backend starts in `state`. -/
def new (state : backend.State) : MemorySession backend where
  backend := state
  chats _ := none
  contacts _ := false

def getChat (s : MemorySession backend) (jid : Jid) : Option ChatEntry :=
  s.chats (WacoreBinary.jidText jid)

def cacheChat (s : MemorySession backend) (chat : ChatEntry) : MemorySession backend :=
  { s with chats := Function.update s.chats (WacoreBinary.jidText chat.jid) (some chat) }

/-- What `get_chats` may return: the values of the map, in an order of its own. -/
def GetChats (s : MemorySession backend) (chats : List ChatEntry) : Prop :=
  ∃ pairs, Lists pairs s.chats id ∧ chats = pairs.map Prod.snd

def removeChat (s : MemorySession backend) (jid : Jid) : MemorySession backend :=
  { s with chats := Function.update s.chats (WacoreBinary.jidText jid) none }

end MemorySession

/-! ## Sequences of calls -/

inductive ChatOp where
  | cacheChat (chat : ChatEntry)
  | removeChat (jid : Jid)
  | getChat (jid : Jid)
  | getChats

/-- What a call returns with `Ok`. -/
inductive ChatResult where
  | done
  | chat (chat : Option ChatEntry)
  | chats (chats : List ChatEntry)

/-- The same result, where the chats are a multiset. -/
inductive ChatResult.Same : ChatResult → ChatResult → Prop where
  | done : Same .done .done
  | chat (chat : Option ChatEntry) : Same (.chat chat) (.chat chat)
  | chats {chats chats' : List ChatEntry} (hperm : chats.Perm chats') :
      Same (.chats chats) (.chats chats')

def ChatOp.sqlite (parser : JidParser) : ChatOp → Sql ChatResult
  | .cacheChat chat => do
      SqliteSession.cacheChat chat
      return .done
  | .removeChat jid => do
      SqliteSession.removeChat jid
      return .done
  | .getChat jid => do
      let chat ← SqliteSession.getChat parser jid
      return .chat chat
  | .getChats => do
      let chats ← SqliteSession.getChats parser
      return .chats chats

section Memory

variable {δ : Type} {backend : InMemoryBackend δ}

/-- The call may return `r` and leave the memory session `t`. -/
def ChatOp.Memory : ChatOp → MemorySession backend → ChatResult → MemorySession backend → Prop
  | .cacheChat chat, s, r, t => r = .done ∧ t = s.cacheChat chat
  | .removeChat jid, s, r, t => r = .done ∧ t = s.removeChat jid
  | .getChat jid, s, r, t => r = .chat (s.getChat jid) ∧ t = s
  | .getChats, s, r, t => (∃ chats, s.GetChats chats ∧ r = .chats chats) ∧ t = s

/-- The calls may return the results, one after another, and leave `t`. -/
inductive MemoryResults : MemorySession backend → List ChatOp → List ChatResult →
    MemorySession backend → Prop where
  | nil {s : MemorySession backend} : MemoryResults s [] [] s
  | cons {s t u : MemorySession backend} {op : ChatOp} {ops : List ChatOp} {r : ChatResult}
      {rs : List ChatResult} : op.Memory s r t → MemoryResults t ops rs u →
      MemoryResults s (op :: ops) (r :: rs) u

end Memory

/-! ## The rows represent the map -/

omit [WacoreBinary] in
/-- Two listings of a map have the same pairs. -/
theorem Lists.perm {κ ν σ : Type} {pairs pairs' : List (κ × ν)} {m : σ → Option ν} {key : κ → σ}
    (h : Lists pairs m key) (h' : Lists pairs' m key) : pairs.Perm pairs' := by
  refine (List.perm_ext_iff_of_nodup (h.1.of_map _) (h'.1.of_map _)).mpr ?_
  rintro ⟨k, v⟩
  exact (h.2 k v).trans (h'.2 k v).symm

section Simulation

variable {δ : Type} {backend : InMemoryBackend δ} {parser : JidParser} {s t : SqliteSession}
  {m m' : MemorySession backend} {op : ChatOp} {ops : List ChatOp} {r r' : ChatResult}
  {rs rs' : List ChatResult}

/-- Each row has the name and the kind of an entry, and its key parses to the JID. -/
def Cached (parser : JidParser) (s : SqliteSession) (m : MemorySession backend) : Prop :=
  s.chats.Represents
    (fun text row chat => row = ⟨chat.name, chat.kind⟩ ∧ parser.fromStr text = some chat.jid)
    m.chats

omit [WacoreBinary] in
theorem cached_new (state : backend.State) : Cached parser .new (.new state) :=
  Table.represents_empty

omit [WacoreBinary] in
/-- A row is read back as the entry. -/
theorem ChatColumns.entry_eq {text : String} {row : ChatColumns} {chat : ChatEntry}
    (hrow : row = ⟨chat.name, chat.kind⟩) (hparse : parser.fromStr text = some chat.jid) :
    row.entry parser text = chat := by
  subst hrow
  unfold ChatColumns.entry JidParser.parseOrDefault
  rw [hparse]
  rfl

omit [WacoreBinary] in
theorem Cached.lookup (h : Cached parser s m) (text : String) :
    (s.chats.lookup text).map (ChatColumns.entry parser text) = m.chats text := by
  have hmap := h.map_lookup (k := text) (f := ChatColumns.entry parser text) (g := id)
    fun row chat hR => ChatColumns.entry_eq hR.1 hR.2
  rwa [Option.map_id] at hmap

omit [WacoreBinary] in
/-- The rows list the map. -/
theorem Cached.lists (h : Cached parser s m) :
    Lists (s.chats.rows.map fun r => (r.1, ChatColumns.entry parser r.1 r.2)) m.chats id := by
  constructor
  · rw [List.map_map]
    exact s.chats.unique
  · intro text chat
    rw [id_eq, ← h.lookup, Option.map_eq_some_iff]
    simp [Table.lookup_eq_some]

/-- A call on both sessions returns the same, and the rows still represent the map. -/
theorem Cached.call (h : Cached parser s m)
    (hparse : ∀ chat, op = .cacheChat chat →
      parser.fromStr (WacoreBinary.jidText chat.jid) = some chat.jid)
    (hmemory : op.Memory m r m') (hsqlite : (op.sqlite parser).Yields s r' t) :
    r.Same r' ∧ Cached parser t m' := by
  cases op with
  | cacheChat chat =>
      obtain ⟨rfl, rfl⟩ := hmemory
      obtain ⟨_, _, hwrite, hreturn⟩ := hsqlite.bind
      obtain ⟨rfl, rfl⟩ := hreturn.pure
      obtain rfl := hwrite.execute
      exact ⟨.done, Table.Represents.insertOrReplace h ⟨rfl, hparse chat rfl⟩⟩
  | removeChat jid =>
      obtain ⟨rfl, rfl⟩ := hmemory
      obtain ⟨_, _, hwrite, hreturn⟩ := hsqlite.bind
      obtain ⟨rfl, rfl⟩ := hreturn.pure
      obtain rfl := hwrite.execute
      exact ⟨.done, Table.Represents.delete h⟩
  | getChat jid =>
      obtain ⟨rfl, rfl⟩ := hmemory
      obtain ⟨chat, _, hread, hreturn⟩ := hsqlite.bind
      obtain ⟨rfl, rfl⟩ := hreturn.pure
      obtain ⟨rfl, rfl⟩ := yields_prepare_query hread
      rw [h.lookup]
      exact ⟨.chat _, h⟩
  | getChats =>
      obtain ⟨⟨_, ⟨pairs, hpairs, rfl⟩, rfl⟩, rfl⟩ := hmemory
      obtain ⟨chats, _, hread, hreturn⟩ := hsqlite.bind
      obtain ⟨rfl, rfl⟩ := hreturn.pure
      obtain ⟨rfl, rfl⟩ := yields_prepare_query hread
      have hperm := (hpairs.perm h.lists).map Prod.snd
      rw [List.map_map] at hperm
      exact ⟨.chats hperm, h⟩

/-- Every run on both sessions. -/
theorem Cached.calls (h : Cached parser s m)
    (hparse : ∀ chat, .cacheChat chat ∈ ops →
      parser.fromStr (WacoreBinary.jidText chat.jid) = some chat.jid)
    (hmemory : MemoryResults m ops rs m')
    (hsqlite : (ops.mapM (ChatOp.sqlite parser)).Yields s rs' t) :
    List.Forall₂ ChatResult.Same rs rs' := by
  induction hmemory generalizing s rs' with
  | nil =>
      rw [List.mapM_nil] at hsqlite
      obtain ⟨rfl, -⟩ := hsqlite.pure
      exact .nil
  | cons hcall _ ih =>
      rw [List.mapM_cons] at hsqlite
      obtain ⟨r', u, hfirst, hrest⟩ := hsqlite.bind
      obtain ⟨rs', v, hcalls, hreturn⟩ := hrest.bind
      obtain ⟨rfl, rfl⟩ := hreturn.pure
      obtain ⟨hsame, hcached⟩ :=
        h.call (fun chat hop => hparse chat (hop ▸ List.mem_cons_self)) hcall hfirst
      exact .cons hsame (ih hcached (fun chat hchat => hparse chat (.tail _ hchat)) hcalls)

/-- Without an SQL error every call on the SQLite session returns `Ok`. -/
theorem ChatOp.sqlite_ok (parser : JidParser) (op : ChatOp) (s : SqliteSession) :
    ∃ r t, op.sqlite parser ⟨s, []⟩ = (.ok r, ⟨t, []⟩) := by
  cases op <;> exact ⟨_, _, rfl⟩

theorem sqlite_calls_ok (parser : JidParser) (ops : List ChatOp) (s : SqliteSession) :
    ∃ rs t, ops.mapM (ChatOp.sqlite parser) ⟨s, []⟩ = (.ok rs, ⟨t, []⟩) := by
  induction ops generalizing s with
  | nil => exact ⟨[], s, rfl⟩
  | cons op ops ih =>
      obtain ⟨r, t, hcall⟩ := op.sqlite_ok parser s
      obtain ⟨rs, u, hrest⟩ := ih t
      refine ⟨r :: rs, u, ?_⟩
      rw [List.mapM_cons, Program.bind_run, hcall]
      dsimp only
      rw [Program.bind_run, hrest]
      rfl

/-- The memory session returns for every call. -/
theorem Cached.memory_returns (h : Cached parser s m)
    (hparse : ∀ chat, .cacheChat chat ∈ ops →
      parser.fromStr (WacoreBinary.jidText chat.jid) = some chat.jid) :
    ∃ rs m', MemoryResults m ops rs m' := by
  induction ops generalizing s m with
  | nil => exact ⟨[], m, .nil⟩
  | cons op ops ih =>
      have hop : ∃ r m', op.Memory m r m' := by
        cases op with
        | cacheChat chat => exact ⟨_, _, rfl, rfl⟩
        | removeChat jid => exact ⟨_, _, rfl, rfl⟩
        | getChat jid => exact ⟨_, _, rfl, rfl⟩
        | getChats => exact ⟨_, _, ⟨_, ⟨_, h.lists, rfl⟩, rfl⟩, rfl⟩
      obtain ⟨r, m₁, hcall⟩ := hop
      obtain ⟨r', t, hsqlite⟩ := op.sqlite_ok parser s
      obtain ⟨-, hcached⟩ :=
        h.call (fun chat hop => hparse chat (hop ▸ List.mem_cons_self)) hcall ⟨[], [], hsqlite⟩
      obtain ⟨rs, m', hrest⟩ := ih hcached fun chat hchat => hparse chat (.tail _ hchat)
      exact ⟨r :: rs, m', .cons hcall hrest⟩

end Simulation

/-- The chat caches are interchangeable: for every sequence of calls on empty
caches that meets no SQL error, whatever the memory session may return, the SQLite
session returns the same, with the lists of chats as multisets. -/
theorem chat_caches_interchangeable {δ : Type} {backend : InMemoryBackend δ}
    (state : backend.State) (parser : JidParser) (ops : List ChatOp)
    (hparse : ∀ chat, .cacheChat chat ∈ ops →
      parser.fromStr (WacoreBinary.jidText chat.jid) = some chat.jid) :
    (∃ rs m, MemoryResults (.new state) ops rs m) ∧
      (∃ rs t, (ops.mapM (ChatOp.sqlite parser)).Yields .new rs t) ∧
        ∀ rs rs' m t, MemoryResults (.new state) ops rs m →
          (ops.mapM (ChatOp.sqlite parser)).Yields .new rs' t →
            List.Forall₂ ChatResult.Same rs rs' := by
  have hnew : Cached parser .new (MemorySession.new state) := cached_new state
  refine ⟨hnew.memory_returns hparse, ?_, ?_⟩
  · obtain ⟨rs, t, hcalls⟩ := sqlite_calls_ok parser ops .new
    exact ⟨rs, t, [], [], hcalls⟩
  · intro rs rs' m t hmemory hsqlite
    exact hnew.calls hparse hmemory hsqlite

end Calls

def testJid : Jid where
  user := "5511999998888"
  server := "s.whatsapp.net"
  agent := 0
  device := 0
  integrator := 0

def testChatEntry : ChatEntry where
  jid := testJid
  name := some "Test User"
  kind := "user"

/-- Reads the text of `testJid`. -/
def testParser : JidParser where
  fromStr text := if text = "5511999998888@s.whatsapp.net" then some testJid else none
  default := ⟨"", "", 0, 0, 0⟩

def testCalls : List ChatOp :=
  [.cacheChat testChatEntry, .getChat testJid, .getChats, .removeChat testJid, .getChat testJid]

def emptyMemory : MemorySession deviceBackend := .new (show deviceBackend.State from none)

/-- A chat is cached, found, listed and removed. -/
theorem chat_caches_interchangeable_test :
    letI := plainWacore
    ∃ rs, (testCalls.mapM (ChatOp.sqlite testParser) ⟨.new, []⟩).1 = .ok rs ∧
      List.Forall₂ ChatResult.Same
        [.done, .chat (some testChatEntry), .chats [testChatEntry], .done, .chat none] rs := by
  let _ := plainWacore
  have htext : WacoreBinary.jidText testJid = "5511999998888@s.whatsapp.net" := rfl
  have hall := chat_caches_interchangeable emptyMemory.backend testParser testCalls (by
    intro chat hchat
    obtain rfl : chat = testChatEntry := by simpa [testCalls] using hchat
    rfl)
  have hcached : (emptyMemory.cacheChat testChatEntry).GetChats [testChatEntry] := by
    refine ⟨[("5511999998888@s.whatsapp.net", testChatEntry)], ⟨by simp, ?_⟩, rfl⟩
    intro k v
    by_cases hk : k = "5511999998888@s.whatsapp.net"
    · subst hk
      simp [MemorySession.cacheChat, testChatEntry, htext, eq_comm]
    · simp [MemorySession.cacheChat, testChatEntry, htext, hk, emptyMemory, MemorySession.new]
  have hmemory : MemoryResults emptyMemory testCalls
      [.done, .chat (some testChatEntry), .chats [testChatEntry], .done, .chat none]
      ((emptyMemory.cacheChat testChatEntry).removeChat testJid) :=
    .cons ⟨rfl, rfl⟩ (.cons ⟨rfl, rfl⟩ (.cons ⟨⟨_, hcached, rfl⟩, rfl⟩
      (.cons ⟨rfl, rfl⟩ (.cons ⟨rfl, rfl⟩ .nil))))
  obtain ⟨rs, t, hsqlite⟩ := sqlite_calls_ok testParser testCalls .new
  exact ⟨rs, congrArg Prod.fst hsqlite, hall.2.2 _ rs _ t hmemory ⟨[], [], hsqlite⟩⟩

end Waepic.Session
