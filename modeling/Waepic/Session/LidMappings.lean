import Waepic.Session.Sqlite
import Mathlib.Data.List.Induction

/-!
# LID mappings

`lid_mappings` has the LID as its key, so `put_lid_mapping` replaces what was put
for the LID, and the new row comes last.  `get_pn_mapping` takes the first row of
a phone number.  While a second LID maps to the number too, that is the row that
was put first.

So the lookups agree with the latest entries exactly if no two LIDs map to one
phone number (`lid_mappings_consistent_iff`).
-/

namespace Waepic.Session

open Tables Statements SqliteSession

/-! ## What the entries say -/

/-- The entries that no later one replaces, oldest first. -/
def live : List LidPnMappingEntry → List LidPnMappingEntry
  | [] => []
  | e :: es => if es.any (·.lid = e.lid) then live es else e :: live es

/-- The last entry that was put for a LID. -/
def lastPut (entries : List LidPnMappingEntry) (lid : String) : Option LidPnMappingEntry :=
  entries.reverse.find? (·.lid = lid)

/-- The last entry that was put and still maps to a phone number. -/
def lastMapping (entries : List LidPnMappingEntry) (phone : String) : Option LidPnMappingEntry :=
  (live entries).reverse.find? (·.phoneNumber = phone)

/-- Calls of `put_lid_mapping`, one after another. -/
def putLidMappings (entries : List LidPnMappingEntry) : Sql Unit := forM entries putLidMapping

/-- The lookups give the latest entries, and agree with each other. -/
structure MappingsConsistent (entries : List LidPnMappingEntry) (s : SqliteSession) : Prop where
  lid : ∀ l r t, (getLidMapping l).Yields s r t → r = lastPut entries l
  phone : ∀ p r t, (getPnMapping p).Yields s r t → r = lastMapping entries p
  latest : ∀ e, entries.getLast? = some e →
    ∀ r t, (getPnMapping e.phoneNumber).Yields s r t → r = some e
  backward : ∀ p e t, (getPnMapping p).Yields s (some e) t →
    e.phoneNumber = p ∧ ∀ r u, (getLidMapping e.lid).Yields s r u → r = some e

/-! ## Lists -/

section Lists

variable {es : List LidPnMappingEntry} {e : LidPnMappingEntry}

theorem live_concat (es : List LidPnMappingEntry) (e : LidPnMappingEntry) :
    live (es ++ [e]) = (live es).filter (·.lid ≠ e.lid) ++ [e] := by
  induction es with
  | nil => rfl
  | cons d es ih =>
      rw [List.cons_append, live, live, ih]
      by_cases hd : d.lid = e.lid
      · cases es.any (·.lid = d.lid) <;> simp [hd]
      · cases h : es.any (·.lid = d.lid) <;> simp [h, hd, Ne.symm hd]

/-- No two live entries have one LID. -/
theorem live_nodup (es : List LidPnMappingEntry) : ((live es).map (·.lid)).Nodup := by
  induction es with
  | nil => exact List.nodup_nil
  | cons e es ih =>
      have hsub : ∀ {es d}, d ∈ live es → d ∈ es := by
        intro es
        induction es with
        | nil => simp [live]
        | cons c es ih =>
            intro d hd
            rw [live] at hd
            split at hd
            · exact List.mem_cons_of_mem _ (ih hd)
            · rcases List.mem_cons.mp hd with rfl | hd
              · exact List.mem_cons_self
              · exact List.mem_cons_of_mem _ (ih hd)
      rw [live]
      split
      · exact ih
      · next h =>
          refine List.nodup_cons.mpr ⟨?_, ih⟩
          simp only [List.mem_map, not_exists, not_and]
          intro d hd hlid
          exact h (List.any_eq_true.mpr ⟨d, hsub hd, by simpa using hlid⟩)

/-- The live entry of a LID is the last that was put for it. -/
theorem find_live (es : List LidPnMappingEntry) (l : String) :
    (live es).find? (·.lid = l) = lastPut es l := by
  simp only [lastPut]
  induction es using List.reverseRecOn with
  | nil => rfl
  | append_singleton es e ih =>
      rw [live_concat, List.reverse_append, List.reverse_singleton, List.singleton_append,
        List.find?_append]
      by_cases h : e.lid = l
      · have hnone : ((live es).filter (·.lid ≠ e.lid)).find? (·.lid = l) = none := by
          refine List.find?_eq_none.mpr fun d hd => ?_
          simpa [h] using (List.mem_filter.mp hd).2
        rw [hnone]
        simp [h]
      · have hsame : ((live es).filter (·.lid ≠ e.lid)).find? (·.lid = l) =
            (live es).find? (·.lid = l) := by
          rw [List.find?_filter]
          congr 1
          funext d
          by_cases hd : d.lid = l <;> simp [hd, Ne.symm h]
        rw [hsame, ih]
        simp [h]

/-- The element of a key. -/
theorem find_of_mem {α β : Type} [DecidableEq β] {f : α → β} {l : List α} {a : α}
    (hl : (l.map f).Nodup) (ha : a ∈ l) : l.find? (f · = f a) = some a := by
  obtain ⟨b, hb⟩ := Option.isSome_iff_exists.mp
    (List.find?_isSome.mpr ⟨a, ha, by simp⟩ : (l.find? (f · = f a)).isSome = true)
  have hf : f b = f a := by simpa using List.find?_some hb
  rw [hb, List.inj_on_of_nodup_map hl (List.mem_of_find?_eq_some hb) ha hf]

/-- There is no element of a key that does not occur. -/
theorem find_eq_none_iff {α β : Type} [DecidableEq β] {f : α → β} {l : List α} {b : β} :
    l.find? (f · = b) = none ↔ b ∉ l.map f := by
  simp only [List.find?_eq_none, List.mem_map, decide_eq_true_eq, not_exists, not_and]

/-- The first and the last element with each value of `f` are the same exactly if
`f` has no value twice. -/
theorem find_eq_find_reverse_iff {α β : Type} [DecidableEq β] {f : α → β} {l : List α}
    (hl : l.Nodup) :
    (∀ b, l.find? (f · = b) = l.reverse.find? (f · = b)) ↔ (l.map f).Nodup := by
  induction l with
  | nil => simp
  | cons a l ih =>
      obtain ⟨ha, hl⟩ := List.nodup_cons.mp hl
      have hcons : ∀ b, (a :: l).find? (f · = b) = if f a = b then some a else l.find? (f · = b) := by
        intro b
        rw [List.find?_cons]
        by_cases h : f a = b <;> simp [h]
      have hreverse : ∀ b, (a :: l).reverse.find? (f · = b) =
          (l.reverse.find? (f · = b)).or (if f a = b then some a else none) := by
        intro b
        rw [List.reverse_cons, List.find?_append, List.find?_singleton]
        by_cases h : f a = b <;> simp [h]
      simp only [hcons, hreverse, List.map_cons, List.nodup_cons, ← ih hl]
      constructor
      · intro h
        have hnot : f a ∉ l.map f := by
          intro hmem
          have hfirst := h (f a)
          rw [if_pos rfl] at hfirst
          cases hfind : l.reverse.find? (f · = f a) with
          | none => exact absurd hmem (by simpa using find_eq_none_iff.mp hfind)
          | some c =>
              rw [hfind] at hfirst
              cases hfirst
              exact ha (by simpa using List.mem_of_find?_eq_some hfind)
        refine ⟨hnot, fun b => ?_⟩
        by_cases hb : f a = b
        · subst hb
          rw [find_eq_none_iff.mpr hnot, find_eq_none_iff.mpr (by simpa using hnot)]
        · simpa [hb] using h b
      · rintro ⟨hnot, h⟩ b
        by_cases hb : f a = b
        · subst hb
          have hnone : l.reverse.find? (f · = f a) = none :=
            find_eq_none_iff.mpr (by simpa using hnot)
          simp [hnone]
        · simp [hb, h b]

end Lists

/-! ## The table -/

section Table

variable {entries : List LidPnMappingEntry} {s t : SqliteSession}

/-- What `put_lid_mapping` does to the session. -/
def putMapping (e : LidPnMappingEntry) (s : SqliteSession) : SqliteSession :=
  { s with
    lidMappings := s.lidMappings.insertOrReplace e.lid
      ⟨e.phoneNumber, e.createdAt, e.updatedAt, e.learningSource⟩ }

/-- The entries of the rows. -/
def mappings (s : SqliteSession) : List LidPnMappingEntry :=
  s.lidMappings.rows.map fun r => r.2.entry r.1

theorem mappings_putMapping (e : LidPnMappingEntry) (s : SqliteSession) :
    mappings (putMapping e s) = (mappings s).filter (·.lid ≠ e.lid) ++ [e] := by
  simp only [mappings, putMapping]
  rw [Table.rows_insertOrReplace, List.map_append, List.filter_map]
  have hrows : (s.lidMappings.delete e.lid).rows =
      s.lidMappings.rows.filter ((fun d => decide (d.lid ≠ e.lid)) ∘
        fun r => LidColumns.entry r.1 r.2) :=
    List.filter_congr fun r _ => by simp [LidColumns.entry]
  rw [hrows]
  rfl

/-- The table has the live entries, in the order they were put. -/
theorem mappings_of_puts (h : (putLidMappings entries).Yields .new () s) :
    mappings s = live entries := by
  have hfold : s = entries.foldl (fun s e => putMapping e s) .new := Program.Yields.forM h
  subst hfold
  clear h
  induction entries using List.reverseRecOn with
  | nil => rfl
  | append_singleton es e ih =>
      rw [List.foldl_append, List.foldl_cons, List.foldl_nil, mappings_putMapping, ih, live_concat]

theorem getLidMapping_yields {l : String} {r : Option LidPnMappingEntry} :
    (getLidMapping l).Yields s r t ↔ r = (mappings s).find? (·.lid = l) ∧ t = s := by
  have hfind : (s.lidMappings.lookup l).map (LidColumns.entry l) =
      (mappings s).find? (·.lid = l) := by
    simp only [Table.lookup, mappings]
    rw [List.find?_map, Option.map_map]
    have hcomp : (fun d : LidPnMappingEntry => decide (d.lid = l)) ∘
        (fun r : String × LidColumns => r.2.entry r.1) = fun r => decide (r.1 = l) := rfl
    rw [hcomp]
    cases hrow : s.lidMappings.rows.find? (fun r => decide (r.1 = l)) with
    | none => rfl
    | some r =>
        have hlid : r.1 = l := by simpa using List.find?_some hrow
        exact congrArg (fun l => some (r.2.entry l)) hlid.symm
  constructor
  · intro h
    obtain ⟨rfl, rfl⟩ := yields_prepare_query h
    exact ⟨hfind, rfl⟩
  · rintro ⟨rfl, rfl⟩
    exact ⟨[], [], by rw [← hfind]; rfl⟩

theorem getPnMapping_yields {p : String} {r : Option LidPnMappingEntry} :
    (getPnMapping p).Yields s r t ↔ r = (mappings s).find? (·.phoneNumber = p) ∧ t = s := by
  have hfind : (s.lidMappings.selectFirst fun _ r => r.phoneNumber = p).map
      (fun r => LidColumns.entry r.1 r.2) = (mappings s).find? (·.phoneNumber = p) := by
    simp only [Table.selectFirst, mappings]
    rw [List.find?_map]
    rfl
  constructor
  · intro h
    obtain ⟨rfl, rfl⟩ := yields_prepare_query h
    exact ⟨hfind, rfl⟩
  · rintro ⟨rfl, rfl⟩
    exact ⟨[], [], by rw [← hfind]; rfl⟩

/-- The lookups are consistent exactly if no two LIDs map to one phone number. -/
theorem lid_mappings_consistent_iff (entries : List LidPnMappingEntry) (s : SqliteSession)
    (h : (putLidMappings entries).Yields .new () s) :
    MappingsConsistent entries s ↔ ((live entries).map (·.phoneNumber)).Nodup := by
  have hrows : mappings s = live entries := mappings_of_puts h
  have hnodup : (live entries).Nodup := List.Nodup.of_map _ (live_nodup entries)
  rw [← find_eq_find_reverse_iff hnodup]
  constructor
  · intro hconsistent p
    exact hconsistent.phone p _ s (getPnMapping_yields.mpr ⟨by rw [hrows], rfl⟩)
  · intro hsame
    refine ⟨?_, ?_, ?_, ?_⟩
    · intro l r t hget
      rw [(getLidMapping_yields.mp hget).1, hrows, find_live]
    · intro p r t hget
      rw [(getPnMapping_yields.mp hget).1, hrows, hsame, lastMapping]
    · intro e hlast r t hget
      obtain ⟨es, rfl⟩ := List.getLast?_eq_some_iff.mp hlast
      rw [(getPnMapping_yields.mp hget).1, hrows, hsame, live_concat, List.reverse_append,
        List.reverse_singleton, List.singleton_append, List.find?_cons]
      simp
    · intro p e t hget
      have hfind := (getPnMapping_yields.mp hget).1.symm
      have hmem : e ∈ live entries := hrows ▸ List.mem_of_find?_eq_some hfind
      refine ⟨by simpa using List.find?_some hfind, fun r u hlid => ?_⟩
      rw [(getLidMapping_yields.mp hlid).1, hrows]
      exact find_of_mem (live_nodup entries) hmem

/-- An entry of the phone number 1. -/
def entryOf (lid : String) (time : Int) : LidPnMappingEntry := ⟨lid, "1", time, time, "usync"⟩

/-- A LID moves to another number and leaves the first one. -/
theorem lid_mappings_consistent_moved :
    ∃ s, (putLidMappings [entryOf "a" 0, ⟨"a", "2", 1, 1, "usync"⟩]).Yields .new () s ∧
      MappingsConsistent [entryOf "a" 0, ⟨"a", "2", 1, 1, "usync"⟩] s := by
  have h : (putLidMappings [entryOf "a" 0, ⟨"a", "2", 1, 1, "usync"⟩]).Yields .new () _ :=
    ⟨[], [], rfl⟩
  exact ⟨_, h, (lid_mappings_consistent_iff _ _ h).mpr (by decide)⟩

/-- A second LID is learned for a phone number, and the first one is found. -/
theorem second_lid_not_found :
    ¬ ∀ entries s, (putLidMappings entries).Yields .new () s → MappingsConsistent entries s := by
  intro hall
  have h : (putLidMappings [entryOf "a" 0, entryOf "b" 1]).Yields .new () _ := ⟨[], [], rfl⟩
  have hget := (hall _ _ h).latest (entryOf "b" 1) rfl (some (entryOf "a" 0)) _ ⟨[], [], rfl⟩
  exact absurd hget (by decide)

end Table

end Waepic.Session
