import Mathlib.Data.List.Nodup
import Mathlib.Data.List.Sort
import Mathlib.Data.Option.Basic
import Mathlib.Logic.Function.Basic

/-!
# Keyed tables

A table is a list of rows with distinct keys, in the order of their row ids.
`insertOrReplace` deletes the row of the key, if there is one, and appends the
new row, whose row id is the largest; where the key is the row id itself the new
row stands where the key puts it (`insertOrReplaceById`).

Since keys are distinct, a table is determined for lookups by its rows as a set
(`lookup_eq_some`), and each operation is an update of the lookup function.  A
table represents a map if every lookup gives a row for the value of the map
(`Represents`), for a relation between rows and values that encodings define.
-/

namespace Tables

/-- Rows with distinct keys. -/
structure Table (κ ν : Type*) where
  /-- The rows, in the order of their row ids. -/
  rows : List (κ × ν)
  unique : (rows.map Prod.fst).Nodup

namespace Table

variable {κ ν : Type*}

/-! ## Operations -/

def empty : Table κ ν where
  rows := []
  unique := List.nodup_nil

/-- `DELETE ... WHERE p`. -/
def deleteWhere (t : Table κ ν) (p : κ → ν → Bool) : Table κ ν where
  rows := t.rows.filter fun r => !p r.1 r.2
  unique := t.unique.sublist (List.filter_sublist.map _)

/-- The rows with `p`. -/
def select (t : Table κ ν) (p : κ → ν → Bool) : List (κ × ν) := t.rows.filter fun r => p r.1 r.2

/-- The rows with `p`, read from an index that sorts them by `f`. -/
def selectBy {ω : Type*} [LE ω] [DecidableLE ω] (t : Table κ ν) (p : κ → ν → Bool) (f : κ → ω) :
    List (κ × ν) :=
  (t.select p).insertionSort fun r r' => f r.1 ≤ f r'.1

/-- An index changes the order only. -/
theorem selectBy_perm {ω : Type*} [LE ω] [DecidableLE ω] (t : Table κ ν) (p : κ → ν → Bool)
    (f : κ → ω) : (t.selectBy p f).Perm (t.select p) :=
  List.perm_insertionSort ..

/-- The first row with `p`. -/
def selectFirst (t : Table κ ν) (p : κ → ν → Bool) : Option (κ × ν) :=
  t.rows.find? fun r => p r.1 r.2

/-- `UPDATE ... WHERE key = k`. -/
def update [DecidableEq κ] (t : Table κ ν) (k : κ) (f : ν → ν) : Table κ ν where
  rows := t.rows.map fun r => if r.1 = k then (r.1, f r.2) else r
  unique := by
    have hkeys : (t.rows.map fun r => if r.1 = k then (r.1, f r.2) else r).map Prod.fst =
        t.rows.map Prod.fst := by
      rw [List.map_map]
      refine List.map_congr_left fun r _ => ?_
      simp only [Function.comp_apply]
      split <;> rfl
    rw [hkeys]
    exact t.unique

section Keys

variable [DecidableEq κ] {t : Table κ ν} {j k : κ} {v w : ν}

/-- The row of a key. -/
def lookup (t : Table κ ν) (k : κ) : Option ν := (t.rows.find? fun r => r.1 = k).map Prod.snd

/-- `DELETE ... WHERE key = k`. -/
def delete (t : Table κ ν) (k : κ) : Table κ ν := t.deleteWhere fun j _ => j = k

/-- A row that replaces the one of its key, after the other rows with `before`. -/
def insertAt (t : Table κ ν) (before : κ → Bool) (k : κ) (v : ν) : Table κ ν where
  rows := ((t.delete k).rows.filter fun r => before r.1) ++
    (k, v) :: (t.delete k).rows.filter fun r => !before r.1
  unique := by
    have hperm : (((t.delete k).rows.filter fun r => before r.1) ++
        (k, v) :: (t.delete k).rows.filter fun r => !before r.1).Perm
          ((k, v) :: (t.delete k).rows) :=
      List.perm_middle.trans (.cons _ (List.filter_append_perm _ _))
    refine ((hperm.map Prod.fst).nodup_iff).mpr (List.nodup_cons.mpr ⟨?_, (t.delete k).unique⟩)
    simp [delete, deleteWhere]

/-- `INSERT OR REPLACE`. -/
def insertOrReplace (t : Table κ ν) (k : κ) (v : ν) : Table κ ν := t.insertAt (fun _ => true) k v

/-- `INSERT OR REPLACE` by an `INTEGER PRIMARY KEY`. -/
def insertOrReplaceById [LT κ] [DecidableLT κ] (t : Table κ ν) (k : κ) (v : ν) : Table κ ν :=
  t.insertAt (· < k) k v

/-- `MAX` of the keys. -/
def maxKey [Max κ] (t : Table κ ν) : Option κ := (t.rows.map Prod.fst).max?

/-! ## Lookups -/

/-- A lookup finds the one row of the key. -/
theorem lookup_eq_some : t.lookup k = some v ↔ (k, v) ∈ t.rows := by
  obtain ⟨rows, unique⟩ := t
  unfold lookup
  induction rows with
  | nil => simp
  | cons r rows ih =>
      obtain ⟨hnew, hrows⟩ := List.nodup_cons.mp unique
      obtain ⟨i, u⟩ := r
      rw [List.find?_cons]
      by_cases hi : i = k
      · subst hi
        have hnot : (i, v) ∉ rows := fun h => hnew (List.mem_map.mpr ⟨_, h, rfl⟩)
        simp [hnot, eq_comm]
      · simp [hi, Ne.symm hi, ih hrows]

theorem lookup_eq_none : t.lookup k = none ↔ ∀ v, (k, v) ∉ t.rows := by
  simp only [← lookup_eq_some, Option.eq_none_iff_forall_ne_some]

/-- Tables with the same rows for a key have the same lookup. -/
theorem lookup_congr {t' : Table κ ν} {o : Option ν} (h : ∀ v, (k, v) ∈ t'.rows ↔ o = some v) :
    t'.lookup k = o :=
  Option.ext fun v => lookup_eq_some.trans (h v)

theorem lookup_deleteWhere (p : κ → ν → Bool) :
    (t.deleteWhere p).lookup k = (t.lookup k).filter fun v => !p k v := by
  refine lookup_congr fun v => ?_
  simp [deleteWhere, Option.filter_eq_some_iff, lookup_eq_some]

@[simp] theorem lookup_delete : (t.delete k).lookup = Function.update t.lookup k none := by
  funext j
  rw [delete, lookup_deleteWhere]
  by_cases h : j = k
  · subst h
    cases t.lookup j <;> simp
  · cases hj : t.lookup j <;> simp [h, hj]

theorem mem_insertAt {before : κ → Bool} :
    (j, w) ∈ (t.insertAt before k v).rows ↔
      (j = k ∧ w = v) ∨ (j ≠ k ∧ (j, w) ∈ t.rows) := by
  simp only [insertAt, delete, deleteWhere, List.mem_append, List.mem_cons, List.mem_filter,
    Prod.mk.injEq]
  by_cases h : j = k <;> cases before j <;> simp [h]

@[simp] theorem lookup_insertAt {before : κ → Bool} :
    (t.insertAt before k v).lookup = Function.update t.lookup k (some v) := by
  funext j
  refine lookup_congr fun w => ?_
  rw [mem_insertAt]
  by_cases h : j = k
  · simp [h, eq_comm]
  · simp [h, lookup_eq_some]

@[simp] theorem lookup_insertOrReplace :
    (t.insertOrReplace k v).lookup = Function.update t.lookup k (some v) :=
  lookup_insertAt

@[simp] theorem lookup_insertOrReplaceById [LT κ] [DecidableLT κ] :
    (t.insertOrReplaceById k v).lookup = Function.update t.lookup k (some v) :=
  lookup_insertAt

@[simp] theorem lookup_update (f : ν → ν) :
    (t.update k f).lookup = Function.update t.lookup k ((t.lookup k).map f) := by
  funext j
  refine lookup_congr fun w => ?_
  have hmem : (j, w) ∈ (t.update k f).rows ↔
      ∃ v, (j, v) ∈ t.rows ∧ w = if j = k then f v else v := by
    simp only [update, List.mem_map, Prod.exists]
    constructor
    · rintro ⟨i, v, hrow, heq⟩
      split at heq <;> cases heq
      · next h => exact ⟨v, hrow, by rw [if_pos h]⟩
      · next h => exact ⟨w, hrow, by rw [if_neg h]⟩
    · rintro ⟨v, hrow, rfl⟩
      exact ⟨j, v, hrow, by split <;> rfl⟩
  rw [hmem]
  by_cases h : j = k
  · subst h
    rw [Function.update_self, Option.map_eq_some_iff]
    refine exists_congr fun v => and_congr lookup_eq_some.symm ?_
    rw [if_pos rfl, eq_comm]
  · simp [h, lookup_eq_some]

/-- The new row is the last one. -/
theorem rows_insertOrReplace :
    (t.insertOrReplace k v).rows = (t.delete k).rows ++ [(k, v)] := by
  simp [insertOrReplace, insertAt]

/-- The largest key, if there are rows. -/
theorem maxKey_eq_some [LE κ] [Max κ] [Std.IsLinearOrder κ] [Std.LawfulOrderMax κ] :
    t.maxKey = some k ↔
    (∃ v, t.lookup k = some v) ∧ ∀ j v, t.lookup j = some v → j ≤ k := by
  simp only [maxKey, List.max?_eq_some_iff, lookup_eq_some, List.mem_map, Prod.exists,
    exists_and_right, exists_eq_right, forall_exists_index]

/-- The largest key depends on which keys have rows. -/
theorem maxKey_congr [LE κ] [Max κ] [Std.IsLinearOrder κ] [Std.LawfulOrderMax κ]
    {ρ : Type*} {u : Table κ ρ} (h : ∀ k, (t.lookup k).isSome = (u.lookup k).isSome) :
    t.maxKey = u.maxKey := by
  have hrow : ∀ k, (∃ v, t.lookup k = some v) ↔ ∃ w, u.lookup k = some w := by
    intro k
    rw [← Option.isSome_iff_exists, ← Option.isSome_iff_exists, h]
  refine Option.ext fun k => ?_
  rw [maxKey_eq_some, maxKey_eq_some, hrow]
  refine and_congr_right fun _ => forall_congr' fun j => ?_
  rw [← exists_imp, ← exists_imp, hrow]

theorem maxKey_eq_none [Max κ] : t.maxKey = none ↔ ∀ j, t.lookup j = none := by
  rw [maxKey, List.max?_eq_none_iff, List.map_eq_nil_iff]
  simp only [lookup_eq_none, List.eq_nil_iff_forall_not_mem, Prod.forall]

/-! ## Loops of writes -/

section Loops

variable {β γ : Type*} {key : β → κ} {val : β → ν} {p : β → κ → Bool}

/-- The last element of a key. -/
def lastOf (key : β → κ) (es : List β) (k : κ) : Option β := es.reverse.find? fun e => key e = k

/-- A key has the value that was written to it last, or the one it had. -/
theorem lookup_foldl_insertOrReplace (t : Table κ ν) (es : List β) (k : κ) :
    (es.foldl (fun t e => t.insertOrReplace (key e) (val e)) t).lookup k =
      ((lastOf key es k).map val).or (t.lookup k) := by
  induction es generalizing t with
  | nil => rfl
  | cons e es ih =>
      rw [List.foldl_cons, ih, lookup_insertOrReplace, lastOf, lastOf, List.reverse_cons,
        List.find?_append]
      by_cases hk : key e = k
      · subst hk
        cases es.reverse.find? (fun d => key d = key e) <;> simp
      · cases es.reverse.find? (fun d => key d = k) <;> simp [hk, Ne.symm hk]

/-- A key keeps its value unless one of the deletions is for it. -/
theorem lookup_foldl_deleteWhere (t : Table κ ν) (es : List β) (k : κ) :
    (es.foldl (fun t e => t.deleteWhere fun k _ => p e k) t).lookup k =
      if es.any (p · k) then none else t.lookup k := by
  induction es generalizing t with
  | nil => rfl
  | cons e es ih =>
      rw [List.foldl_cons, ih, lookup_deleteWhere, List.any_cons]
      cases p e k <;> cases t.lookup k <;> simp [Option.filter_some]

/-- What a column shows of the rows is what the writes last wrote. -/
def ShowsWrites (key : β → κ) (val : β → ν) (see : ν → γ) (es : List β) (t : Table κ ν) : Prop :=
  ∀ k e, lastOf key es k = some e → (t.lookup k).map see = some (see (val e))

/-- There are no rows of the deletions. -/
def ShowsDeletes (p : β → κ → Bool) (es : List β) (t : Table κ ν) : Prop :=
  ∀ e ∈ es, ∀ k, p e k = true → t.lookup k = none

/-- Writes change nothing that is seen if and only if it was seen before. -/
theorem showsWrites_iff {see : ν → γ} {es : List β} :
    (∀ k, (t.lookup k).map see =
      ((es.foldl (fun t e => t.insertOrReplace (key e) (val e)) t).lookup k).map see) ↔
      ShowsWrites key val see es t := by
  refine forall_congr' fun k => ?_
  rw [lookup_foldl_insertOrReplace]
  cases lastOf key es k with
  | none => simp
  | some e => simp

theorem showsWrites_foldl (see : ν → γ) (es : List β) (t : Table κ ν) :
    ShowsWrites key val see es
      (es.foldl (fun t e => t.insertOrReplace (key e) (val e)) t) := by
  intro k e he
  rw [lookup_foldl_insertOrReplace, he]
  rfl

/-- Deletions change nothing that is seen if and only if they found no row. -/
theorem showsDeletes_iff {see : ν → γ} {es : List β} :
    (∀ k, (t.lookup k).map see =
      ((es.foldl (fun t e => t.deleteWhere fun k _ => p e k) t).lookup k).map see) ↔
      ShowsDeletes p es t := by
  constructor
  · intro h e he k hp
    have hany : es.any (p · k) = true := List.any_eq_true.mpr ⟨e, he, hp⟩
    have hk := h k
    rw [lookup_foldl_deleteWhere, if_pos hany, Option.map_none] at hk
    exact Option.map_eq_none_iff.mp hk
  · intro h k
    rw [lookup_foldl_deleteWhere]
    split
    · next hany =>
        obtain ⟨e, he, hp⟩ := List.any_eq_true.mp hany
        rw [h e he k hp]
    · rfl

/-- Updates of a column that is not seen. -/
theorem map_lookup_foldl_update {see : ν → γ} {f : ν → ν} (hf : ∀ v, see (f v) = see v)
    (t : Table κ ν) (ks : List κ) (j : κ) :
    ((ks.foldl (fun t k => t.update k f) t).lookup j).map see = (t.lookup j).map see := by
  induction ks generalizing t with
  | nil => rfl
  | cons k ks ih =>
      rw [List.foldl_cons, ih, lookup_update]
      by_cases hj : j = k
      · subst hj
        rw [Function.update_self, Option.map_map]
        exact congrArg (Option.map · _) (funext hf)
      · rw [Function.update_of_ne hj]

theorem showsDeletes_foldl (es : List β) (t : Table κ ν) :
    ShowsDeletes p es (es.foldl (fun t e => t.deleteWhere fun k _ => p e k) t) := by
  intro e he k hp
  rw [lookup_foldl_deleteWhere, if_pos (List.any_eq_true.mpr ⟨e, he, hp⟩)]

end Loops

end Keys

/-! ## Tables that represent maps -/

section Represents

variable [DecidableEq κ] {ρ : Type*} {R : κ → ρ → ν → Prop} {t : Table κ ρ} {m : κ → Option ν}
  {k : κ} {r : ρ} {v : ν}

/-- The table has for each key a row for what the map has. -/
def Represents (R : κ → ρ → ν → Prop) (t : Table κ ρ) (m : κ → Option ν) : Prop :=
  ∀ k, Option.Rel (R k) (t.lookup k) (m k)

theorem represents_empty : Represents R (empty : Table κ ρ) fun _ => none :=
  fun _ => .none

/-- A row of the table is one for the value of the map. -/
theorem Represents.of_row (h : Represents R t m) (hrow : t.lookup k = some r) :
    ∃ v, m k = some v ∧ R k r v := by
  have hk := h k
  rw [hrow] at hk
  cases hm : m k with
  | none => rw [hm] at hk; cases hk
  | some v =>
      rw [hm] at hk
      cases hk with
      | some hR => exact ⟨v, rfl, hR⟩

theorem Represents.of_none (h : Represents R t m) (hrow : t.lookup k = none) : m k = none := by
  have hk := h k
  rw [hrow] at hk
  cases hm : m k with
  | none => rfl
  | some v => rw [hm] at hk; cases hk

theorem Represents.eq_none_iff (h : Represents R t m) : m k = none ↔ t.lookup k = none := by
  constructor
  · intro hm
    cases hrow : t.lookup k with
    | none => rfl
    | some r =>
        obtain ⟨v, hv, -⟩ := h.of_row hrow
        rw [hm] at hv
        cases hv
  · exact h.of_none

/-- What is done to the row of one key and to the map at that key. -/
theorem Represents.update {t' : Table κ ρ} {o : Option ρ} {o' : Option ν} (h : Represents R t m)
    (hlookup : t'.lookup = Function.update t.lookup k o) (hrel : Option.Rel (R k) o o') :
    Represents R t' (Function.update m k o') := by
  intro j
  rw [hlookup]
  by_cases hj : j = k
  · subst hj
    rw [Function.update_self, Function.update_self]
    exact hrel
  · rw [Function.update_of_ne hj, Function.update_of_ne hj]
    exact h j

theorem Represents.insertOrReplace (h : Represents R t m) (hR : R k r v) :
    Represents R (t.insertOrReplace k r) (Function.update m k (some v)) :=
  h.update lookup_insertOrReplace (.some hR)

theorem Represents.insertOrReplaceById [LT κ] [DecidableLT κ] (h : Represents R t m)
    (hR : R k r v) : Represents R (t.insertOrReplaceById k r) (Function.update m k (some v)) :=
  h.update lookup_insertOrReplaceById (.some hR)

theorem Represents.delete (h : Represents R t m) :
    Represents R (t.delete k) (Function.update m k none) :=
  h.update lookup_delete .none

/-- What a column holds for the value of a key. -/
theorem Represents.map_lookup {α : Type*} {f : ρ → α} {g : ν → α} (h : Represents R t m)
    (hfg : ∀ r v, R k r v → f r = g v) : (t.lookup k).map f = (m k).map g := by
  cases hrow : t.lookup k with
  | none => rw [h.of_none hrow]; rfl
  | some r =>
      obtain ⟨v, hv, hR⟩ := h.of_row hrow
      rw [hv, Option.map_some, Option.map_some, hfg r v hR]

/-- A write to a column that no value shows. -/
theorem Represents.unseen {f : ρ → ρ} (h : Represents R t m) (hf : ∀ r v, R k r v → R k (f r) v) :
    Represents R (t.update k f) m := by
  rw [← Function.update_eq_self k m]
  refine h.update (lookup_update f) ?_
  cases hrow : t.lookup k with
  | none => rw [h.of_none hrow]; exact .none
  | some r =>
      obtain ⟨v, hv, hR⟩ := h.of_row hrow
      rw [hv]
      exact .some (hf r v hR)

/-- The values of a table whose rows are the values. -/
theorem Represents.lookup_eq {m : κ → Option ρ} (h : Represents (fun _ => Eq) t m) :
    t.lookup k = m k := by
  simpa using h.map_lookup (k := k) (f := id) (g := id) fun _ _ heq => heq

/-- Deleting the rows of the keys with `p`. -/
theorem Represents.deleteKeys {p : κ → Prop} [DecidablePred p] (h : Represents R t m) :
    Represents R (t.deleteWhere fun k _ => p k) fun k => if p k then none else m k := by
  intro k
  dsimp only
  rw [lookup_deleteWhere]
  by_cases hp : p k
  · rw [if_pos hp]
    cases t.lookup k <;> simp [hp]
  · have hkeep : (t.lookup k).filter (fun _ => !decide (p k)) = t.lookup k := by
      cases t.lookup k <;> simp [hp]
    rw [if_neg hp, hkeep]
    exact h k

/-- Deleting all rows. -/
theorem Represents.clear (h : Represents R t m) :
    Represents R (t.deleteWhere fun _ _ => true) fun _ => none := by
  simpa using h.deleteKeys (p := fun _ => True)

/-- Deleting the rows with `p` deletes the values with `q`. -/
theorem Represents.deleteWhere {p : κ → ρ → Bool} {q : κ → ν → Bool} (h : Represents R t m)
    (hpq : ∀ k r v, R k r v → p k r = q k v) :
    Represents R (t.deleteWhere p) fun k => (m k).filter fun v => !q k v := by
  intro k
  dsimp only
  rw [lookup_deleteWhere]
  cases hrow : t.lookup k with
  | none => rw [h.of_none hrow]; exact .none
  | some r =>
      obtain ⟨v, hv, hR⟩ := h.of_row hrow
      rw [hv, Option.filter_some, Option.filter_some, hpq k r v hR]
      split
      · exact .some hR
      · exact .none

end Represents

end Table

end Tables
