import Mathlib.Order.Basic
import Mathlib.Logic.Function.Basic

/-!
# Write-back caches

A cache over a backing store.  A write goes to the cache only and marks the entry
as dirty; the backing store gets it when the entry is written back, which a flush
does for every dirty entry.  A read finds the cached value, or else the stored
one, and caches it.  A restart empties the cache and leaves the backing store.

The values of a key are ordered, and a later value is larger.  While every value
put is at least the one before it, what a read finds and what the backing store
holds only grow (`Store.Grows`), except that a restart takes a read back to the
backing store.
-/

namespace WriteBack

structure Entry (ν : Type*) where
  value : ν
  dirty : Bool

structure Store (κ ν : Type*) where
  cache : κ → Option (Entry ν)
  backing : κ → Option ν

namespace Store

variable {κ ν : Type*} {s t u : Store κ ν} {j k : κ} {v w : ν}

/-- What a read finds. -/
def view (s : Store κ ν) (k : κ) : Option ν :=
  match s.cache k with
  | some e => some e.value
  | none => s.backing k

/-- Write every dirty entry to the backing store. -/
def flush (s : Store κ ν) : Store κ ν where
  cache k := (s.cache k).map fun e => { e with dirty := false }
  backing k :=
    match s.cache k with
    | some ⟨v, true⟩ => some v
    | _ => s.backing k

/-- Lose the cache. -/
def restart (s : Store κ ν) : Store κ ν := { s with cache := fun _ => none }

@[simp] theorem view_flush : s.flush.view k = s.view k := by
  unfold view flush
  cases hcache : s.cache k <;> simp [hcache]

section Operations

variable [DecidableEq κ]

/-- A write. -/
def put (s : Store κ ν) (k : κ) (v : ν) : Store κ ν :=
  { s with cache := Function.update s.cache k (some ⟨v, true⟩) }

/-- A read caches what it finds. -/
def load (s : Store κ ν) (k : κ) : Store κ ν :=
  match s.cache k with
  | some _ => s
  | none => { s with cache := Function.update s.cache k ((s.backing k).map (⟨·, false⟩)) }

/-- Write the entry of a key to the backing store. -/
def writeBack (s : Store κ ν) (k : κ) : Store κ ν :=
  match s.cache k with
  | some e =>
      { cache := Function.update s.cache k (some { e with dirty := false })
        backing := Function.update s.backing k (some e.value) }
  | none => s

theorem cache_put :
    (s.put k v).cache j = if j = k then some ⟨v, true⟩ else s.cache j := by
  by_cases h : j = k
  · subst h; simp [put]
  · simp [put, h]

theorem view_put : (s.put k v).view j = if j = k then some v else s.view j := by
  by_cases h : j = k
  · subst h; simp [view, put]
  · simp [view, put, h]

@[simp] theorem view_load : (s.load k).view j = s.view j := by
  simp only [load]
  cases hcache : s.cache k with
  | some e => rfl
  | none =>
      by_cases h : j = k
      · subst h
        cases hbacking : s.backing j <;> simp [view, hcache, hbacking]
      · simp [view, h]

@[simp] theorem backing_load : (s.load k).backing = s.backing := by
  simp only [load]
  cases s.cache k <;> rfl

@[simp] theorem view_writeBack : (s.writeBack k).view j = s.view j := by
  simp only [writeBack]
  cases hcache : s.cache k with
  | some e =>
      by_cases h : j = k
      · subst h; simp [view, hcache]
      · simp [view, h]
  | none => rfl

theorem view_foldl_writeBack (ks : List κ) : (ks.foldl writeBack s).view j = s.view j := by
  induction ks generalizing s with
  | nil => rfl
  | cons k ks ih => rw [List.foldl_cons, ih, view_writeBack]

theorem backing_writeBack :
    (s.writeBack k).backing j = if j = k then s.view j else s.backing j := by
  simp only [writeBack]
  cases hcache : s.cache k with
  | some e =>
      by_cases h : j = k
      · subst h; simp [view, hcache]
      · simp [h]
  | none =>
      by_cases h : j = k
      · subst h; simp [view, hcache]
      · simp [h]

end Operations

/-! ## Sound caches -/

variable [Preorder ν]

/-- There is a value, and it is at least `v`. -/
def AtLeast (v : ν) (o : Option ν) : Prop := ∃ w, o = some w ∧ v ≤ w

/-- A clean entry is what the backing store holds, and no entry is behind it. -/
structure Sound (s : Store κ ν) : Prop where
  clean : ∀ k e, s.cache k = some e → e.dirty = false → s.backing k = some e.value
  ahead : ∀ k v, s.backing k = some v → AtLeast v (s.view k)

/-- What a read finds and what the backing store holds grow from `s` to `t`. -/
structure Grows (s t : Store κ ν) : Prop where
  view : ∀ k v, AtLeast v (s.view k) → AtLeast v (t.view k)
  backing : ∀ k v, AtLeast v (s.backing k) → AtLeast v (t.backing k)

theorem Grows.refl (s : Store κ ν) : Grows s s := ⟨fun _ _ h => h, fun _ _ h => h⟩

theorem Grows.trans (h : Grows s t) (h' : Grows t u) : Grows s u :=
  ⟨fun k v hv => h'.view k v (h.view k v hv), fun k v hv => h'.backing k v (h.backing k v hv)⟩

/-- What the backing store holds is not ahead of what a read finds. -/
theorem Sound.atLeast_view (h : s.Sound) (hbacking : AtLeast v (s.backing k)) :
    AtLeast v (s.view k) := by
  obtain ⟨w, hw, hle⟩ := hbacking
  obtain ⟨u, hu, hwu⟩ := h.ahead k w hw
  exact ⟨u, hu, hle.trans hwu⟩

/-- An empty cache is sound. -/
theorem sound_of_empty (h : ∀ k, s.cache k = none) : s.Sound where
  clean k e hcache _ := by simp [h] at hcache
  ahead k v hbacking := ⟨v, by simp [view, h, hbacking], le_refl v⟩

theorem sound_restart : s.restart.Sound := sound_of_empty fun _ => rfl

/-- After a flush the backing store holds what a read finds. -/
theorem Sound.backing_flush (h : s.Sound) : s.flush.backing k = s.view k := by
  unfold view flush
  cases hcache : s.cache k with
  | none => simp [hcache]
  | some e =>
      obtain ⟨v, dirty⟩ := e
      cases dirty with
      | true => simp [hcache]
      | false => simp [hcache, h.clean k ⟨v, false⟩ hcache rfl]

theorem Sound.flush (h : s.Sound) : s.flush.Sound := by
  constructor
  · intro k e hcache _
    rw [h.backing_flush, ← view_flush, view, hcache]
  · intro k v hbacking
    rw [h.backing_flush] at hbacking
    rw [view_flush]
    exact ⟨v, hbacking, le_refl v⟩

theorem Sound.grows_flush (h : s.Sound) : Grows s s.flush where
  view _ _ hv := by rwa [view_flush]
  backing _ _ hv := by
    rw [h.backing_flush]
    exact h.atLeast_view hv

section Operations

variable [DecidableEq κ]

theorem Sound.put (h : s.Sound) (hle : ∀ w, s.view k = some w → w ≤ v) :
    (s.put k v).Sound := by
  constructor
  · intro j e hcache hclean
    rw [cache_put] at hcache
    split at hcache
    · cases hcache
      cases hclean
    · exact h.clean j e hcache hclean
  · intro j w hbacking
    obtain ⟨u, hu, hwu⟩ := h.ahead j w hbacking
    rw [view_put]
    split
    · next hj =>
        subst hj
        exact ⟨v, rfl, hwu.trans (hle u hu)⟩
    · exact ⟨u, hu, hwu⟩

theorem grows_put (hle : ∀ w, s.view k = some w → w ≤ v) : Grows s (s.put k v) where
  view j u := by
    rintro ⟨w, hw, huw⟩
    rw [view_put]
    split
    · next hj =>
        subst hj
        exact ⟨v, rfl, huw.trans (hle w hw)⟩
    · exact ⟨w, hw, huw⟩
  backing _ _ h := h

theorem Sound.load (h : s.Sound) : (s.load k).Sound := by
  constructor
  · intro j e hcache hclean
    rw [backing_load]
    simp only [Store.load] at hcache
    cases hk : s.cache k with
    | some e' =>
        rw [hk] at hcache
        exact h.clean j e hcache hclean
    | none =>
        rw [hk] at hcache
        by_cases hj : j = k
        · subst hj
          simp only [Function.update_self, Option.map_eq_some_iff] at hcache
          obtain ⟨w, hw, rfl⟩ := hcache
          exact hw
        · simp only [Function.update_of_ne hj] at hcache
          exact h.clean j e hcache hclean
  · intro j w hbacking
    rw [backing_load] at hbacking
    rw [view_load]
    exact h.ahead j w hbacking

theorem grows_load : Grows s (s.load k) where
  view _ _ h := by rwa [view_load]
  backing _ _ h := by rwa [backing_load]

theorem Sound.writeBack (h : s.Sound) : (s.writeBack k).Sound := by
  constructor
  · intro j e hcache hclean
    rw [backing_writeBack]
    by_cases hj : j = k
    · subst hj
      rw [if_pos rfl, ← view_writeBack (k := j), view, hcache]
    · rw [if_neg hj]
      refine h.clean j e ?_ hclean
      simp only [Store.writeBack] at hcache
      cases hk : s.cache k with
      | some e' => simpa [hk, hj] using hcache
      | none => simpa [hk] using hcache
  · intro j w hbacking
    rw [view_writeBack]
    rw [backing_writeBack] at hbacking
    split at hbacking
    · exact ⟨w, hbacking, le_refl w⟩
    · exact h.ahead j w hbacking

theorem Sound.grows_writeBack (h : s.Sound) : Grows s (s.writeBack k) where
  view _ _ hv := by rwa [view_writeBack]
  backing j v hv := by
    rw [backing_writeBack]
    split
    · exact h.atLeast_view hv
    · exact hv

/-- Write several entries back. -/
theorem Sound.foldl_writeBack (h : s.Sound) (ks : List κ) :
    (ks.foldl Store.writeBack s).Sound ∧ Grows s (ks.foldl Store.writeBack s) := by
  induction ks generalizing s with
  | nil => exact ⟨h, .refl s⟩
  | cons k ks ih =>
      obtain ⟨hsound, hgrows⟩ := ih (h.writeBack (k := k))
      exact ⟨hsound, h.grows_writeBack.trans hgrows⟩

end Operations

end Store

end WriteBack
