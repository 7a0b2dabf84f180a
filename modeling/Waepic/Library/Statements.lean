import Mathlib.Order.Defs.Unbundled

/-!
# Programs of statements that may fail

A program runs statements on a store, one at a time.  A statement fails by the
outcome that the environment has for it, or by its own check; it then leaves the
store as it is, and the program stops with the error.  What the statements
before it did stays.

`x.Yields s a t` says that `x` may return `a` and take the store from `s` to
`t`.  Its rules take a program apart.  `x.Keeps R` says that the store at any end
of `x`, also at an error, is related to the one at the start; its rules put it
together.  `x.SameResult s t` says that `x` does not tell the stores `s` and `t`
apart.

A loop of writes runs them all, or those before the first that fails
(`forM_run`).
-/

namespace Statements

/-- A store, and how the statements to come end; one without an entry succeeds. -/
structure Machine (ε σ : Type) where
  store : σ
  outcomes : List (Option ε)

abbrev Program (ε σ : Type) := ExceptT ε (StateM (Machine ε σ))

variable {ε σ α β : Type}

/-- A statement. -/
def statement (f : σ → Except ε (α × σ)) : Program ε σ α := fun m =>
  match m.outcomes.head?.join with
  | some e => (.error e, { m with outcomes := m.outcomes.tail })
  | none =>
      match f m.store with
      | .error e => (.error e, { m with outcomes := m.outcomes.tail })
      | .ok (a, s) => (.ok a, ⟨s, m.outcomes.tail⟩)

/-- A statement that reads. -/
def query (f : σ → α) : Program ε σ α := statement fun s => .ok (f s, s)

/-- A statement whose error is ignored. -/
def queryOk (f : σ → α) : Program ε σ (Option α) := fun m =>
  match (query f : Program ε σ α) m with
  | (.ok a, m) => (.ok (some a), m)
  | (.error _, m) => (.ok none, m)

/-- A statement that writes. -/
def execute (f : σ → σ) : Program ε σ Unit := statement fun s => .ok ((), f s)

theorem query_run (g : σ → α) (s : σ) (outcomes : List (Option ε)) :
    (query g : Program ε σ α) ⟨s, outcomes⟩ =
      match outcomes.head?.join with
      | some e => (.error e, ⟨s, outcomes.tail⟩)
      | none => (.ok (g s), ⟨s, outcomes.tail⟩) := rfl

theorem execute_run (g : σ → σ) (s : σ) (outcomes : List (Option ε)) :
    (execute g : Program ε σ Unit) ⟨s, outcomes⟩ =
      match outcomes.head?.join with
      | some e => (.error e, ⟨s, outcomes.tail⟩)
      | none => (.ok (), ⟨g s, outcomes.tail⟩) := rfl

namespace Program

/-- The program may end with `r` and leave the store `t`. -/
def Ends (x : Program ε σ α) (s : σ) (r : Except ε α) (t : σ) : Prop :=
  ∃ outcomes outcomes', x ⟨s, outcomes⟩ = (r, ⟨t, outcomes'⟩)

/-- The program may return `a` and leave the store `t`. -/
def Yields (x : Program ε σ α) (s : σ) (a : α) (t : σ) : Prop := x.Ends s (.ok a) t

section Rules

variable {s t u : σ} {a : α} {b : β} {r : Except ε β} {x : Program ε σ α}
  {f : α → Program ε σ β}

/-- The second part runs on what the first part leaves, unless that fails. -/
theorem bind_run (x : Program ε σ α) (f : α → Program ε σ β) (m : Machine ε σ) :
    (x >>= f) m =
      match x m with
      | (.ok a, m) => f a m
      | (.error e, m) => (.error e, m) := by
  show ExceptT.bindCont f (x m).1 (x m).2 = _
  rcases x m with ⟨_ | _, m'⟩ <;> rfl

/-- A sequence ends where its first part fails, or where its second part ends. -/
theorem Ends.bind (h : (x >>= f).Ends s r u) :
    (∃ e, x.Ends s (.error e) u ∧ r = .error e) ∨ ∃ a t, x.Yields s a t ∧ (f a).Ends t r u := by
  obtain ⟨outcomes, outcomes', h⟩ := h
  rw [bind_run] at h
  rcases hx : x ⟨s, outcomes⟩ with ⟨e | a, m⟩
  · rw [hx] at h
    cases h
    exact .inl ⟨e, ⟨outcomes, outcomes', hx⟩, rfl⟩
  · rw [hx] at h
    exact .inr ⟨a, m.store, ⟨outcomes, m.outcomes, hx⟩, m.outcomes, outcomes', h⟩

theorem Yields.bind (h : (x >>= f).Yields s b u) : ∃ a t, x.Yields s a t ∧ (f a).Yields t b u := by
  rcases Ends.bind (r := .ok b) h with ⟨e, -, hr⟩ | hrest
  · cases hr
  · exact hrest

theorem Yields.pure {a' : α} (h : (Pure.pure a : Program ε σ α).Yields s a' t) :
    a' = a ∧ t = s := by
  obtain ⟨outcomes, outcomes', h⟩ := h
  cases h
  exact ⟨rfl, rfl⟩

theorem Yields.throw {e : ε} (h : (throw e : Program ε σ α).Yields s a t) : False := by
  obtain ⟨outcomes, outcomes', h⟩ := h
  cases h

theorem Yields.statement {g : σ → Except ε (α × σ)} (h : (statement g).Yields s a t) :
    g s = .ok (a, t) := by
  obtain ⟨outcomes, outcomes', h⟩ := h
  simp only [Statements.statement] at h
  split at h
  · cases h
  · split at h
    · cases h
    · next hg =>
        cases h
        exact hg

theorem Yields.query {g : σ → α} (h : (query g : Program ε σ α).Yields s a t) :
    a = g s ∧ t = s := by
  cases h.statement
  exact ⟨rfl, rfl⟩

theorem Yields.queryOk {g : σ → α} {o : Option α}
    (h : (queryOk g : Program ε σ (Option α)).Yields s o t) :
    (o = some (g s) ∨ o = none) ∧ t = s := by
  obtain ⟨outcomes, outcomes', h⟩ := h
  simp only [Statements.queryOk] at h
  rw [query_run] at h
  cases hhead : outcomes.head?.join with
  | none =>
      rw [hhead] at h
      cases h
      exact ⟨.inl rfl, rfl⟩
  | some e =>
      rw [hhead] at h
      cases h
      exact ⟨.inr rfl, rfl⟩

theorem Yields.execute {g : σ → σ} {r : Unit} (h : (execute g : Program ε σ Unit).Yields s r t) :
    t = g s := by
  cases h.statement
  rfl

/-- A loop of writes. -/
theorem Yields.forM {g : α → σ → σ} {as : List α} {r : Unit}
    (h : (forM as fun a => (Statements.execute (g a) : Program ε σ Unit)).Yields s r t) :
    t = as.foldl (fun s a => g a s) s := by
  induction as generalizing s with
  | nil => exact (Yields.pure h).2
  | cons a as ih =>
      rw [List.forM_cons] at h
      obtain ⟨_, s', hfirst, hrest⟩ := h.bind
      rw [List.foldl_cons, ← hfirst.execute]
      exact ih hrest

/-- A statement that fails leaves the store. -/
theorem Ends.statement {g : σ → Except ε (α × σ)} {e : ε}
    (h : (statement g).Ends s (.error e) t) : t = s := by
  obtain ⟨outcomes, outcomes', h⟩ := h
  simp only [Statements.statement] at h
  split at h
  · cases h
    rfl
  · split at h <;> cases h
    rfl

theorem Ends.pure {r : Except ε α} (h : (Pure.pure a : Program ε σ α).Ends s r t) :
    r = .ok a ∧ t = s := by
  obtain ⟨outcomes, outcomes', h⟩ := h
  cases h
  exact ⟨rfl, rfl⟩

theorem Ends.queryOk {g : σ → α} {e : ε}
    (h : (queryOk g : Program ε σ (Option α)).Ends s (.error e) t) : False := by
  obtain ⟨outcomes, outcomes', h⟩ := h
  simp only [Statements.queryOk] at h
  split at h <;> cases h

/-- A write that fails leaves the store. -/
theorem Ends.execute {g : σ → σ} {r : Except ε Unit}
    (h : (execute g : Program ε σ Unit).Ends s r t) :
    (∃ e, r = .error e) ∧ t = s ∨ r = .ok () ∧ t = g s := by
  obtain ⟨outcomes, outcomes', h⟩ := h
  simp only [Statements.execute, Statements.statement] at h
  split at h <;> cases h
  · exact .inl ⟨⟨_, rfl⟩, rfl⟩
  · exact .inr ⟨rfl, rfl⟩

end Rules

/-! ## What every end keeps -/

/-- However the program ends, it takes a store to a related one. -/
def Keeps (R : σ → σ → Prop) (x : Program ε σ α) : Prop := ∀ s r t, x.Ends s r t → R s t

namespace Keeps

variable {R : σ → σ → Prop} {x : Program ε σ α} {f : α → Program ε σ β}

theorem bind [IsTrans σ R] (hx : Keeps R x) (hf : ∀ a, Keeps R (f a)) : Keeps R (x >>= f) := by
  intro s r u h
  rcases h.bind with ⟨e, herror, -⟩ | ⟨a, t, hyields, hrest⟩
  · exact hx s _ u herror
  · exact trans_of R (hx s _ t hyields) (hf a t r u hrest)

theorem statement [Std.Refl R] {g : σ → Except ε (α × σ)}
    (hg : ∀ s a t, g s = .ok (a, t) → R s t) : Keeps R (statement g) := by
  rintro s r t ⟨outcomes, outcomes', h⟩
  simp only [Statements.statement] at h
  split at h
  · cases h
    exact refl_of R _
  · split at h
    · cases h
      exact refl_of R _
    · next hstep =>
        cases h
        exact hg _ _ _ hstep

theorem pure [Std.Refl R] (a : α) : Keeps R (Pure.pure a : Program ε σ α) := by
  rintro s r t ⟨outcomes, outcomes', h⟩
  cases h
  exact refl_of R _

theorem throw [Std.Refl R] (e : ε) : Keeps R (throw e : Program ε σ α) := by
  rintro s r t ⟨outcomes, outcomes', h⟩
  cases h
  exact refl_of R _

theorem query [Std.Refl R] (g : σ → α) : Keeps R (query g : Program ε σ α) :=
  statement fun _ _ _ h => by cases h; exact refl_of R _

theorem execute [Std.Refl R] {g : σ → σ} (hg : ∀ s, R s (g s)) :
    Keeps R (execute g : Program ε σ Unit) :=
  statement fun s _ _ h => by cases h; exact hg s

/-- A loop of writes. -/
theorem forM [Std.Refl R] [IsTrans σ R] {g : α → σ → σ} (hg : ∀ a s, R s (g a s)) (as : List α) :
    Keeps R (forM as fun a => (Statements.execute (g a) : Program ε σ Unit)) := by
  induction as with
  | nil => exact pure ()
  | cons a as ih =>
      rw [List.forM_cons]
      exact (execute (hg a)).bind fun _ => ih

end Keeps

/-! ## Stores that a program does not tell apart -/

/-- However the statements end, the program has the same result on both stores. -/
def SameResult (x : Program ε σ α) (s t : σ) : Prop :=
  ∀ outcomes, (x ⟨s, outcomes⟩).1 = (x ⟨t, outcomes⟩).1

namespace SameResult

variable {s t : σ} {g : σ → α} {f : α → Program ε σ β}

theorem pure (a : α) : SameResult (Pure.pure a : Program ε σ α) s t := fun _ => rfl

theorem throw (e : ε) : SameResult (throw e : Program ε σ α) s t := fun _ => rfl

theorem query (h : g s = g t) : SameResult (query g : Program ε σ α) s t := by
  intro outcomes
  rw [query_run, query_run]
  cases outcomes.head?.join with
  | none => exact congrArg Except.ok h
  | some e => rfl

/-- What is made of a row that is the same in both stores. -/
theorem query_bind (h : g s = g t) (hf : SameResult (f (g s)) s t) :
    SameResult (Statements.query g >>= f) s t := by
  intro outcomes
  rw [bind_run, bind_run, query_run, query_run]
  cases outcomes.head?.join with
  | none =>
      rw [← h]
      exact hf outcomes.tail
  | some e => rfl

end SameResult

end Program

/-! ## Loops of writes -/

/-- The first of `n` statements that fails, by its position. -/
def firstFailure : Nat → List (Option ε) → Option (Nat × ε)
  | 0, _ => none
  | n + 1, outcomes =>
      match outcomes.head?.join with
      | some e => some (0, e)
      | none => (firstFailure n outcomes.tail).map fun p => (p.1 + 1, p.2)

/-- What writes make of a store. -/
def runAll (writes : List (σ → σ)) (s : σ) : σ := writes.foldl (fun s write => write s) s

/-- Writes to one part of a store. -/
theorem runAll_part {τ : Type} {get : σ → τ} (set : σ → τ → σ) (hget : ∀ s t, get (set s t) = t)
    (hset : ∀ s t u, set (set s t) u = set s u) (hself : ∀ s, set s (get s) = s)
    (as : List α) (step : α → τ → τ) (s : σ) :
    runAll (as.map fun a s => set s (step a (get s))) s =
      set s (as.foldl (fun t a => step a t) (get s)) := by
  simp only [runAll]
  induction as generalizing s with
  | nil => exact (hself s).symm
  | cons a as ih => rw [List.map_cons, List.foldl_cons, ih, hget, hset, List.foldl_cons]

/-- A loop over elements is one over their writes. -/
theorem forM_map_execute (as : List α) (g : α → σ → σ) :
    (forM (as.map g) execute : Program ε σ Unit) = forM as fun a => execute (g a) := by
  induction as with
  | nil => rfl
  | cons a as ih => rw [List.map_cons, List.forM_cons, List.forM_cons, ih]

/-- A loop runs all writes, or those before the first that fails. -/
theorem forM_run (writes : List (σ → σ)) (s : σ) (outcomes : List (Option ε)) :
    (forM writes execute : Program ε σ Unit) ⟨s, outcomes⟩ =
      match firstFailure writes.length outcomes with
      | none => (.ok (), ⟨runAll writes s, outcomes.drop writes.length⟩)
      | some (k, e) => (.error e, ⟨runAll (writes.take k) s, outcomes.drop (k + 1)⟩) := by
  induction writes generalizing s outcomes with
  | nil => rfl
  | cons write writes ih =>
      rw [List.forM_cons, Program.bind_run, execute_run, List.length_cons, firstFailure]
      cases outcomes.head?.join with
      | some e => simp [runAll]
      | none =>
          show (forM writes execute : Program ε σ Unit) ⟨write s, outcomes.tail⟩ = _
          rw [ih]
          cases hfailure : firstFailure writes.length outcomes.tail with
          | none => simp [runAll]
          | some p => simp [runAll]

end Statements
