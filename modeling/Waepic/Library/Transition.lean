import Mathlib.Logic.Relation

/-!
# Labelled transition systems

A system is a set of initial states and a relation `step s a t`.  A run is the
list of the actions taken, oldest first, with the state they lead to.  Four
things are proved once here and used by every model of a component.

*Splitting.*  A run through `as ++ bs` passes through a state after `as`
(`System.Steps.split`), so a property of the history since one action is a
property of the steps after it.

*Invariants.*  A predicate that holds initially and that every step keeps holds
of every reachable state (`System.Run.invariant`).  The form that the models
use most is indexed by the history (`System.Run.history_invariant`): the
predicate may mention the actions taken so far.

*Guards.*  `S.restrict G` is `S` with the steps that meet `G` only.  Its runs
are exactly the runs of `S` whose steps all meet `G`, so "in every run whose
steps all meet `G`" is an invariant of `S.restrict G`.

*Histories.*  `S.record m₀ next` is `S` with a variable that no step reads and
every step updates.  It has the runs of `S`, so what it says of the variable is
said of the history.
-/

namespace Transition

/-- A transition system: where a run may start, and what one action may do. -/
structure System (σ α : Type*) where
  /-- The states a run may start from. -/
  init : σ → Prop
  /-- `step s a t`: in `s` the action `a` may lead to `t`. -/
  step : σ → α → σ → Prop

namespace System

variable {σ α : Type*} {S : System σ α}

/-- `S.Steps s as t`: the actions `as`, oldest first, lead from `s` to `t`. -/
inductive Steps (S : System σ α) (s : σ) : List α → σ → Prop where
  | refl : S.Steps s [] s
  | tail {t u : σ} {as : List α} {a : α} :
      S.Steps s as t → S.step t a u → S.Steps s (as ++ [a]) u

/-- `S.Run as s`: the actions `as` lead from an initial state to `s`. -/
def Run (S : System σ α) (as : List α) (s : σ) : Prop :=
  ∃ s₀, S.init s₀ ∧ S.Steps s₀ as s

/-- `s` is the end of some run. -/
def Reachable (S : System σ α) (s : σ) : Prop := ∃ as, S.Run as s

/-! ## Splitting and joining runs -/

theorem Steps.single {s t : σ} {a : α} (h : S.step s a t) : S.Steps s [a] t :=
  show S.Steps s ([] ++ [a]) t from .tail .refl h

theorem Steps.append {s t u : σ} {as bs : List α} (h₁ : S.Steps s as t)
    (h₂ : S.Steps t bs u) : S.Steps s (as ++ bs) u := by
  induction h₂ with
  | refl => rw [List.append_nil]; exact h₁
  | tail _ hstep ih =>
      rw [← List.append_assoc]
      exact .tail ih hstep

/-- A run through `as ++ bs` passes through a state after `as`. -/
theorem Steps.split {s u : σ} {as bs : List α} (h : S.Steps s (as ++ bs) u) :
    ∃ t, S.Steps s as t ∧ S.Steps t bs u := by
  generalize hl : as ++ bs = l at h
  induction h generalizing bs with
  | refl =>
      obtain ⟨rfl, rfl⟩ := List.append_eq_nil_iff.mp hl
      exact ⟨_, .refl, .refl⟩
  | @tail t u cs c hsteps hstep ih =>
      rcases List.eq_nil_or_concat bs with rfl | ⟨bs', b, rfl⟩
      · rw [List.append_nil] at hl
        subst hl
        exact ⟨u, .tail hsteps hstep, .refl⟩
      · rw [List.concat_eq_append, ← List.append_assoc] at hl
        rw [List.concat_eq_append]
        obtain ⟨hinit, hlast⟩ := List.append_inj' hl rfl
        obtain ⟨v, hv₁, hv₂⟩ := ih hinit
        cases hlast
        exact ⟨v, hv₁, .tail hv₂ hstep⟩

theorem Run.append {s t : σ} {as bs : List α} (h₁ : S.Run as s) (h₂ : S.Steps s bs t) :
    S.Run (as ++ bs) t := by
  obtain ⟨s₀, h₀, h⟩ := h₁
  exact ⟨s₀, h₀, h.append h₂⟩

theorem Run.split {u : σ} {as bs : List α} (h : S.Run (as ++ bs) u) :
    ∃ t, S.Run as t ∧ S.Steps t bs u := by
  obtain ⟨s₀, h₀, h⟩ := h
  obtain ⟨t, h₁, h₂⟩ := h.split
  exact ⟨t, ⟨s₀, h₀, h₁⟩, h₂⟩

theorem Steps.eq_of_nil {s t : σ} (h : S.Steps s [] t) : s = t := by
  generalize hl : ([] : List α) = l at h
  cases h with
  | refl => rfl
  | tail _ _ => simp at hl

theorem Steps.of_singleton {s t : σ} {a : α} (h : S.Steps s [a] t) : S.step s a t := by
  generalize hl : [a] = l at h
  cases h with
  | refl => cases hl
  | tail hsteps hstep =>
      obtain ⟨rfl, hlast⟩ := List.append_inj' (show [] ++ [a] = _ from hl) rfl
      cases hlast
      rw [hsteps.eq_of_nil]
      exact hstep

/-- A run through `as ++ a :: bs` takes the step `a` after `as`. -/
theorem Run.split_step {u : σ} {as bs : List α} {a : α} (h : S.Run (as ++ a :: bs) u) :
    ∃ s t, S.Run as s ∧ S.step s a t ∧ S.Steps t bs u := by
  obtain ⟨s, hrun, hrest⟩ := h.split
  obtain ⟨t, hstep, hsteps⟩ := Steps.split (show S.Steps s ([a] ++ bs) u from hrest)
  exact ⟨s, t, hrun, hstep.of_singleton, hsteps⟩

/-- Some steps lead from `s` to a state with `P`. -/
def CanReach (S : System σ α) (P : σ → Prop) (s : σ) : Prop := ∃ as t, S.Steps s as t ∧ P t

theorem CanReach.here {P : σ → Prop} {s : σ} (h : P s) : S.CanReach P s := ⟨[], s, .refl, h⟩

theorem CanReach.of_step {P : σ → Prop} {s t : σ} {a : α} (h : S.step s a t)
    (ht : S.CanReach P t) : S.CanReach P s := by
  obtain ⟨as, u, hsteps, hu⟩ := ht
  exact ⟨[a] ++ as, u, (Steps.single h).append hsteps, hu⟩

theorem Run.start {s : σ} (h : S.init s) : S.Run [] s := ⟨s, h, .refl⟩

/-- The empty continuation of a run. -/
theorem Run.here {s : σ} {as : List α} (_ : S.Run as s) : S.Steps s [] s := .refl

theorem Run.tail {s t : σ} {as : List α} {a : α} (h : S.Run as s) (hstep : S.step s a t) :
    S.Run (as ++ [a]) t :=
  h.append (.single hstep)

/-! ## Invariants -/

/-- What every step keeps, a run keeps. -/
theorem Steps.preserves {I : σ → Prop} (hstep : ∀ s a t, I s → S.step s a t → I t)
    {s t : σ} {as : List α} (h : S.Steps s as t) (hs : I s) : I t := by
  induction h with
  | refl => exact hs
  | tail _ ht ih => exact hstep _ _ _ ih ht

/-- The invariant rule: `I` holds initially and every step keeps it. -/
theorem Run.invariant {I : σ → Prop} (hinit : ∀ s, S.init s → I s)
    (hstep : ∀ s a t, I s → S.step s a t → I t) {as : List α} {s : σ} (h : S.Run as s) :
    I s := by
  obtain ⟨s₀, h₀, h⟩ := h
  exact h.preserves hstep (hinit s₀ h₀)

/-- The invariant rule for a predicate of the history.  The step case may use
that the run so far is one. -/
theorem Run.history_invariant {I : List α → σ → Prop} (hinit : ∀ s, S.init s → I [] s)
    (hstep : ∀ as s a t, S.Run as s → I as s → S.step s a t → I (as ++ [a]) t)
    {as : List α} {s : σ} (h : S.Run as s) : I as s := by
  obtain ⟨s₀, h₀, h⟩ := h
  induction h with
  | refl => exact hinit _ h₀
  | tail hsteps ht ih => exact hstep _ _ _ _ ⟨_, h₀, hsteps⟩ ih ht

/-! ## Runs whose steps all meet a guard -/

/-- The steps of `S` that meet the guard `G`, a condition on the state before
the step and the action. -/
def restrict (S : System σ α) (G : σ → α → Prop) : System σ α where
  init := S.init
  step s a t := S.step s a t ∧ G s a

theorem Steps.of_restrict {G : σ → α → Prop} {s t : σ} {as : List α}
    (h : (S.restrict G).Steps s as t) : S.Steps s as t := by
  induction h with
  | refl => exact .refl
  | tail _ ht ih => exact .tail ih ht.1

/-- A guarded run is a run. -/
theorem Run.of_restrict {G : σ → α → Prop} {as : List α} {s : σ}
    (h : (S.restrict G).Run as s) : S.Run as s := by
  obtain ⟨s₀, h₀, h⟩ := h
  exact ⟨s₀, h₀, h.of_restrict⟩

/-! ## History variables -/

variable {μ : Type*} {m₀ : μ} {next : μ → σ → α → μ}

/-- `S` with a history variable: it starts at `m₀`, and `next` updates it from
the state before the step and the action. -/
def record (S : System σ α) (m₀ : μ) (next : μ → σ → α → μ) : System (σ × μ) α where
  init p := S.init p.1 ∧ p.2 = m₀
  step p a q := S.step p.1 a q.1 ∧ q.2 = next p.2 p.1 a

theorem Steps.of_record {p q : σ × μ} {as : List α} (h : (S.record m₀ next).Steps p as q) :
    S.Steps p.1 as q.1 := by
  induction h with
  | refl => exact .refl
  | tail _ ht ih => exact .tail ih ht.1

theorem Run.of_record {p : σ × μ} {as : List α} (h : (S.record m₀ next).Run as p) :
    S.Run as p.1 := by
  obtain ⟨p₀, h₀, h⟩ := h
  exact ⟨p₀.1, h₀.1, h.of_record⟩

/-- A history variable blocks no step. -/
theorem Steps.record {s t : σ} {as : List α} (h : S.Steps s as t) (m₀ : μ)
    (next : μ → σ → α → μ) (m : μ) :
    ∃ m', (S.record m₀ next).Steps (s, m) as (t, m') := by
  induction h with
  | refl => exact ⟨m, .refl⟩
  | tail _ ht ih =>
      obtain ⟨m', hsteps⟩ := ih
      exact ⟨_, .tail hsteps ⟨ht, rfl⟩⟩

end System

end Transition
