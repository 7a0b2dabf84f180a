import Waepic.Library.Transition

/-!
# Simulations

A system simulates another if each of its steps is, for related states, what is seen of it:
some actions of the other one, or none.  The runs of the first are then runs of the second
(`Simulates.run`).

Where no action tells what is seen of it, a system refines another if each of its steps is some
steps of the other one, or none, between related states.  What it reaches is then related to
what the other one reaches (`Refines.reachable`).
-/

namespace Transition.System

variable {σ τ α β : Type*} {C : System σ α} {A : System τ β} {R : σ → τ → Prop}
  {seen : α → List β}

/-- Every step of `C` is, between states that `R` relates, the actions of `A` that are seen
of it. -/
structure Simulates (C : System σ α) (A : System τ β) (R : σ → τ → Prop)
    (seen : α → List β) : Prop where
  init : ∀ s, C.init s → ∃ t, A.init t ∧ R s t
  step : ∀ s a s' t, R s t → C.step s a s' → ∃ t', A.Steps t (seen a) t' ∧ R s' t'

/-- A run of `C` is a run of `A`. -/
theorem Simulates.run (h : Simulates C A R seen) {as : List α} {s : σ} (hrun : C.Run as s) :
    ∃ t, A.Run (as.flatMap seen) t ∧ R s t := by
  refine hrun.history_invariant (I := fun as s => ∃ t, A.Run (as.flatMap seen) t ∧ R s t) ?_ ?_
  · intro s hs
    obtain ⟨t, ht, hrel⟩ := h.init s hs
    exact ⟨t, .start ht, hrel⟩
  · rintro as s a s' - ⟨t, hrun, hrel⟩ hstep
    obtain ⟨t', hsteps, hrel'⟩ := h.step s a s' t hrel hstep
    refine ⟨t', ?_, hrel'⟩
    rw [List.flatMap_append, List.flatMap_singleton]
    exact hrun.append hsteps

/-! ## Refinement -/

/-- Every step of `C` is, between states that `R` relates, some steps of `A`, or none. -/
structure Refines (C : System σ α) (A : System τ β) (R : σ → τ → Prop) : Prop where
  init : ∀ s, C.init s → ∃ t, A.init t ∧ R s t
  step : ∀ s a s' t, R s t → C.step s a s' → ∃ bs t', A.Steps t bs t' ∧ R s' t'

theorem Refines.reachable (h : Refines C A R) {s : σ} (hs : C.Reachable s) :
    ∃ t, A.Reachable t ∧ R s t := by
  obtain ⟨as, hrun⟩ := hs
  refine hrun.invariant (I := fun s => ∃ t, A.Reachable t ∧ R s t) ?_ ?_
  · intro s hs
    obtain ⟨t, ht, hrel⟩ := h.init s hs
    exact ⟨t, ⟨[], .start ht⟩, hrel⟩
  · rintro s a s' ⟨t, ⟨bs, hrun⟩, hrel⟩ hstep
    obtain ⟨cs, t', hsteps, hrel'⟩ := h.step s a s' t hrel hstep
    exact ⟨t', ⟨bs ++ cs, hrun.append hsteps⟩, hrel'⟩

end Transition.System
