import Waepic.Library.Transition
import Mathlib.Logic.Function.Basic

/-!
# Reading what was last written

A store is read by keys.  An action may write under one key, and promise what a
read of that key gives from then on, or promise nothing.  `Promises` is the
history of the promises: of each key, that of the last action on it.

If an action leaves the reads of the other keys alone and keeps its own promise,
then every promise is kept in every run (`Reads.kept_of_run`).
-/

namespace LastWrites

open Transition System

/-- How a store is read and written. -/
structure Reads (σ α κ ρ : Type*) where
  read : σ → κ → ρ
  /-- The key an action writes under. -/
  key : α → Option κ
  /-- What a read of that key gives afterwards. -/
  promise : α → Option ρ

/-- The last promise for each key, if the last action on it made one. -/
abbrev Promises (κ ρ : Type*) := κ → Option ρ

namespace Reads

variable {σ α κ ρ : Type*} [DecidableEq κ] (R : Reads σ α κ ρ)

def next (m : Promises κ ρ) (a : α) : Promises κ ρ :=
  match R.key a with
  | none => m
  | some k => Function.update m k (R.promise a)

/-- The runs of a store with their promises. -/
def withPromises (S : System σ α) : System (σ × Promises κ ρ) α :=
  S.record (fun _ => none) fun m _ a => R.next m a

/-- Every promise is kept. -/
def Kept (p : σ × Promises κ ρ) : Prop := ∀ k r, p.2 k = some r → R.read p.1 k = r

/-- The action leaves the reads of all other keys alone. -/
def Frames (s : σ) (a : α) (t : σ) : Prop := ∀ k, R.key a ≠ some k → R.read t k = R.read s k

/-- The action keeps its own promise. -/
def Fulfils (a : α) (t : σ) : Prop :=
  ∀ k r, R.key a = some k → R.promise a = some r → R.read t k = r

variable {R}

theorem Kept.step {s t : σ} {m : Promises κ ρ} {a : α} (hkept : R.Kept (s, m))
    (hframe : R.Frames s a t) (hfulfils : R.Fulfils a t) : R.Kept (t, R.next m a) := by
  intro k r hr
  cases hkey : R.key a with
  | none =>
      simp only [next, hkey] at hr
      rw [hframe k (by rw [hkey]; exact nofun)]
      exact hkept k r hr
  | some k' =>
      simp only [next, hkey] at hr
      rcases eq_or_ne k k' with rfl | hne
      · rw [Function.update_self] at hr
        exact hfulfils k r hkey hr
      · rw [Function.update_of_ne hne] at hr
        rw [hframe k (by rw [hkey]; exact fun h => hne (Option.some.inj h).symm)]
        exact hkept k r hr

/-- After an action its own promise is among the promises. -/
theorem Kept.fulfils {t : σ} {m : Promises κ ρ} {a : α} (hkept : R.Kept (t, R.next m a)) :
    R.Fulfils a t := by
  intro k r hkey hpromise
  refine hkept k r ?_
  simp only [next, hkey]
  rw [Function.update_self]
  exact hpromise

/-- What every step of a system does, every run of it keeps. -/
theorem kept_of_run {S : System σ α} {G : σ × Promises κ ρ → α → Prop}
    (hframe : ∀ s a t, S.step s a t → R.Frames s a t)
    (hfulfils : ∀ p a t, S.step p.1 a t → G p a → R.Fulfils a t)
    {as : List α} {p : σ × Promises κ ρ}
    (h : ((R.withPromises S).restrict G).Run as p) : R.Kept p := by
  refine h.invariant ?_ ?_
  · rintro ⟨s, m⟩ ⟨-, rfl⟩
    exact nofun
  · rintro ⟨s, m⟩ a ⟨t, m'⟩ hkept ⟨⟨hstep, rfl⟩, hguard⟩
    exact hkept.step (hframe s a t hstep) (hfulfils (s, m) a t hstep hguard)

end Reads

end LastWrites
