import Mathlib.Data.List.Basic
import Mathlib.Algebra.Order.Group.Nat

/-!
# Periodic work in a loop

A loop counts some of its iterations, and works in the counted ones that bring
the count to a multiple of a period.  The loop works in every window of so many
consecutive iterations exactly if it counts them all, up to the last multiple of
the period (`works_in_windows_iff`).
-/

namespace Periodic

variable {α : Type*} {period : Nat} {counts : α → Bool} {l : List α} {i k : Nat}

/-- How many of the first `k` iterations count. -/
def count (counts : α → Bool) (l : List α) (k : Nat) : Nat := (l.take k).countP counts

/-- Iteration `k` counts, and the count becomes a multiple of the period. -/
def WorksAt (period : Nat) (counts : α → Bool) (l : List α) (k : Nat) : Prop :=
  (∃ a, l[k]? = some a ∧ counts a = true) ∧ period ∣ count counts l (k + 1)

/-- The loop works in every window of `period` iterations. -/
def WorksInWindows (period : Nat) (counts : α → Bool) (l : List α) : Prop :=
  ∀ i, i + period ≤ l.length → ∃ k, i ≤ k ∧ k < i + period ∧ WorksAt period counts l k

/-- The first `k` iterations all count. -/
def AllCount (counts : α → Bool) (l : List α) (k : Nat) : Prop :=
  ∀ a ∈ l.take k, counts a = true

/-- From `i` on, the count grows with the iterations that count. -/
theorem count_add (counts : α → Bool) (l : List α) (i k : Nat) :
    count counts l (i + k) = count counts l i + ((l.drop i).take k).countP counts := by
  rw [count, List.take_add, List.countP_append, count]

theorem count_le (counts : α → Bool) (l : List α) (k : Nat) : count counts l k ≤ k := by
  calc count counts l k ≤ (l.take k).length := List.countP_le_length
    _ ≤ k := List.length_take_le k l

theorem allCount_iff (hk : k ≤ l.length) : AllCount counts l k ↔ count counts l k = k := by
  have hlength : (l.take k).length = k := List.length_take_of_le hk
  unfold AllCount count
  rw [← List.countP_eq_length, hlength]

theorem AllCount.mono (h : AllCount counts l k) (hi : i ≤ k) : AllCount counts l i :=
  fun a ha => h a ((List.take_prefix_take_left hi).subset ha)

/-- What one more iteration adds: it may work itself. -/
theorem worksAt_concat {a : α} :
    WorksAt period counts (l ++ [a]) k ↔
      WorksAt period counts l k ∨
        k = l.length ∧ counts a = true ∧ period ∣ l.countP counts + 1 := by
  rcases Nat.lt_trichotomy k l.length with hk | rfl | hk
  · have hget : (l ++ [a])[k]? = l[k]? := List.getElem?_append_left hk
    have htake : (l ++ [a]).take (k + 1) = l.take (k + 1) := List.take_append_of_le_length hk
    simp only [WorksAt, count, hget, htake, Nat.ne_of_lt hk, false_and, or_false]
  · have hnone : l[l.length]? = none := List.getElem?_eq_none (Nat.le_refl _)
    have htake : (l ++ [a]).take (l.length + 1) = l ++ [a] :=
      List.take_of_length_le (by simp)
    simp only [WorksAt, count, List.getElem?_concat_length, htake, hnone, List.countP_append,
      List.countP_singleton]
    constructor
    · rintro ⟨⟨b, hb, hcounts⟩, hdvd⟩
      cases hb
      rw [if_pos hcounts] at hdvd
      exact .inr ⟨trivial, hcounts, hdvd⟩
    · rintro (⟨⟨b, hb, _⟩, _⟩ | ⟨_, hcounts, hdvd⟩)
      · cases hb
      · rw [if_pos hcounts]
        exact ⟨⟨a, rfl, hcounts⟩, hdvd⟩
  · have hnone : (l ++ [a])[k]? = none := List.getElem?_eq_none (by simp; omega)
    have hnone' : l[k]? = none := List.getElem?_eq_none (Nat.le_of_lt hk)
    simp [WorksAt, hnone, hnone', Nat.ne_of_gt hk]

/-- In a window after a multiple of the period the loop works at its end, and
only if all of the window counts. -/
theorem allCount_window (hcount : count counts l i = i) (hi : period ∣ i) (hik : i ≤ k)
    (hk : k < i + period) (hworks : WorksAt period counts l k) :
    count counts l (i + period) = i + period := by
  obtain ⟨⟨a, ha, hcounts⟩, hdvd⟩ := hworks
  have hle : count counts l (k + 1) ≤ k + 1 := count_le counts l (k + 1)
  have hgrows : count counts l i + 1 ≤ count counts l (k + 1) := by
    have hmem : a ∈ (l.drop i).take (k + 1 - i) := by
      have hget : (l.drop i)[k - i]? = some a := by
        rw [List.getElem?_drop, show i + (k - i) = k by omega]
        exact ha
      exact List.mem_of_getElem?
        (show ((l.drop i).take (k + 1 - i))[k - i]? = some a by
          rw [List.getElem?_take_of_lt (by omega), hget])
    have hpos : 0 < ((l.drop i).take (k + 1 - i)).countP counts :=
      List.countP_pos_iff.mpr ⟨a, hmem, hcounts⟩
    have hsplit := count_add counts l i (k + 1 - i)
    rw [show i + (k + 1 - i) = k + 1 by omega] at hsplit
    omega
  have hnext : i + period ≤ count counts l (k + 1) :=
    Nat.le_of_lt_add_of_dvd (by omega) (Nat.dvd_add hi (Nat.dvd_refl period)) hdvd
  have hlast : k + 1 = i + period := by omega
  rw [hlast] at hnext hle
  exact Nat.le_antisymm hle hnext

/-- A loop that works in every window counts all iterations up to a multiple of
the period, window by window. -/
theorem count_of_worksInWindows (h : WorksInWindows period counts l) :
    ∀ m, period * m ≤ l.length → count counts l (period * m) = period * m := by
  intro m
  induction m with
  | zero => intro _; simp [count]
  | succ m ih =>
      intro hm
      rw [Nat.mul_succ] at hm ⊢
      obtain ⟨k, hik, hk, hworks⟩ := h (period * m) hm
      exact allCount_window (ih (by omega)) (Nat.dvd_mul_right period m) hik hk hworks

/-- The loop works at the end of a whole number of periods that all count. -/
theorem worksAt_of_allCount {m : Nat} (hm : 0 < m) (hperiod : 0 < period)
    (hlength : period * m ≤ l.length) (h : AllCount counts l (period * m)) :
    WorksAt period counts l (period * m - 1) := by
  have hpos : 0 < period * m := Nat.mul_pos hperiod hm
  constructor
  · have hlt : period * m - 1 < l.length := by omega
    refine ⟨l[period * m - 1], List.getElem?_eq_getElem hlt, h _ ?_⟩
    exact List.mem_of_getElem? (i := period * m - 1)
      (by rw [List.getElem?_take_of_lt (by omega), List.getElem?_eq_getElem hlt])
  · rw [show period * m - 1 + 1 = period * m by omega, (allCount_iff hlength).mp h]
    exact Nat.dvd_mul_right period m

/-- The loop works in every window of a period exactly if it counts every
iteration up to the last multiple of the period. -/
theorem works_in_windows_iff (hperiod : 0 < period) :
    WorksInWindows period counts l ↔ AllCount counts l (period * (l.length / period)) := by
  have hle : period * (l.length / period) ≤ l.length := Nat.mul_div_le l.length period
  constructor
  · intro h
    exact (allCount_iff hle).mpr (count_of_worksInWindows h _ hle)
  · intro h i hi
    -- the window from `i` contains the end of the first period that ends after `i`
    have hmul : period * (i / period + 1) = period * (i / period) + period := Nat.mul_succ ..
    have hdiv : period * (i / period) ≤ i := Nat.mul_div_le i period
    have hlt : i < period * (i / period) + period := Nat.lt_mul_div_succ i hperiod |>.trans_eq hmul
    have hfits : period * (i / period + 1) ≤ period * (l.length / period) := by
      apply Nat.mul_le_mul_left
      calc i / period + 1 = (i + period) / period := (Nat.add_div_right i hperiod).symm
        _ ≤ l.length / period := Nat.div_le_div_right hi
    have hworks := worksAt_of_allCount (Nat.succ_pos (i / period)) hperiod (hfits.trans hle)
      (h.mono hfits)
    exact ⟨period * (i / period + 1) - 1, by omega, by omega, hworks⟩

end Periodic
