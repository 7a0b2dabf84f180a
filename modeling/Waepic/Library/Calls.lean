import Mathlib.Logic.Function.Basic

/-!
# Calls on shared data

Several calls run at once and change shared data, and so do others.  To judge a
call by what it did itself, each call carries what it would find if it had done
nothing: the data where it begins, and from then on the data with the changes of
all the others.  A call left the data as it found them if the two agree where it
returns, however its steps were interleaved.

`Shared.Stages P` says that every call is in a stage with `P`, and `Shared.Clean P`
that the calls in such a stage changed nothing so far.  For each of the three ways
to go on, others change the data, a call begins or a call moves, one lemma says
when it keeps them.
-/

namespace Calls

/-- How a change of the data by others changes what a call would find. -/
class Rebase (δ : Type*) where
  /-- The data `before` and `after` the change, and what the call would have found. -/
  rebase : δ → δ → δ → δ
  /-- A call that changed nothing finds the change. -/
  rebase_self : ∀ before after, rebase before after before = after
  /-- What nobody changes, a call would find as before. -/
  rebase_same : ∀ d found, rebase d d found = found

export Rebase (rebase rebase_self)

attribute [simp] rebase_self

/-- Data of one piece: the last change counts. -/
@[reducible] def Rebase.ofDecidableEq (δ : Type*) [DecidableEq δ] : Rebase δ where
  rebase before after found := if after = before then found else after
  rebase_self before after := by
    by_cases h : after = before
    · rw [if_pos h, h]
    · rw [if_neg h]
  rebase_same _ _ := if_pos rfl

/-- A call: where it is, and what it would find. -/
structure Call (δ ν : Type*) where
  stage : ν
  found : δ

/-- The data and the calls on them. -/
structure Shared (δ ν : Type*) where
  data : δ
  calls : Nat → Option (Call δ ν)

namespace Shared

variable {δ ν : Type*} [Rebase δ] {s : Shared δ ν} {c other : Nat} {d : δ} {stage : ν}
  {call : Call δ ν} {P : ν → Prop}

def stageOf (s : Shared δ ν) (c : Nat) : Option ν := (s.calls c).map Call.stage

/-- The calls after others change the data. -/
def rebased (s : Shared δ ν) (d : δ) (c : Nat) : Option (Call δ ν) :=
  (s.calls c).map fun call => { call with found := rebase s.data d call.found }

/-- Others change the data. -/
def intervene (s : Shared δ ν) (d : δ) : Shared δ ν := ⟨d, s.rebased d⟩

/-- A call begins. -/
def begin (s : Shared δ ν) (c : Nat) (stage : ν) : Shared δ ν :=
  { s with calls := Function.update s.calls c (some ⟨stage, s.data⟩) }

/-- The call `c` changes the data and goes on to a stage. -/
def move (s : Shared δ ν) (c : Nat) (stage : ν) (d : δ) : Shared δ ν :=
  ⟨d, Function.update (s.rebased d) c ((s.calls c).map fun call => { call with stage := stage })⟩

omit [Rebase δ] in
theorem stageOf_of_calls (h : s.calls c = some call) : s.stageOf c = some call.stage := by
  rw [stageOf, h]
  rfl

/-! ## The calls after a step -/

omit [Rebase δ] in
theorem begin_calls_self : (s.begin c stage).calls c = some ⟨stage, s.data⟩ :=
  Function.update_self ..

omit [Rebase δ] in
theorem begin_calls_of_ne (h : other ≠ c) : (s.begin c stage).calls other = s.calls other :=
  Function.update_of_ne h ..

theorem move_calls_self (h : s.calls c = some call) :
    (s.move c stage d).calls c = some ⟨stage, call.found⟩ := by
  simp [move, h]

theorem move_calls_of_ne (h : other ≠ c) : (s.move c stage d).calls other = s.rebased d other :=
  Function.update_of_ne h ..

@[simp] theorem rebased_stage : (s.rebased d c).map Call.stage = s.stageOf c := by
  simp [rebased, stageOf, Function.comp_def]

@[simp] theorem intervene_stageOf : (s.intervene d).stageOf c = s.stageOf c := rebased_stage

omit [Rebase δ] in
theorem begin_stageOf_self : (s.begin c stage).stageOf c = some stage := by
  rw [stageOf, begin_calls_self]
  rfl

omit [Rebase δ] in
theorem begin_stageOf_of_ne (h : other ≠ c) : (s.begin c stage).stageOf other = s.stageOf other := by
  rw [stageOf, begin_calls_of_ne h]
  rfl

theorem move_stageOf_self (h : s.calls c = some call) :
    (s.move c stage d).stageOf c = some stage := by
  rw [stageOf, move_calls_self h]
  rfl

theorem move_stageOf_of_ne (h : other ≠ c) : (s.move c stage d).stageOf other = s.stageOf other := by
  rw [stageOf, move_calls_of_ne h]
  exact rebased_stage

/-! ## The stages of the calls -/

/-- Every call is in a stage with `P`. -/
def Stages (P : ν → Prop) (s : Shared δ ν) : Prop :=
  ∀ c stage, s.stageOf c = some stage → P stage

omit [Rebase δ] in
theorem Stages.mono {Q : ν → Prop} (h : s.Stages P) (hPQ : ∀ stage, P stage → Q stage) :
    s.Stages Q :=
  fun c stage hstage => hPQ stage (h c stage hstage)

omit [Rebase δ] in
theorem Stages.of_calls (h : s.Stages P) (hcall : s.calls c = some call) : P call.stage :=
  h c call.stage (stageOf_of_calls hcall)

theorem Stages.intervene (h : s.Stages P) : (s.intervene d).Stages P := by
  intro c stage hstage
  rw [intervene_stageOf] at hstage
  exact h c stage hstage

omit [Rebase δ] in
theorem Stages.begin (h : s.Stages P) (hstage : P stage) : (s.begin c stage).Stages P := by
  intro other stage' hother
  by_cases heq : other = c
  · rw [heq, begin_stageOf_self] at hother
    cases hother
    exact hstage
  · rw [begin_stageOf_of_ne heq] at hother
    exact h other stage' hother

theorem Stages.move (h : s.Stages P) (hc : s.calls c = some call) (hstage : P stage) :
    (s.move c stage d).Stages P := by
  intro other stage' hother
  by_cases heq : other = c
  · rw [heq, move_stageOf_self hc] at hother
    cases hother
    exact hstage
  · rw [move_stageOf_of_ne heq] at hother
    exact h other stage' hother

/-! ## Calls that changed nothing -/

/-- The calls in a stage with `P` left the data as they found them. -/
def Clean (P : ν → Prop) (s : Shared δ ν) : Prop :=
  ∀ c call, s.calls c = some call → P call.stage → call.found = s.data

theorem Clean.rebased (h : s.Clean P) (hcall : s.rebased d c = some call) (hP : P call.stage) :
    call.found = d := by
  obtain ⟨old, hold, rfl⟩ := Option.map_eq_some_iff.mp hcall
  dsimp only at hP ⊢
  rw [h c old hold hP, rebase_self]

theorem Clean.intervene (h : s.Clean P) : (s.intervene d).Clean P :=
  fun _ _ hcall hP => h.rebased hcall hP

omit [Rebase δ] in
theorem Clean.begin (h : s.Clean P) : (s.begin c stage).Clean P := by
  intro other call hcall hP
  by_cases hother : other = c
  · rw [hother, begin_calls_self] at hcall
    cases hcall
    rfl
  · rw [begin_calls_of_ne hother] at hcall
    exact h other call hcall hP

theorem Clean.move (h : s.Clean P) (hc : s.calls c = some call)
    (hfound : P stage → call.found = d) : (s.move c stage d).Clean P := by
  intro other call' hcall hP
  by_cases hother : other = c
  · rw [hother, move_calls_self hc] at hcall
    cases hcall
    exact hfound hP
  · rw [move_calls_of_ne hother] at hcall
    exact h.rebased hcall hP

end Shared

end Calls
