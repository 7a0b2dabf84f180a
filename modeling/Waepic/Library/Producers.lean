import Mathlib.Data.List.Basic
import Mathlib.Data.List.Induction
import Mathlib.Logic.Function.Basic

/-!
# Producers that act side by side

Each producer has a list of acts still to do and does them in order, one at a time;
between two acts of one producer any others may do theirs.  A producer may be given
more to do at any time.

The acts done are logged with their producers.  The program of a producer is what it
has done and what it has still to do: to act does not change any program
(`program_act`), to be given more appends to one (`program_assign`).  So what a producer
has done is always the beginning of what it was given, whatever the others did
(`doneBy_prefix`), and when an act is logged exactly those before it in its program
have been (`done_before`).
-/

namespace Producers

variable {ι ε : Type*}

/-- What is still to do, and what was done. -/
structure Schedule (ι ε : Type*) where
  pending : ι → List ε
  /-- The acts and who did them, oldest first. -/
  log : List (ι × ε)

namespace Schedule

/-- Nothing is done, nor to do. -/
def new : Schedule ι ε where
  pending _ := []
  log := []

variable [DecidableEq ι]

/-- The acts of one producer in a log. -/
def actsOf (i : ι) (log : List (ι × ε)) : List ε :=
  (log.filter fun act => act.1 = i).map Prod.snd

def doneBy (s : Schedule ι ε) (i : ι) : List ε := actsOf i s.log

/-- All that a producer was given to do. -/
def program (s : Schedule ι ε) (i : ι) : List ε := s.doneBy i ++ s.pending i

/-- Give a producer more to do. -/
def assign (s : Schedule ι ε) (i : ι) (es : List ε) : Schedule ι ε :=
  { s with pending := Function.update s.pending i (s.pending i ++ es) }

/-- A producer acts, and has this left. -/
def act (s : Schedule ι ε) (i : ι) (e : ε) (rest : List ε) : Schedule ι ε where
  pending := Function.update s.pending i rest
  log := s.log ++ [(i, e)]

variable {s : Schedule ι ε} {i j : ι} {e : ε} {es rest : List ε}

/-! ## Logs -/

@[simp] theorem actsOf_nil (i : ι) : actsOf i ([] : List (ι × ε)) = [] := rfl

@[simp] theorem actsOf_append (i : ι) (log more : List (ι × ε)) :
    actsOf i (log ++ more) = actsOf i log ++ actsOf i more := by
  rw [actsOf, List.filter_append, List.map_append]
  rfl

@[simp] theorem actsOf_cons_self (i : ι) (e : ε) (log : List (ι × ε)) :
    actsOf i ((i, e) :: log) = e :: actsOf i log := by
  simp [actsOf]

theorem actsOf_cons_of_ne (h : j ≠ i) (e : ε) (log : List (ι × ε)) :
    actsOf i ((j, e) :: log) = actsOf i log := by
  simp [actsOf, h]

/-- The last act of a producer, and what others did since. -/
theorem actsOf_eq_concat {es : List ε} {log : List (ι × ε)} (h : actsOf i log = es ++ [e]) :
    ∃ earlier since, log = earlier ++ (i, e) :: since ∧ actsOf i earlier = es ∧
      ∀ act ∈ since, act.1 ≠ i := by
  induction log using List.reverseRecOn with
  | nil => simp at h
  | append_singleton log act ih =>
      obtain ⟨j, e'⟩ := act
      rcases eq_or_ne j i with rfl | hne
      · rw [actsOf_append, actsOf_cons_self, actsOf_nil] at h
        obtain ⟨hes, he⟩ := List.append_inj' h rfl
        cases he
        exact ⟨log, [], rfl, hes, by simp⟩
      · rw [actsOf_append, actsOf_cons_of_ne hne, actsOf_nil, List.append_nil] at h
        obtain ⟨earlier, since, hlog, hearlier, hsince⟩ := ih h
        refine ⟨earlier, since ++ [(j, e')], by rw [hlog, List.append_assoc]; rfl, hearlier, ?_⟩
        intro act hact
        rcases List.mem_append.mp hact with hact | hact
        · exact hsince act hact
        · rw [List.mem_singleton.mp hact]
          exact hne

theorem mem_actsOf {log : List (ι × ε)} : e ∈ actsOf i log ↔ (i, e) ∈ log := by
  simp [actsOf]

/-! ## Programs -/

@[simp] theorem new_program (i : ι) : (new : Schedule ι ε).program i = [] := rfl

@[simp] theorem assign_log (s : Schedule ι ε) (i : ι) (es : List ε) :
    (s.assign i es).log = s.log := rfl

@[simp] theorem act_log (s : Schedule ι ε) (i : ι) (e : ε) (rest : List ε) :
    (s.act i e rest).log = s.log ++ [(i, e)] := rfl

theorem assign_pending_of_ne (h : j ≠ i) : (s.assign i es).pending j = s.pending j :=
  Function.update_of_ne h ..

@[simp] theorem assign_pending_self (s : Schedule ι ε) (i : ι) (es : List ε) :
    (s.assign i es).pending i = s.pending i ++ es :=
  Function.update_self ..

@[simp] theorem act_pending_self (s : Schedule ι ε) (i : ι) (e : ε) (rest : List ε) :
    (s.act i e rest).pending i = rest :=
  Function.update_self ..

theorem act_pending_of_ne (h : j ≠ i) : (s.act i e rest).pending j = s.pending j :=
  Function.update_of_ne h ..

theorem program_assign (s : Schedule ι ε) (i j : ι) (es : List ε) :
    (s.assign i es).program j = if j = i then s.program j ++ es else s.program j := by
  rcases eq_or_ne j i with rfl | h
  · rw [if_pos rfl, program, program, assign_pending_self, List.append_assoc]
    rfl
  · rw [if_neg h, program, assign_pending_of_ne h]
    rfl

/-- To act changes no program. -/
theorem program_act (h : s.pending i = e :: rest) (j : ι) :
    (s.act i e rest).program j = s.program j := by
  rcases eq_or_ne j i with rfl | hne
  · rw [program, program, doneBy, act_log, actsOf_append, actsOf_cons_self, actsOf_nil, h,
      act_pending_self, List.append_assoc]
    rfl
  · rw [program, program, doneBy, act_log, actsOf_append, actsOf_cons_of_ne hne.symm, actsOf_nil,
      List.append_nil, act_pending_of_ne hne]
    rfl

/-- What was done is the beginning of what was given. -/
theorem doneBy_prefix (s : Schedule ι ε) (i : ι) : s.doneBy i <+: s.program i :=
  List.prefix_append ..

/-- Who acted was given the act. -/
theorem mem_program_of_log (h : (i, e) ∈ s.log) : e ∈ s.program i :=
  (s.doneBy_prefix i).subset (mem_actsOf.mpr h)

/-- A producer with nothing left has done all that it was given. -/
theorem doneBy_eq_program (h : s.pending i = []) : s.doneBy i = s.program i := by
  rw [program, h, List.append_nil]

/-- With an act, what its producer had done is the beginning of its program. -/
theorem acts_prefix {log more : List (ι × ε)} (hlog : s.log = log ++ (i, e) :: more) :
    actsOf i log ++ [e] <+: s.program i := by
  refine List.IsPrefix.trans ?_ (s.doneBy_prefix i)
  rw [doneBy, hlog, actsOf_append, actsOf_cons_self]
  exact ⟨actsOf i more, by rw [List.append_assoc]; rfl⟩

/-- When an act was logged that stands only once in its program, exactly those before it
had been done. -/
theorem done_before {before after : List ε} {log more : List (ι × ε)}
    (hprogram : s.program i = before ++ e :: after) (hbefore : e ∉ before) (hafter : e ∉ after)
    (hlog : s.log = log ++ (i, e) :: more) : actsOf i log = before := by
  obtain ⟨rest, hrest⟩ := acts_prefix hlog
  rw [hprogram, List.append_assoc, List.singleton_append] at hrest
  exact ((List.append_cons_inj_of_notMem hbefore hafter).mp hrest.symm).1.symm

/-! ## New producers -/

/-- Give the producers `f n`, `f (n + 1)`, … one list each. -/
def spawn (f : ℕ → ι) : ℕ → List (List ε) → Schedule ι ε → Schedule ι ε
  | _, [], s => s
  | n, es :: ess, s => spawn f (n + 1) ess (s.assign (f n) es)

@[simp] theorem spawn_log (f : ℕ → ι) (n : ℕ) (ess : List (List ε)) (s : Schedule ι ε) :
    (s.spawn f n ess).log = s.log := by
  induction ess generalizing n s with
  | nil => rfl
  | cons es ess ih => rw [spawn, ih, assign_log]

theorem spawn_pending_of_ne {f : ℕ → ι} (h : ∀ k, i ≠ f k) (n : ℕ) (ess : List (List ε))
    (s : Schedule ι ε) : (s.spawn f n ess).pending i = s.pending i := by
  induction ess generalizing n s with
  | nil => rfl
  | cons es ess ih => rw [spawn, ih, assign_pending_of_ne (h n)]

theorem program_spawn_of_ne {f : ℕ → ι} (h : ∀ k, i ≠ f k) (n : ℕ) (ess : List (List ε))
    (s : Schedule ι ε) : (s.spawn f n ess).program i = s.program i := by
  rw [program, program, doneBy, doneBy, spawn_log, spawn_pending_of_ne h]

theorem program_spawn_of_lt {f : ℕ → ι} (hf : Function.Injective f) {k n : ℕ} (h : k < n)
    (ess : List (List ε)) (s : Schedule ι ε) : (s.spawn f n ess).program (f k) = s.program (f k) := by
  induction ess generalizing n s with
  | nil => rfl
  | cons es ess ih =>
      rw [spawn, ih (Nat.lt_succ_of_lt h), program_assign, if_neg (hf.ne (Nat.ne_of_lt h))]

/-- Each of them gets its list. -/
theorem program_spawn {f : ℕ → ι} (hf : Function.Injective f) (n k : ℕ) (ess : List (List ε))
    (s : Schedule ι ε) :
    (s.spawn f n ess).program (f (n + k)) = s.program (f (n + k)) ++ (ess[k]?).getD [] := by
  induction ess generalizing n k s with
  | nil => simp [spawn]
  | cons es ess ih =>
      cases k with
      | zero => simp [spawn, program_spawn_of_lt hf (Nat.lt_succ_self n), program_assign]
      | succ k =>
          have hnext : n + (k + 1) = n + 1 + k := by omega
          have hne : n + 1 + k ≠ n := by omega
          rw [spawn, hnext, ih, program_assign, if_neg (hf.ne hne), List.getElem?_cons_succ]

end Schedule

end Producers
