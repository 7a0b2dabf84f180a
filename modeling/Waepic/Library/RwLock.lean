import Waepic.Library.Transition
import Mathlib.Data.List.Count
import Mathlib.Data.Set.Basic

/-!
# A write-preferring reader-writer lock

Tasks run programs of lock operations.  A write takes two steps: the writer
*claims* the lock, from which on new readers wait behind it, and *enters* once
the readers that were inside have left.  A task may also leave at any point, as
a future that is dropped or returns early; its guards go with it.

A task that holds a read guard and reads again under it waits for a writer that
claimed the lock in between, and that writer waits for the outer guard.  So the
lock is free of deadlocks in every run in which no writer claims it while a
holder of a read guard still has a nested read ahead (`no_deadlock`), and a
claim that breaks this condition leads to a deadlock by steps of that holder
alone (`Step.claim_leads_to_deadlock`).

The programs are any that pair their operations properly (`Disciplined`): no
write is requested under a guard and every guard is released.
-/

namespace RwLock

open Transition

/-- A lock operation of a task. -/
inductive LockOp where
  | read
  | releaseRead
  | write
  | releaseWrite
deriving DecidableEq, Repr

/-- The writer side of the lock. -/
inductive Writer (τ : Type*) where
  | absent
  /-- Waiting for the readers inside to leave, with new readers behind it. -/
  | claimed (t : τ)
  | holding (t : τ)
deriving DecidableEq, Repr

/-- The write guard belongs to `t`. -/
def Writer.heldBy {τ : Type*} [DecidableEq τ] : Writer τ → τ → Bool
  | .holding u, t => u = t
  | _, _ => false

/-- The lock and what each task still has to do. -/
structure State (τ : Type*) where
  /-- The read guards, each under the task that holds it. -/
  readers : List τ
  writer : Writer τ
  rest : τ → List LockOp

inductive Action (τ : Type*) where
  | spawn (t : τ) (program : List LockOp)
  | read (t : τ)
  | releaseRead (t : τ)
  | claim (t : τ)
  | enter (t : τ)
  | releaseWrite (t : τ)
  | leave (t : τ)

variable {τ : Type*} [DecidableEq τ]

/-- The writer side without the claim or the guard of `t`. -/
def Writer.without : Writer τ → τ → Writer τ
  | .absent, _ => .absent
  | .claimed u, t => if u = t then .absent else .claimed u
  | .holding u, t => if u = t then .absent else .holding u

/-- The lock without the guards of `t`. -/
def State.without (s : State τ) (t : τ) : State τ where
  readers := s.readers.filter (· ≠ t)
  writer := s.writer.without t
  rest := Function.update s.rest t []

inductive Step (programs : List LockOp → Prop) : State τ → Action τ → State τ → Prop where
  | spawn {s : State τ} {t : τ} {program : List LockOp} :
      s.rest t = [] → programs program →
      Step programs s (.spawn t program) { s with rest := Function.update s.rest t program }
  /-- A reader enters only while no writer waits or is inside. -/
  | read {s : State τ} {t : τ} {p : List LockOp} :
      s.rest t = .read :: p → s.writer = .absent →
      Step programs s (.read t)
        { s with readers := t :: s.readers, rest := Function.update s.rest t p }
  | releaseRead {s : State τ} {t : τ} {p : List LockOp} :
      s.rest t = .releaseRead :: p →
      Step programs s (.releaseRead t)
        { s with readers := s.readers.erase t, rest := Function.update s.rest t p }
  | claim {s : State τ} {t : τ} {p : List LockOp} :
      s.rest t = .write :: p → s.writer = .absent →
      Step programs s (.claim t) { s with writer := .claimed t }
  | enter {s : State τ} {t : τ} {p : List LockOp} :
      s.rest t = .write :: p → s.writer = .claimed t → s.readers = [] →
      Step programs s (.enter t)
        { s with writer := .holding t, rest := Function.update s.rest t p }
  | releaseWrite {s : State τ} {t : τ} {p : List LockOp} :
      s.rest t = .releaseWrite :: p → s.writer = .holding t →
      Step programs s (.releaseWrite t)
        { s with writer := .absent, rest := Function.update s.rest t p }
  | leave {s : State τ} {t : τ} : Step programs s (.leave t) (s.without t)

/-- The runs of one lock under tasks that run `programs`. -/
def rwLock (programs : List LockOp → Prop) : System (State τ) (Action τ) where
  init s := s = { readers := [], writer := .absent, rest := fun _ => [] }
  step := Step programs

/-! ## Waiting -/

/-- `t` waits for the lock, which `u` holds or has claimed. -/
inductive Waits (s : State τ) (t u : τ) : Prop where
  | readerOnClaim {p : List LockOp} :
      s.rest t = .read :: p → s.writer = .claimed u → Waits s t u
  | readerOnWriter {p : List LockOp} :
      s.rest t = .read :: p → s.writer = .holding u → Waits s t u
  | writerOnClaim {p : List LockOp} :
      s.rest t = .write :: p → s.writer = .claimed u → Waits s t u
  | writerOnWriter {p : List LockOp} :
      s.rest t = .write :: p → s.writer = .holding u → Waits s t u
  | claimOnReader {p : List LockOp} :
      s.rest t = .write :: p → s.writer = .claimed t → u ∈ s.readers → Waits s t u

/-- Each task of `S` waits for another of `S`. -/
def Deadlocked (s : State τ) (S : Set τ) : Prop :=
  S.Nonempty ∧ ∀ t ∈ S, ∃ u ∈ S, u ≠ t ∧ Waits s t u

/-! ## Programs -/

/-- `Disciplined r w p`: under `r` read guards, and the write guard if `w`, the
program `p` requests no write under a guard, no read under the write guard, and
releases what it holds. -/
def Disciplined : Nat → Bool → List LockOp → Prop
  | r, w, [] => w = false ∧ r = 0
  | r, w, .read :: p => w = false ∧ Disciplined (r + 1) false p
  | r, w, .releaseRead :: p => w = false ∧ 0 < r ∧ Disciplined (r - 1) false p
  | r, w, .write :: p => w = false ∧ r = 0 ∧ Disciplined 0 true p
  | r, w, .releaseWrite :: p => w = true ∧ r = 0 ∧ Disciplined 0 false p

/-- `NestedReadAhead r p`: under `r` read guards, the program `p` reads before
it has released them all. -/
def NestedReadAhead : Nat → List LockOp → Prop
  | r, .read :: _ => 0 < r
  | r, .releaseRead :: p => NestedReadAhead (r - 1) p
  | _, _ => False

theorem not_nestedReadAhead_zero {p : List LockOp} : ¬ NestedReadAhead 0 p := by
  induction p with
  | nil => exact id
  | cons op p ih =>
      cases op with
      | read => exact Nat.lt_irrefl 0
      | releaseRead => exact ih
      | write => exact id
      | releaseWrite => exact id

/-- No writer claims the lock while a holder of a read guard has a nested read
ahead. -/
def NoClaimOverNestedRead (s : State τ) : Action τ → Prop
  | .claim _ => ∀ u, ¬ NestedReadAhead (s.readers.count u) (s.rest u)
  | _ => True

/-! ## Leaving -/

@[simp] theorem Writer.without_heldBy_self (w : Writer τ) (t : τ) :
    (w.without t).heldBy t = false := by
  cases w with
  | absent => rfl
  | claimed u => rcases eq_or_ne u t with rfl | hut <;> simp [without, heldBy, *]
  | holding u => rcases eq_or_ne u t with rfl | hut <;> simp [without, heldBy, *]

theorem Writer.without_heldBy (w : Writer τ) {t u : τ} (h : u ≠ t) :
    (w.without t).heldBy u = w.heldBy u := by
  cases w with
  | absent => rfl
  | claimed v => rcases eq_or_ne v t with rfl | hvt <;> simp [without, heldBy, *]
  | holding v =>
      rcases eq_or_ne v t with rfl | hvt
      · simp [without, heldBy, Ne.symm h]
      · simp [without, hvt]

theorem Writer.claimed_of_without {w : Writer τ} {t u : τ} (h : w.without t = .claimed u) :
    w = .claimed u := by
  cases w with
  | absent => cases h
  | claimed v => rcases eq_or_ne v t with rfl | hvt <;> simp_all [without]
  | holding v => rcases eq_or_ne v t with rfl | hvt <;> simp_all [without]

@[simp] theorem State.without_writer (s : State τ) (t : τ) :
    (s.without t).writer = s.writer.without t := rfl

@[simp] theorem State.without_rest_self (s : State τ) (t : τ) : (s.without t).rest t = [] :=
  Function.update_self ..

@[simp] theorem State.without_rest (s : State τ) {t u : τ} (h : u ≠ t) :
    (s.without t).rest u = s.rest u :=
  Function.update_of_ne h ..

@[simp] theorem State.without_count_self (s : State τ) (t : τ) :
    (s.without t).readers.count t = 0 :=
  List.count_eq_zero_of_not_mem fun h => by simpa using (List.mem_filter.mp h).2

@[simp] theorem State.without_count (s : State τ) {t u : τ} (h : u ≠ t) :
    (s.without t).readers.count u = s.readers.count u :=
  List.count_filter (by simpa using h)

/-! ## Absence of deadlocks -/

/-- What every state of a guarded run satisfies. -/
structure Inv (s : State τ) : Prop where
  disciplined : ∀ t, Disciplined (s.readers.count t) (s.writer.heldBy t) (s.rest t)
  claimed : ∀ w, s.writer = .claimed w →
    ∀ u, ¬ NestedReadAhead (s.readers.count u) (s.rest u)

/-- A state that meets the invariant has no deadlock. -/
theorem Inv.not_deadlocked {s : State τ} (hinv : Inv s) (S : Set τ) : ¬ Deadlocked s S := by
  rintro ⟨⟨t, ht⟩, hS⟩
  -- whoever waits for the lock waits for the writer, so the writer is in `S`
  have hwriter : ∃ w ∈ S, s.writer = .claimed w ∨ s.writer = .holding w := by
    obtain ⟨u, hu, -, hwait⟩ := hS t ht
    cases hwait with
    | readerOnClaim _ hw => exact ⟨u, hu, Or.inl hw⟩
    | readerOnWriter _ hw => exact ⟨u, hu, Or.inr hw⟩
    | writerOnClaim _ hw => exact ⟨u, hu, Or.inl hw⟩
    | writerOnWriter _ hw => exact ⟨u, hu, Or.inr hw⟩
    | claimOnReader _ hw _ => exact ⟨t, ht, Or.inl hw⟩
  obtain ⟨w, hwS, hw⟩ := hwriter
  obtain ⟨u, huS, huw, hwait⟩ := hS w hwS
  -- the writer waits for a reader inside
  have hinside : s.writer = .claimed w ∧ u ∈ s.readers := by
    cases hwait with
    | readerOnClaim _ h => simp [h, huw] at hw
    | readerOnWriter _ h => simp [h, huw] at hw
    | writerOnClaim _ h => simp [h, huw] at hw
    | writerOnWriter _ h => simp [h, huw] at hw
    | claimOnReader _ hw hu => exact ⟨hw, hu⟩
  obtain ⟨hclaimed, hu⟩ := hinside
  -- and that reader has no nested read ahead, so it waits for nobody
  have hcount : 0 < s.readers.count u := List.count_pos_iff.mpr hu
  have hdisc := hinv.disciplined u
  have hnone := hinv.claimed w hclaimed u
  obtain ⟨v, -, -, hwaitu⟩ := hS u huS
  have hop : ∀ p, s.rest u ≠ .read :: p ∧ s.rest u ≠ .write :: p := by
    intro p
    refine ⟨fun h => hnone (by rw [h]; exact hcount), fun h => ?_⟩
    rw [h] at hdisc
    exact hcount.ne' hdisc.2.1
  cases hwaitu with
  | readerOnClaim h _ => exact (hop _).1 h
  | readerOnWriter h _ => exact (hop _).1 h
  | writerOnClaim h _ => exact (hop _).2 h
  | writerOnWriter h _ => exact (hop _).2 h
  | claimOnReader h _ _ => exact (hop _).2 h

/-- Every guarded step keeps the invariant. -/
theorem Inv.step {programs : List LockOp → Prop}
    (hprograms : ∀ p, programs p → Disciplined 0 false p) {s t : State τ} {a : Action τ}
    (hinv : Inv s) (h : Step programs s a t) (hguard : NoClaimOverNestedRead s a) : Inv t := by
  cases h with
  | @spawn u program hidle hprogram =>
      obtain ⟨hwriter, hcount⟩ := by simpa [hidle, Disciplined] using hinv.disciplined u
      refine ⟨fun v => ?_, fun w hw v => ?_⟩
      · rcases eq_or_ne v u with rfl | hvu
        · simpa [hcount, hwriter] using hprograms program hprogram
        · simpa [Function.update_of_ne hvu] using hinv.disciplined v
      · rcases eq_or_ne v u with rfl | hvu
        · simpa [hcount] using not_nestedReadAhead_zero
        · simpa [Function.update_of_ne hvu] using hinv.claimed w hw v
  | @read u p hrest habsent =>
      refine ⟨fun v => ?_, fun w hw => by simp [habsent] at hw⟩
      rcases eq_or_ne v u with rfl | hvu
      · have hv := hinv.disciplined v
        rw [hrest] at hv
        simpa [habsent, Writer.heldBy] using hv.2
      · simpa [Function.update_of_ne hvu, List.count_cons_of_ne (Ne.symm hvu)]
          using hinv.disciplined v
  | @releaseRead u p hrest =>
      have hu := hinv.disciplined u
      rw [hrest] at hu
      refine ⟨fun v => ?_, fun w hw v => ?_⟩
      · rcases eq_or_ne v u with rfl | hvu
        · simpa [hu.1] using hu.2.2
        · simpa [Function.update_of_ne hvu, List.count_erase_of_ne hvu]
            using hinv.disciplined v
      · have hv := hinv.claimed w hw v
        rcases eq_or_ne v u with rfl | hvu
        · simpa [hrest, NestedReadAhead] using hv
        · simpa [Function.update_of_ne hvu, List.count_erase_of_ne hvu] using hv
  | @claim u p hrest habsent =>
      refine ⟨fun v => ?_, fun w _ v => hguard v⟩
      simpa [habsent, Writer.heldBy] using hinv.disciplined v
  | @enter u p hrest hclaimed hempty =>
      refine ⟨fun v => ?_, fun w hw => by simp at hw⟩
      have hv := hinv.disciplined v
      rcases eq_or_ne v u with rfl | hvu
      · rw [hrest] at hv
        simpa [Writer.heldBy, hempty] using hv.2.2
      · simpa [Function.update_of_ne hvu, Writer.heldBy, hclaimed, Ne.symm hvu] using hv
  | @releaseWrite u p hrest hholding =>
      refine ⟨fun v => ?_, fun w hw => by simp at hw⟩
      have hv := hinv.disciplined v
      rcases eq_or_ne v u with rfl | hvu
      · rw [hrest] at hv
        simpa [Writer.heldBy, hv.2.1] using hv.2.2
      · simpa [Function.update_of_ne hvu, Writer.heldBy, hholding, Ne.symm hvu] using hv
  | @leave u =>
      refine ⟨fun v => ?_, fun w hw v => ?_⟩
      · rcases eq_or_ne v u with rfl | hvu
        · simp [Disciplined]
        · simpa [hvu, Writer.without_heldBy] using hinv.disciplined v
      · rcases eq_or_ne v u with rfl | hvu
        · simp [NestedReadAhead]
        · simpa [hvu] using hinv.claimed w (Writer.claimed_of_without hw) v

theorem inv_of_run {programs : List LockOp → Prop}
    (hprograms : ∀ p, programs p → Disciplined 0 false p) {as : List (Action τ)} {s : State τ}
    (hrun : ((rwLock programs).restrict NoClaimOverNestedRead).Run as s) : Inv s := by
  refine hrun.invariant (fun s hs => ?_) (fun _ _ _ hinv h => hinv.step hprograms h.1 h.2)
  rw [show s = _ from hs]
  exact ⟨fun _ => ⟨rfl, rfl⟩, fun w hw => by cases hw⟩

/-- No state of a run is a deadlock if no writer claims the lock while a holder
of a read guard has a nested read ahead. -/
theorem no_deadlock {programs : List LockOp → Prop}
    (hprograms : ∀ p, programs p → Disciplined 0 false p) {as : List (Action τ)} {s : State τ}
    (hrun : ((rwLock programs).restrict NoClaimOverNestedRead).Run as s) (S : Set τ) :
    ¬ Deadlocked s S :=
  (inv_of_run hprograms hrun).not_deadlocked S

/-! ## A claim over a nested read -/

/-- A holder with a nested read ahead runs into a writer that waits for it. -/
theorem deadlock_of_nestedReadAhead {programs : List LockOp → Prop} {w u : τ} (hwu : u ≠ w)
    {q : List LockOp} (p : List LockOp) {s : State τ} (hu : s.rest u = p)
    (hw : s.rest w = .write :: q) (hclaimed : s.writer = .claimed w)
    (hnested : NestedReadAhead (s.readers.count u) p) :
    ∃ as t, (rwLock programs).Steps s as t ∧ Deadlocked t {u, w} := by
  induction p generalizing s with
  | nil => exact absurd hnested id
  | cons op p ih =>
      cases op with
      | read =>
          have hinside : u ∈ s.readers := List.count_pos_iff.mp hnested
          refine ⟨[], s, .refl, ⟨u, Or.inl rfl⟩, ?_⟩
          rintro t (rfl | rfl)
          · exact ⟨w, Or.inr rfl, Ne.symm hwu, .readerOnClaim hu hclaimed⟩
          · exact ⟨u, Or.inl rfl, hwu, .claimOnReader hw hclaimed hinside⟩
      | releaseRead =>
          have hstep : (rwLock programs).step s (.releaseRead u)
              { s with readers := s.readers.erase u, rest := Function.update s.rest u p } :=
            Step.releaseRead hu
          obtain ⟨as, t, hsteps, hdead⟩ := ih (s := { s with
            readers := s.readers.erase u, rest := Function.update s.rest u p })
            (by simp) (by simpa [Function.update_of_ne (Ne.symm hwu)] using hw) hclaimed
            (by simpa [NestedReadAhead] using hnested)
          exact ⟨_, t, (System.Steps.single hstep).append hsteps, hdead⟩
      | write => exact absurd hnested id
      | releaseWrite => exact absurd hnested id

/-- A claim over a nested read leads to a deadlock of the two tasks. -/
theorem Step.claim_leads_to_deadlock {programs : List LockOp → Prop} {s t : State τ} {w u : τ}
    (h : Step programs s (.claim w) t) (hnested : NestedReadAhead (s.readers.count u) (s.rest u)) :
    ∃ as t', (rwLock programs).Steps t as t' ∧ Deadlocked t' {u, w} := by
  cases h with
  | @claim _ p hrest habsent =>
      have hwu : u ≠ w := by
        rintro rfl
        rw [hrest] at hnested
        exact hnested
      exact deadlock_of_nestedReadAhead hwu _ rfl hrest rfl hnested

end RwLock
