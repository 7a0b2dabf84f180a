import Waepic.Connection.Reconnect
import Mathlib.Data.List.GetD
import Mathlib.Data.Nat.Fib.Basic
import Mathlib.Tactic.IntervalCases

/-!
# Reconnect delays

`fibonacci_backoff` doubles a Fibonacci number and adds a jitter that depends on
the attempt.  Its arithmetic is modelled with its overflows: `none` is a panic of
the checked operations.

*The loop.*  It computes `fibTerm attempt`, unless a term reaches the cap, when
the function returns (`backoffLoop_eq`).  The terms below the cap are those of
the first eight attempts, so the jitter is settled by their values, and every
later attempt waits for the cap (`fibonacciBackoff_of_cap`).

*The run.*  `run` counts its failures since the last connection; `Delays` records
what it waits for.  As the count only grows until a connection resets it, the
delays are sorted (`backoff_sorted`).
-/

namespace Waepic.Connection

open Transition Binary

def BACKOFF_BASE_SECS : UInt64 := 2

def BACKOFF_MAX_SECS : UInt64 := 60

/-! ## Machine arithmetic -/

/-- `u64::saturating_add`. -/
def saturatingAdd (a b : UInt64) : UInt64 := .ofNat (min (a.toNat + b.toNat) (2 ^ 64 - 1))

def checkedU64 (n : Nat) : Option UInt64 := if n < 2 ^ 64 then some (.ofNat n) else none

def checkedI64 (z : Int) : Option Int := if -2 ^ 63 ≤ z ∧ z < 2 ^ 63 then some z else none

def checkedRem (a b : UInt64) : Option UInt64 := if b = 0 then none else some (a % b)

/-- `n as i64`. -/
def asI64 (n : UInt64) : Int := n.toInt64.toInt

/-- `z as u64`. -/
def asU64 (z : Int) : UInt64 := (Int64.ofInt z).toUInt64

/-- The nearest natural number with 53 significant bits, ties to even. -/
def roundF64 (n : Nat) : Nat :=
  let unit := 2 ^ (n.log2 + 1 - 53)
  let q := n / unit
  let r := n % unit
  (if unit < 2 * r ∨ unit = 2 * r ∧ q % 2 = 1 then q + 1 else q) * unit

/-- `(secs as f64 * 0.1) as i64`, where `0.1` is `3602879701896397 / 2 ^ 55`. -/
def tenth (secs : UInt64) : Int :=
  min (roundF64 (roundF64 secs.toNat * 3602879701896397) / 2 ^ 55 : Nat) (2 ^ 63 - 1)

/-! ## `fibonacci_backoff` -/

/-- `n` rounds of the loop; an error is the delay it returns with. -/
def backoffLoop : Nat → UInt64 → UInt64 → Except UInt64 UInt64
  | 0, _, b => .ok b
  | n + 1, a, b =>
      let next := saturatingAdd a b
      if BACKOFF_MAX_SECS ≤ next then .error BACKOFF_MAX_SECS else backoffLoop n b next

/-- `secs`, or the delay that is returned at once. -/
def backoffSecs (attempt : UInt64) : Except UInt64 UInt64 :=
  if attempt ≤ 1 then .ok BACKOFF_BASE_SECS
  else backoffLoop (attempt.toNat - 1) BACKOFF_BASE_SECS BACKOFF_BASE_SECS

def backoffOffset (attempt : UInt64) (jitter : Int) : Option Int :=
  if 0 < jitter then do
    let doubled ← checkedU64 ((asU64 jitter).toNat * 2)
    let modulus ← checkedU64 (doubled.toNat + 1)
    let r ← checkedRem (attempt * 17) modulus
    checkedI64 (asI64 r - jitter)
  else
    some 0

/-- The delay in seconds; none when an operation overflows. -/
def fibonacciBackoff (attempt : UInt64) : Option UInt64 :=
  match backoffSecs attempt with
  | .error delay => some delay
  | .ok secs => do
      let offset ← backoffOffset attempt (tenth secs)
      let adjusted ← checkedI64 (asI64 secs + offset)
      some (asU64 (max adjusted 1))

/-! ## The terms -/

/-- The Fibonacci term of an attempt. -/
def fibTerm (attempt : Nat) : Nat := BACKOFF_BASE_SECS.toNat * Nat.fib (attempt + 1)

theorem fibTerm_add_two (n : Nat) : fibTerm (n + 2) = fibTerm n + fibTerm (n + 1) := by
  simp only [fibTerm]
  rw [Nat.fib_add_two, Nat.mul_add]

theorem fibTerm_mono : Monotone fibTerm := by
  intro m n hmn
  exact Nat.mul_le_mul_left _ (Nat.fib_mono (Nat.succ_le_succ hmn))

/-- Attempt 8 is the first one whose term reaches the cap. -/
theorem max_le_fibTerm_iff {n : Nat} : BACKOFF_MAX_SECS.toNat ≤ fibTerm n ↔ 8 ≤ n := by
  have hmax : BACKOFF_MAX_SECS.toNat = 60 := rfl
  constructor
  · intro hcap
    by_contra hn
    have hle : fibTerm n ≤ fibTerm 7 := fibTerm_mono (by omega)
    have h7 : fibTerm 7 = 42 := by decide
    omega
  · intro hn
    have hle : fibTerm 8 ≤ fibTerm n := fibTerm_mono hn
    have h8 : fibTerm 8 = 68 := by decide
    omega

theorem saturatingAdd_toNat (a b : UInt64) :
    (saturatingAdd a b).toNat = min (a.toNat + b.toNat) (2 ^ 64 - 1) := by
  simp only [saturatingAdd]
  rw [UInt64.toNat_ofNat_of_lt']
  simp only [UInt64.size]
  omega

/-- From two terms below the cap, `n` rounds compute the term that is `n` later,
unless that term has reached the cap. -/
theorem backoffLoop_eq (n k : Nat) {a b : UInt64} (ha : a.toNat = fibTerm k)
    (hb : b.toNat = fibTerm (k + 1)) (hlt : b < BACKOFF_MAX_SECS) :
    backoffLoop n a b =
      if BACKOFF_MAX_SECS.toNat ≤ fibTerm (k + 1 + n) then .error BACKOFF_MAX_SECS
      else .ok (.ofNat (fibTerm (k + 1 + n))) := by
  have hmax : BACKOFF_MAX_SECS.toNat = 60 := rfl
  rw [UInt64.lt_iff_toNat_lt] at hlt
  induction n generalizing k a b with
  | zero =>
      rw [Nat.add_zero, if_neg (by omega), ← hb, UInt64.ofNat_toNat]
      rfl
  | succ n ih =>
      -- The sum is at most the sum of two terms below the cap, so it does not saturate.
      have hle : a.toNat ≤ b.toNat := by
        rw [ha, hb]
        exact fibTerm_mono (Nat.le_succ k)
      have hnext : (saturatingAdd a b).toNat = fibTerm (k + 2) := by
        rw [saturatingAdd_toNat, fibTerm_add_two]
        omega
      simp only [backoffLoop]
      rcases Nat.lt_or_ge (fibTerm (k + 2)) BACKOFF_MAX_SECS.toNat with hbelow | hcap
      · rw [if_neg (by rw [UInt64.le_iff_toNat_le]; omega),
          ih (k + 1) hb hnext (by rw [hnext]; exact hbelow)]
        rw [show k + 1 + 1 + n = k + 1 + (n + 1) by omega]
      · have hlast : fibTerm (k + 2) ≤ fibTerm (k + 1 + (n + 1)) := fibTerm_mono (by omega)
        rw [if_pos (by rw [UInt64.le_iff_toNat_le]; omega), if_pos (by omega)]

theorem backoffSecs_eq (attempt : UInt64) :
    backoffSecs attempt =
      if BACKOFF_MAX_SECS.toNat ≤ fibTerm attempt.toNat then .error BACKOFF_MAX_SECS
      else .ok (.ofNat (fibTerm attempt.toNat)) := by
  simp only [backoffSecs]
  rcases Nat.lt_or_ge 1 attempt.toNat with hlate | hearly
  · have hnot : ¬ attempt ≤ 1 := by
      rw [UInt64.le_iff_toNat_le]
      exact Nat.not_le_of_lt hlate
    rw [if_neg hnot, backoffLoop_eq (attempt.toNat - 1) 0 rfl rfl (by decide)]
    rw [show 0 + 1 + (attempt.toNat - 1) = attempt.toNat by omega]
  · rw [if_pos (UInt64.le_iff_toNat_le.mpr hearly)]
    have hterm : fibTerm attempt.toNat = 2 := by
      rcases Nat.le_one_iff_eq_zero_or_eq_one.mp hearly with h | h
      · rw [h]; rfl
      · rw [h]; rfl
    rw [hterm]
    rfl

/-! ## The delays -/

/-- Once the term has reached the cap, so has the delay. -/
theorem fibonacciBackoff_of_cap {attempt : UInt64}
    (h : BACKOFF_MAX_SECS.toNat ≤ fibTerm attempt.toNat) :
    fibonacciBackoff attempt = some BACKOFF_MAX_SECS := by
  simp only [fibonacciBackoff, backoffSecs_eq, if_pos h]

/-- The delay of an attempt, its jitter included, in seconds. -/
def backoffDelay (attempt : Nat) : Nat :=
  [2, 2, 4, 6, 11, 16, 26, 40].getD attempt BACKOFF_MAX_SECS.toNat

theorem backoffDelay_of_cap {n : Nat} (h : 8 ≤ n) : backoffDelay n = BACKOFF_MAX_SECS.toNat :=
  List.getD_eq_default _ _ h

theorem backoffDelay_mono : Monotone backoffDelay := by
  refine monotone_nat_of_le_succ fun n => ?_
  rcases Nat.lt_or_ge n 8 with hlt | hge
  · interval_cases n <;> decide
  · rw [backoffDelay_of_cap hge, backoffDelay_of_cap (Nat.le_succ_of_le hge)]

theorem le_backoffDelay (n : Nat) : BACKOFF_BASE_SECS.toNat ≤ backoffDelay n :=
  calc BACKOFF_BASE_SECS.toNat = backoffDelay 0 := rfl
    _ ≤ backoffDelay n := backoffDelay_mono (Nat.zero_le n)

theorem backoffDelay_le (n : Nat) : backoffDelay n ≤ BACKOFF_MAX_SECS.toNat := by
  rcases Nat.lt_or_ge n 8 with hlt | hge
  · calc backoffDelay n ≤ backoffDelay 8 := backoffDelay_mono (Nat.le_of_lt hlt)
      _ = BACKOFF_MAX_SECS.toNat := backoffDelay_of_cap le_rfl
  · exact (backoffDelay_of_cap hge).le

/-- The jitter is settled by the values at the terms below the cap. -/
theorem fibonacciBackoff_of_lt {n : Nat} (h : n < 8) :
    fibonacciBackoff (.ofNat n) = some (.ofNat (backoffDelay n)) := by
  interval_cases n <;> decide +kernel

/-- No operation overflows. -/
theorem fibonacciBackoff_eq (attempt : UInt64) :
    fibonacciBackoff attempt = some (.ofNat (backoffDelay attempt.toNat)) := by
  rcases Nat.lt_or_ge attempt.toNat 8 with hlt | hge
  · have hvalue := fibonacciBackoff_of_lt hlt
    rwa [UInt64.ofNat_toNat] at hvalue
  · rw [fibonacciBackoff_of_cap (max_le_fibTerm_iff.mpr hge), backoffDelay_of_cap hge,
      UInt64.ofNat_toNat]

theorem toNat_ofNat_backoffDelay (n : Nat) :
    (UInt64.ofNat (backoffDelay n)).toNat = backoffDelay n := by
  refine UInt64.toNat_ofNat_of_lt' ((backoffDelay_le n).trans_lt ?_)
  decide

/-! ## The delays of a run -/

/-- The action begins a delay. -/
def startsDelay (config : ConnectionConfig) (s : ConnState) : ConnAction → Bool
  | .move .connectFailed => s.runner.mayRetry config
  | .move .ended =>
      match s.runner.phase with
      | .closing (.error _) => s.runner.mayRetry config
      | _ => false
  | _ => false

/-- The results of `fibonacci_backoff` since the last connection, oldest first. -/
abbrev Delays := List (Option UInt64)

def Delays.next (config : ConnectionConfig) (ds : Delays) (s : ConnState) (a : ConnAction) :
    Delays :=
  if startsDelay config s a then ds ++ [fibonacciBackoff (.ofNat s.runner.reconnectAttempt)]
  else
    match a with
    | .move .connected => []
    | _ => ds

variable [WacoreBinary] {config : ConnectionConfig}

/-- The runs of a connection, with its delays. -/
def backoffs (config : ConnectionConfig) : System (ConnState × Delays) ConnAction :=
  (connection config).record [] (Delays.next config)

/-- What a step does to the count of the failures. -/
theorem ConnStep.reconnectAttempt {s t : ConnState} {a : ConnAction} (h : ConnStep config s a t) :
    t.runner.reconnectAttempt =
      if startsDelay config s a then min (s.runner.reconnectAttempt + 1) (2 ^ 64 - 1)
      else
        match a with
        | .move .connected => 0
        | _ => s.runner.reconnectAttempt := by
  have hretry : (s.runner.retryOrStop config).reconnectAttempt =
      if s.runner.mayRetry config then min (s.runner.reconnectAttempt + 1) (2 ^ 64 - 1)
      else s.runner.reconnectAttempt := by
    cases hmay : s.runner.mayRetry config with
    | true => rw [Runner.retryOrStop_of_mayRetry hmay]; rfl
    | false => rw [Runner.retryOrStop_of_not_mayRetry hmay]; rfl
  cases h with
  | move hmove =>
      cases hmove with
      | connectFailed _ => exact hretry
      | endedOk hphase => simp [startsDelay, hphase]
      | endedError hphase => simpa [startsDelay, hphase] using hretry
      | _ => rfl
  | frameIq _ _ => simp [startsDelay, ConnState.setPhase]
  | register _ _ _ => simp [startsDelay]
  | _ => rfl

/-- The delays are those of a sorted list of counts, none above the current one. -/
structure DelayInv (r : Runner) (ds : Delays) : Prop where
  attempt_lt : r.reconnectAttempt < 2 ^ 64
  counts : ∃ ns : List Nat, ds = ns.map (fun n => fibonacciBackoff (.ofNat n)) ∧
    ns.Pairwise (· ≤ ·) ∧ ∀ n ∈ ns, n ≤ r.reconnectAttempt

theorem DelayInv.step {s t : ConnState} {ds : Delays} {a : ConnAction}
    (hinv : DelayInv s.runner ds) (h : ConnStep config s a t) :
    DelayInv t.runner (ds.next config s a) := by
  obtain ⟨ns, hds, hsorted, hle⟩ := hinv.counts
  have hlt := hinv.attempt_lt
  have hattempt := h.reconnectAttempt
  cases hstarts : startsDelay config s a with
  | true =>
      rw [hstarts, if_pos rfl] at hattempt
      refine ⟨by omega, ns ++ [s.runner.reconnectAttempt], ?_, ?_, ?_⟩
      · simp [Delays.next, hstarts, hds]
      · rw [List.pairwise_append]
        exact ⟨hsorted, List.pairwise_singleton _ _, by simpa using hle⟩
      · intro n hn
        rcases List.mem_append.mp hn with hold | hnew
        · have hn := hle n hold
          omega
        · have hn := List.mem_singleton.mp hnew
          omega
  | false =>
      simp only [hstarts, Bool.false_eq_true, if_false] at hattempt
      simp only [Delays.next, hstarts, Bool.false_eq_true, if_false]
      split
      · simp only at hattempt
        exact ⟨by omega, [], rfl, .nil, nofun⟩
      · next hother =>
          have hkept : t.runner.reconnectAttempt = s.runner.reconnectAttempt := by
            rw [hattempt]
            split
            · exact absurd rfl hother
            · rfl
          exact ⟨by omega, ns, hds, hsorted, by rw [hkept]; exact hle⟩

theorem delayInv_of_run {as : List ConnAction} {p : ConnState × Delays}
    (h : (backoffs config).Run as p) : DelayInv p.1.runner p.2 := by
  refine h.invariant (I := fun p => DelayInv p.1.runner p.2) ?_ ?_
  · rintro ⟨s, ds⟩ ⟨rfl, rfl⟩
    exact ⟨by decide, [], rfl, .nil, nofun⟩
  · rintro p a q hinv ⟨hstep, hnext⟩
    rw [hnext]
    exact hinv.step hstep

omit [WacoreBinary] in
theorem fibonacciBackoff_mono {m n d e : UInt64} (hmn : m ≤ n)
    (hd : fibonacciBackoff m = some d) (he : fibonacciBackoff n = some e) : d ≤ e := by
  rw [fibonacciBackoff_eq, Option.some.injEq] at hd he
  rw [← hd, ← he, UInt64.le_iff_toNat_le, toNat_ofNat_backoffDelay, toNat_ofNat_backoffDelay]
  exact backoffDelay_mono (UInt64.le_iff_toNat_le.mp hmn)

omit [WacoreBinary] in
/-- The delays since the last connection are sorted. -/
theorem DelayInv.sorted {r : Runner} {ds : Delays} (h : DelayInv r ds) :
    ∃ es : List UInt64, ds = es.map some ∧ es.Pairwise (· ≤ ·) := by
  obtain ⟨ns, rfl, hsorted, hle⟩ := h.counts
  refine ⟨ns.map fun n => .ofNat (backoffDelay (UInt64.ofNat n).toNat), ?_, ?_⟩
  · simp [fibonacciBackoff_eq]
  · rw [List.pairwise_map]
    refine hsorted.imp_of_mem fun {m n} hm hn hmn => ?_
    have hlt : n < 2 ^ 64 := (hle n hn).trans_lt h.attempt_lt
    refine fibonacciBackoff_mono ?_ (fibonacciBackoff_eq _) (fibonacciBackoff_eq _)
    rw [UInt64.le_iff_toNat_le, UInt64.toNat_ofNat_of_lt' (hmn.trans_lt hlt),
      UInt64.toNat_ofNat_of_lt' hlt]
    exact hmn

/-- No attempt overflows, and its delay lies between base and cap; the delay is
monotone in the attempt, and is the cap from the first term that reaches it
onward; in a run, the delays since the last connection never decrease. -/
theorem backoff_sorted (config : ConnectionConfig) :
    (∀ attempt, ∃ d, fibonacciBackoff attempt = some d ∧ BACKOFF_BASE_SECS ≤ d ∧
      d ≤ BACKOFF_MAX_SECS) ∧
    (∀ m n d e, m ≤ n → fibonacciBackoff m = some d → fibonacciBackoff n = some e → d ≤ e) ∧
    (∃ first, (∀ n, BACKOFF_MAX_SECS.toNat ≤ fibTerm n ↔ first ≤ n) ∧
      ∀ attempt : UInt64, first ≤ attempt.toNat →
        fibonacciBackoff attempt = some BACKOFF_MAX_SECS) ∧
    ∀ as p, (backoffs config).Run as p →
      ∃ es : List UInt64, p.2 = es.map some ∧ es.Pairwise (· ≤ ·) := by
  refine ⟨fun attempt => ⟨_, fibonacciBackoff_eq attempt, ?_, ?_⟩, ?_, ?_, ?_⟩
  · rw [UInt64.le_iff_toNat_le, toNat_ofNat_backoffDelay]
    exact le_backoffDelay _
  · rw [UInt64.le_iff_toNat_le, toNat_ofNat_backoffDelay]
    exact backoffDelay_le _
  · exact fun m n d e hmn hd he => fibonacciBackoff_mono hmn hd he
  · refine ⟨8, fun n => max_le_fibTerm_iff, fun attempt hle => ?_⟩
    exact fibonacciBackoff_of_cap (max_le_fibTerm_iff.mpr hle)
  · exact fun as p hrun => (delayInv_of_run hrun).sorted

end Waepic.Connection
