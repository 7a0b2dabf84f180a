import Mathlib.Algebra.Group.Nat.Defs
import Mathlib.Data.List.Basic

/-!
# Digits in a base up to sixteen

`Nat.toDigits` writes a number with the digits `0` to `9` and `a` to `f`.  Here
is its inverse for every base that these digits serve (`digitsValue_toDigits`).
Padding with zeros on the left keeps the value (`digitsValue_leftpad`) and gives
a number below `b ^ w` exactly `w` digits (`length_padded`), so padded numbers
are equal only if the numbers are (`padded_inj`).
-/

namespace Digits

/-- The value of a digit, and zero for any other character. -/
def digitValue (c : Char) : Nat :=
  if '0' ≤ c ∧ c ≤ '9' then c.toNat - 48
  else if 'a' ≤ c ∧ c ≤ 'f' then c.toNat - 87
  else 0

/-- The value of a list of digits, the most significant one first. -/
def digitsValue (b : Nat) (cs : List Char) : Nat := cs.foldl (fun n c => n * b + digitValue c) 0

variable {b : Nat}

theorem digitValue_digitChar {d : Nat} (h : d < 16) : digitValue d.digitChar = d := by
  have hall : ∀ d < 16, digitValue (Nat.digitChar d) = d := by decide
  exact hall d h

theorem digitsValue_concat (cs : List Char) (c : Char) :
    digitsValue b (cs ++ [c]) = digitsValue b cs * b + digitValue c := by
  simp [digitsValue]

/-- What the digits of a number say is the number. -/
theorem digitsValue_toDigits (hb : 1 < b) (hle : b ≤ 16) (n : Nat) :
    digitsValue b (Nat.toDigits b n) = n := by
  induction n using Nat.strongRecOn with
  | ind n ih =>
      rcases Nat.lt_or_ge n b with hlt | hge
      · have hdigit : digitValue n.digitChar = n := digitValue_digitChar (by omega)
        rw [Nat.toDigits_of_lt_base hlt]
        simp [digitsValue, hdigit]
      · have hsmaller : n / b < n := Nat.div_lt_self (by omega) hb
        have hmod : n % b < b := Nat.mod_lt n (by omega)
        have hlast : n % b < 16 := by omega
        rw [Nat.toDigits_of_base_le hb hge, digitsValue_concat, ih _ hsmaller,
          digitValue_digitChar hlast]
        exact Nat.div_add_mod' n b

/-- The digits of a number are digits of the base. -/
theorem exists_of_mem_toDigits (hb : 1 < b) {n : Nat} {c : Char} (h : c ∈ Nat.toDigits b n) :
    ∃ d < b, c = d.digitChar := by
  induction n using Nat.strongRecOn with
  | ind n ih =>
      rcases Nat.lt_or_ge n b with hlt | hge
      · rw [Nat.toDigits_of_lt_base hlt] at h
        exact ⟨n, hlt, List.mem_singleton.mp h⟩
      · rw [Nat.toDigits_of_base_le hb hge, List.mem_append] at h
        rcases h with hfirst | hlast
        · exact ih _ (Nat.div_lt_self (by omega) hb) hfirst
        · exact ⟨n % b, Nat.mod_lt n (by omega), List.mem_singleton.mp hlast⟩

/-! ## Padding -/

theorem digitsValue_replicate_append (k : Nat) (cs : List Char) :
    digitsValue b (List.replicate k '0' ++ cs) = digitsValue b cs := by
  have hzeros : ∀ k, (List.replicate k '0').foldl (fun n c => n * b + digitValue c) 0 = 0 := by
    intro k
    induction k with
    | zero => rfl
    | succ k ih =>
        rw [List.replicate_succ, List.foldl_cons, Nat.zero_mul, Nat.zero_add]
        exact ih
  rw [digitsValue, List.foldl_append, hzeros]
  rfl

/-- Zeros on the left keep the value. -/
theorem digitsValue_leftpad (w : Nat) (cs : List Char) :
    digitsValue b (cs.leftpad w '0') = digitsValue b cs :=
  digitsValue_replicate_append ..

/-- A number that has at most `w` digits is padded to `w` digits. -/
theorem length_padded (hb : 1 < b) {w n : Nat} (hw : 0 < w) (h : n < b ^ w) :
    ((Nat.toDigits b n).leftpad w '0').length = w := by
  have hle : (Nat.toDigits b n).length ≤ w := (Nat.length_toDigits_le_iff hb hw).mpr h
  rw [List.length_leftpad]
  exact Nat.max_eq_left hle

/-- Padding adds no characters but digits. -/
theorem exists_of_mem_padded (hb : 1 < b) {w n : Nat} {c : Char}
    (h : c ∈ (Nat.toDigits b n).leftpad w '0') : ∃ d < b, c = d.digitChar := by
  rw [List.leftpad, List.mem_append] at h
  rcases h with hzero | hdigit
  · exact ⟨0, by omega, List.eq_of_mem_replicate hzero⟩
  · exact exists_of_mem_toDigits hb hdigit

theorem padded_inj (hb : 1 < b) (hle : b ≤ 16) {w m n : Nat}
    (h : (Nat.toDigits b m).leftpad w '0' = (Nat.toDigits b n).leftpad w '0') : m = n := by
  have hvalue := congrArg (digitsValue b) h
  rwa [digitsValue_leftpad, digitsValue_leftpad, digitsValue_toDigits hb hle,
    digitsValue_toDigits hb hle] at hvalue

end Digits
