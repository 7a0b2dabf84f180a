import Mathlib.Data.List.Basic

/-!
# Retrying over lists of candidates

A round tries candidates in their order.  Each try is done, asks for a refresh of
the candidates, or fails so that the next one is tried; a round ends with the
first try that does not fail so (`round`).  A second round over refreshed
candidates follows if the first one ends with a refresh (`tries`).
-/

namespace Retry

inductive Verdict where
  | done
  | refresh
  | next
deriving DecidableEq

variable {ω : Type*} (verdict : ω → Verdict)

/-- The tries of a round. -/
def round : List ω → List ω
  | [] => []
  | o :: os =>
      match verdict o with
      | .next => o :: round os
      | _ => [o]

/-- The tries of two rounds. -/
def tries (first second : List ω) : List ω :=
  if (round verdict first).getLast?.any (verdict · = .refresh) then
    round verdict first ++ round verdict second
  else round verdict first

section Round

variable {verdict} {o : ω} {os : List ω}

theorem round_cons_next (h : verdict o = .next) :
    round verdict (o :: os) = o :: round verdict os := by
  rw [round, h]

theorem round_cons (h : verdict o ≠ .next) : round verdict (o :: os) = [o] := by
  rw [round]
  cases hverdict : verdict o with
  | next => exact absurd hverdict h
  | _ => rfl

/-- A refresh at the end of the first round starts the second. -/
theorem tries_refresh {first second : List ω} (hlast : (round verdict first).getLast? = some o)
    (h : verdict o = .refresh) :
    tries verdict first second = round verdict first ++ round verdict second := by
  rw [tries, hlast, if_pos (by simpa using h)]

theorem tries_no_refresh {first second : List ω}
    (hlast : (round verdict first).getLast? = some o) (h : verdict o ≠ .refresh) :
    tries verdict first second = round verdict first := by
  rw [tries, hlast, if_neg (by simpa using h)]

end Round

end Retry
