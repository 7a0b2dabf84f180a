import Waepic.Connection.Iq

/-!
# Calls on a connection handle

A call of `send_node` queues a command and awaits the answer of the runner for
thirty seconds.  A call of `send_iq` first registers a waiter under the id of
its request, then sends the request as a node, then awaits the response of the
server.  Both answers come through a oneshot channel (`Slot`).

A call is a record that moves through `CallStage`; it stays after it returned,
so that the commands and waiters it left behind still name it.  `sent` is a
history: what its `send_node` returned.
-/

namespace Waepic.Connection

open Binary

/-- The receiving end of a oneshot channel. -/
inductive Slot (α : Type) where
  /-- The sender is alive and has sent nothing. -/
  | empty
  | filled (a : α)
  /-- The sender was dropped. -/
  | closed
deriving DecidableEq, Repr

/-- `sender.send(a)`. -/
def Slot.fill {α : Type} : Slot α → α → Slot α
  | .empty, a => .filled a
  | slot, _ => slot

/-- The sender is dropped. -/
def Slot.close {α : Type} : Slot α → Slot α
  | .empty => .closed
  | slot => slot

theorem Slot.fill_of_ne_empty {α : Type} {slot : Slot α} (h : slot ≠ .empty) (a : α) :
    slot.fill a = slot := by
  cases slot with
  | empty => exact absurd rfl h
  | filled _ => rfl
  | closed => rfl

theorem Slot.close_of_ne_empty {α : Type} {slot : Slot α} (h : slot ≠ .empty) :
    slot.close = slot := by
  cases slot with
  | empty => exact absurd rfl h
  | filled _ => rfl
  | closed => rfl

abbrev CallId := Nat

inductive CallStage where
  /-- The node is built. -/
  | created
  /-- The waiter of an IQ is registered. -/
  | registered
  /-- `send_node` awaits the runner's answer. -/
  | sending
  /-- `send_iq` awaits the response. -/
  | awaiting
  | returned (r : Result Unit)
  /-- The future was dropped. -/
  | dropped

/-- The call has neither returned nor been dropped. -/
def CallStage.InFlight : CallStage → Prop
  | .returned _ => False
  | .dropped => False
  | _ => True

/-- A call of `send_node`, or of `send_iq` if `iq` is its id and spec. -/
structure Call where
  node : Node
  iq : Option (String × IqSpec)
  stage : CallStage
  sendResult : Slot (Result Unit)
  response : Slot (Result Node)
  sent : Option (Result Unit)

def Call.iqId (call : Call) : Option String := call.iq.map Prod.fst

/-- A call of `send_node`. -/
def Call.ofNode (node : Node) : Call where
  node := node
  iq := none
  stage := .created
  sendResult := .empty
  response := .empty
  sent := none

/-- A call of `send_iq` that uses `id`. -/
def Call.ofIq (spec : IqSpec) (id : String) : Call where
  node := buildIqNode spec.query id
  iq := some (id, spec)
  stage := .created
  sendResult := .empty
  response := .empty
  sent := none

def sendTimedOut : ConnectionError := .protocol "send_node timed out"

def iqTimedOut : ConnectionError := .protocol "IQ timed out"

/-- `send_node` returns `r`: `send_node` ends, and `send_iq` ends unless it is
`Ok`. -/
def Call.sendReturned (call : Call) (r : Result Unit) : Call :=
  { call with
    sent := some r
    stage :=
      match call.iq, r with
      | some _, .ok () => .awaiting
      | _, _ => .returned r }

/-- What a received response makes of a `send_iq`. -/
def Call.responded [WacoreBinary] (call : Call) (r : Result Node) : Result Unit :=
  match r, call.iq with
  | .ok node, some (_, spec) => iqResult spec node
  | .ok _, none => .ok ()
  | .error e, _ => .error e

end Waepic.Connection
