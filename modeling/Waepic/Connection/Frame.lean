import Waepic.Binary.Node

/-!
# Routing a frame

What `process_incoming_frame` does with a node it has decrypted and parsed.  A
`set` IQ with an id is acknowledged, unless it brings a pair-success, and never
reaches the waiters; any other IQ resolves the waiter of its id.  Every node is
broadcast last.
-/

namespace Waepic.Connection

open Binary

variable [WacoreBinary]

/-- The effects of a frame, in the order they happen. -/
structure FrameRoute where
  /-- A second `Connected` is announced. -/
  announce : Bool
  /-- The acknowledgement that is sent. -/
  ack : Option Node
  /-- The id whose waiter gets the node. -/
  waiter : Option String
  /-- The runner is marked as logged out. -/
  logout : Bool

/-- The result IQ that acknowledges a server IQ. -/
def ackNode (id : String) : Node :=
  .mk "iq"
    [("type", .string "result"), ("id", .string id), ("to", .string WacoreBinary.serverJid)]
    none

/-- An IQ of type `set`. -/
def IsSetIq (n : Node) : Prop := n.tag = "iq" ∧ n.attrText "type" = some "set"

instance (n : Node) : Decidable (IsSetIq n) := inferInstanceAs (Decidable (_ ∧ _))

/-- `process_incoming_frame`, once the frame is a node. -/
def routeNode (n : Node) : FrameRoute :=
  if IsSetIq n then
    { announce := n.hasChild "success"
      ack := if n.hasChild "pair-success" then none else (n.attrText "id").map ackNode
      waiter := none
      logout := n.tag = "failure" }
  else
    { announce := false
      ack := none
      waiter := if n.tag = "iq" then n.attrText "id" else none
      logout := n.tag = "failure" }

/-- A node reaches the waiter of `id` exactly when it is an IQ with that id and
not a `set`. -/
theorem routeNode_waiter_iff {n : Node} {id : String} :
    (routeNode n).waiter = some id ↔
      n.tag = "iq" ∧ n.attrText "type" ≠ some "set" ∧ n.attrText "id" = some id := by
  unfold routeNode IsSetIq
  by_cases hiq : n.tag = "iq"
  · by_cases hset : n.attrText "type" = some "set"
    · simp [hiq, hset]
    · simp [hiq, hset]
  · simp [hiq]

/-- A node that reaches a waiter carries the waiter's id. -/
theorem routeNode_waiter_id {n : Node} {id : String} (h : (routeNode n).waiter = some id) :
    n.attrText "id" = some id :=
  (routeNode_waiter_iff.mp h).2.2

/-- A node that is no IQ is only broadcast. -/
theorem routeNode_of_not_iq {n : Node} (h : n.tag ≠ "iq") :
    routeNode n =
      { announce := false, ack := none, waiter := none, logout := n.tag = "failure" } := by
  unfold routeNode
  rw [if_neg fun hset => h hset.1, if_neg h]

end Waepic.Connection
