import Mathlib.Init

/-!
# Protocol nodes

The node tree of `wacore_binary`: a tag, attributes in the order they were
pushed, and a content.  An attribute value is a string or a JID; `as_str` writes
a JID out.  How a JID is written and what `SERVER_JID` is are wacore's, so they
are parameters (`WacoreBinary`).
-/

namespace Waepic.Binary

/-- A JID, with the fields of wacore's. -/
structure Jid where
  user : String
  server : String
  agent : Nat
  device : Nat
  integrator : Nat
deriving DecidableEq, Repr

/-- What the client uses of wacore's JIDs. -/
class WacoreBinary where
  /-- `Jid::to_string`. -/
  jidText : Jid → String
  /-- `SERVER_JID`. -/
  serverJid : String

/-- JIDs of users without agent and device, as wacore writes them. -/
@[reducible] def plainWacore : WacoreBinary where
  jidText j := if j.user = "" then j.server else j.user ++ "@" ++ j.server
  serverJid := "s.whatsapp.net"

/-- The value of an attribute. -/
inductive NodeValue where
  | string (s : String)
  | jid (j : Jid)
deriving DecidableEq, Repr

/-- `NodeValue::as_str`. -/
def NodeValue.asStr [WacoreBinary] : NodeValue → String
  | .string s => s
  | .jid j => WacoreBinary.jidText j

/-- The content of a node, over the type of its children. -/
inductive NodeContent (ν : Type) where
  | bytes (b : List UInt8)
  | string (s : String)
  | nodes (children : List ν)

/-- Attributes, in the order they were pushed. -/
abbrev Attrs := List (String × NodeValue)

inductive Node where
  | mk (tag : String) (attrs : Attrs) (content : Option (NodeContent Node))

namespace Node

def tag : Node → String
  | mk tag _ _ => tag

def attrs : Node → Attrs
  | mk _ attrs _ => attrs

/-- `node.attrs.get(key)`. -/
def attr (n : Node) (key : String) : Option NodeValue := n.attrs.lookup key

/-- `node.attrs.get(key).map(|v| v.as_str())`. -/
def attrText [WacoreBinary] (n : Node) (key : String) : Option String :=
  (n.attr key).map NodeValue.asStr

/-- The children, if the content is a list of nodes. -/
def children : Node → Option (List Node)
  | mk _ _ (some (.nodes children)) => some children
  | _ => none

/-- Some child has this tag. -/
def hasChild (n : Node) (tag : String) : Bool :=
  match n.children with
  | some children => children.any (·.tag = tag)
  | none => false

/-- `get_optional_child_by_tag(&[tag])`. -/
def child (n : Node) (tag : String) : Option Node :=
  n.children.bind fun children => children.find? (·.tag = tag)

/-! ### Redaction -/

mutual

/-- The node without the content of the `tag` nodes in it. -/
def redact (tag : String) : Node → Node
  | mk t attrs content => mk t attrs (if t = tag then none else redactOption tag content)

def redactOption (tag : String) : Option (NodeContent Node) → Option (NodeContent Node)
  | none => none
  | some content => some (redactContent tag content)

def redactContent (tag : String) : NodeContent Node → NodeContent Node
  | .bytes b => .bytes b
  | .string s => .string s
  | .nodes children => .nodes (redactList tag children)

def redactList (tag : String) : List Node → List Node
  | [] => []
  | n :: ns => redact tag n :: redactList tag ns

end

end Node

end Waepic.Binary
