import Waepic.Binary.Node
import Waepic.Connection.Error

/-!
# IQ requests and responses

`send_iq` builds an `<iq>` from an `InfoQuery` under the query's own id or the
next one of the handle's counter, and turns the response node into a result: an
error node into its text, any other through the spec's parser.
-/

namespace Waepic.Connection

open Binary

inductive InfoQueryType where
  | get
  | set
deriving DecidableEq, Repr

/-- The fields of `InfoQuery` that a request carries. -/
structure InfoQuery where
  id : Option String
  namespaceName : String
  queryType : InfoQueryType
  toJid : Jid
  content : Option (NodeContent Node)

/-- An `IqSpec`: its query and whether a response parses. -/
structure IqSpec where
  query : InfoQuery
  parseResponse : Node → Except String Unit

/-- A `get` to the server whose every response parses. -/
def pingSpec (id : Option String) : IqSpec where
  query :=
    { id := id, namespaceName := "w:p", queryType := .get, content := none
      toJid :=
        { user := "", server := "s.whatsapp.net", agent := 0, device := 0, integrator := 0 } }
  parseResponse _ := .ok ()

/-- The id `next_iq_id` writes for a value of the counter. -/
def iqIdOf (counter : Nat) : String := "waepic_" ++ toString counter

/-- Build an `<iq>` node from a query and an id. -/
def buildIqNode (query : InfoQuery) (id : String) : Node :=
  let type := match query.queryType with
    | .get => "get"
    | .set => "set"
  .mk "iq"
    [("id", .string id), ("xmlns", .string query.namespaceName), ("type", .string type),
      ("to", .jid query.toJid)]
    query.content

/-- A result IQ with this id. -/
def resultIq (id : String) : Node :=
  .mk "iq" [("type", .string "result"), ("id", .string id)] none

variable [WacoreBinary]

/-- The text of an error response. -/
def iqErrorText (response : Node) : String :=
  match (response.child "error").bind (·.attrText "text") with
  | some text => text
  | none =>
      match (response.child "error").bind (·.attrText "code") with
      | some code => "error code: " ++ code
      | none => "error code: unknown error"

/-- What `send_iq` returns for a response node. -/
def iqResult (spec : IqSpec) (response : Node) : Result Unit :=
  if response.attrText "type" = some "error" then
    .error (.protocol ("IQ error: " ++ iqErrorText response))
  else
    match spec.parseResponse response with
    | .error e => .error (.protocol ("IQ parse error: " ++ e))
    | .ok () => .ok ()

end Waepic.Connection
