import Scaffold.Rpc.Basic
import Scaffold.Field.Parser
import Scaffold.Http.Template

namespace Scaffold

open Text

-- An RPC as it is asked for, all parts still text.
structure RpcSpec where
  service : String
  rpc : String
  request : String
  response : String
  http : String
  body : Option String
deriving DecidableEq, Repr

def checkIdentifier (role : NameRole) (value : String) : Except SpecError Unit :=
  if isIdentifier value.toList then .ok () else .error (.invalidIdentifier role value)

-- The first part of a dotted field path.
def rootField (parameter : String) : String :=
  String.ofList (before '.' parameter.toList)

def checkBound (request : List Field) (path : String) (parameter : String) :
    Except SpecError Unit :=
  if Field.named request (rootField parameter) then .ok ()
  else .error (.unboundParameter path (rootField parameter))

-- A blank selector selects nothing.
def Body.parse (request : List Field) (selector : Option String) :
    Except SpecError (Option Body) :=
  match selector.map fun s => String.ofList (trim s.toList) with
  | none => .ok none
  | some "" => .ok none
  | some "*" => .ok (some .all)
  | some s => if Field.named request s then .ok (some (.field s)) else .error (.invalidBody s)

namespace Rpc

def parse (typing : Typing) (s : RpcSpec) : Except SpecError Rpc := do
  checkIdentifier .service s.service
  checkIdentifier .rpc s.rpc
  let request ← Field.parse typing s.request
  let response ← Field.parse typing s.response
  let mapping ← Mapping.parse s.http
  -- All placeholders are read before the first of them is looked up.
  let parameters ← Template.parameters mapping.path
  parameters.forM (checkBound request mapping.path)
  let body ← Body.parse request s.body
  return ⟨s.service, s.rpc, request, response, mapping, body⟩

end Rpc
end Scaffold
