import Scaffold.Field.Basic
import Scaffold.Http.Mapping

namespace Scaffold

-- The whole request message, or one of its fields.
inductive Body
  | all
  | field (name : String)
deriving DecidableEq, Repr

def Body.text : Body → String
  | all => "*"
  | field n => n

structure Rpc where
  service : String
  name : String
  request : List Field
  response : List Field
  mapping : Mapping
  body : Option Body
deriving DecidableEq, Repr

namespace Rpc

def arguments (r : Rpc) : List String :=
  ["add-rpc", r.service, r.name, Field.textAll r.request, Field.textAll r.response,
    "http=" ++ r.mapping.text] ++ (r.body.map fun b => "body=" ++ b.text).toList

end Rpc
end Scaffold
