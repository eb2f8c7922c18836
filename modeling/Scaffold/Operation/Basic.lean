import Scaffold.Rpc.Parser
import Scaffold.Config.Basic
import Scaffold.Tool

namespace Scaffold

open Text

inductive Request
  | create (service fields : String)
  | addRpc (spec : RpcSpec)
  | remove (service : String)
  | regenerate
deriving DecidableEq, Repr

-- A request that passed its checks.
inductive Task
  | create (service : String) (fields : List Field)
  | addRpc (rpc : Rpc)
  | remove (service : String)
  | regenerate
deriving DecidableEq, Repr

-- Which operation a report belongs to.
inductive Operation
  | create (service : String)
  | addRpc (service rpc : String)
  | remove (service : String)
  | regenerate
deriving DecidableEq, Repr

structure Report where
  operation : Operation
  -- What the tool wrote to its standard output.
  output : String
deriving DecidableEq, Repr

-- Why an operation fails: its input is refused, the tool does not succeed, or it cannot be launched.
inductive Failure
  | spec (e : SpecError)
  | emptyServiceName
  | toolFailed (code : Option Int) (stdout stderr : String)
  | notLaunched (program message : String)
deriving DecidableEq, Repr

namespace Failure

def kind : Failure → String
  | spec e => e.kind
  | emptyServiceName => "EmptyServiceName"
  | toolFailed .. => "ExternalToolFailure"
  | notLaunched .. => "InvocationError"

def message : Failure → String
  | spec e => e.message
  | emptyServiceName => "service name must not be empty"
  | toolFailed _ _ stderr => stderr
  | notLaunched _ message => message

-- The standard output of a tool that ran and failed.
def output? : Failure → Option String
  | toolFailed _ stdout _ => some stdout
  | _ => none

end Failure

-- Whether the failure is one of the input, found before any tool is launched.
def Failure.isRefusal : Failure → Bool
  | spec _ | emptyServiceName => true
  | _ => false

-- A service name stands between optional white space and is not empty.
def trimName (name : String) : Except Failure String :=
  let n := trim name.toList
  if n = [] then .error .emptyServiceName else .ok (String.ofList n)

def orFailure {α : Type} (r : Except SpecError α) : Except Failure α :=
  r.mapError .spec

-- The types that fields may have: any, or with strict types those of the listed services and, for a new
-- service, its own.
def Config.typing (c : Config) (stems : List String) (own : Option String) : Typing :=
  if c.strictTypes then .strict (stems ++ own.toList) else .lenient

namespace Request

-- The name of a service to create, checked before its fields are looked at.
def createName (service : String) : Except Failure String := do
  let name ← trimName service
  orFailure (checkIdentifier .service name)
  return name

-- Reads a request; `stems` are those of the listed services.
def check (c : Config) (stems : List String) : Request → Except Failure Task
  | create service fields => do
    let name ← createName service
    let fields ← orFailure (Field.parse (c.typing stems (some name)) fields)
    return .create name fields
  | addRpc spec => do
    let rpc ← orFailure (Rpc.parse (c.typing stems none) spec)
    return .addRpc rpc
  | remove service => do
    let name ← trimName service
    return .remove name
  | regenerate => .ok .regenerate

-- Whether a check asks which services there are.
def asksForServices (c : Config) : Request → Bool
  | create service _ => c.strictTypes && (createName service).toBool
  | addRpc _ => c.strictTypes
  | remove _ => false
  | regenerate => false

end Request

namespace Task

def operation : Task → Operation
  | create service _ => .create service
  | addRpc rpc => .addRpc rpc.service rpc.name
  | remove service => .remove service
  | regenerate => .regenerate

-- What the generator is given. Regenerating is the build tool's work.
def invocation (c : Config) : Task → Invocation
  | create service fields => ⟨c.codegen, [service, Field.textAll fields], c.root⟩
  | addRpc rpc => ⟨c.codegen, rpc.arguments, c.root⟩
  | remove service => ⟨c.codegen, ["remove", service], c.root⟩
  | regenerate => ⟨c.buildTool, [c.buildTarget], c.root⟩

end Task
end Scaffold
