import Scaffold.Artifact.Inventory

namespace Scaffold

inductive Liveness
  | running
  | error
  | unreachable
deriving DecidableEq, Repr

def Liveness.text : Liveness → String
  | running => "running"
  | error => "error"
  | unreachable => "unreachable"

structure Snapshot where
  protocols : Nat
  services : Nat
  models : Nat
  bindings : Nat
  liveness : Liveness
  root : String
deriving DecidableEq, Repr

-- A way to ask a health endpoint how its server is.
abbrev Probe :=
  String → Liveness

-- Nothing answers.
def Probe.silent : Probe :=
  fun _ => .unreachable

def Snapshot.take (probe : Probe) (c : Config) (cwd : Location) (d : Disk) : Snapshot where
  protocols := Inventory.count c cwd d .protocol
  services := Inventory.count c cwd d .service
  models := Inventory.count c cwd d .model
  bindings := Inventory.count c cwd d .binding
  liveness := probe c.healthUrl
  root := c.root

-- What a probe leaves in the log.
def Liveness.events : Liveness → List Log.Event
  | running => []
  | error => [⟨.debug, "protosmith::status", "health endpoint returned non-200", ["url", "status"]⟩]
  | unreachable => [⟨.debug, "protosmith::status", "health endpoint unreachable", ["url", "error"]⟩]

end Scaffold
