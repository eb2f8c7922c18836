import Scaffold.Operation.Basic
import Scaffold.Artifact.Inventory

namespace Scaffold

open Text Log

-- What happens during an operation, as far as it can be seen from outside.
inductive Happening
  | event (e : Event)
  | launch (i : Invocation)
deriving DecidableEq, Repr

structure Outcome (α : Type) where
  result : Except Failure α
  disk : Disk
  journal : List Happening

def launches (journal : List Happening) : List Invocation :=
  journal.filterMap fun
    | .launch i => some i
    | .event _ => none

def eventsOf (journal : List Happening) : List Event :=
  journal.filterMap fun
    | .launch _ => none
    | .event e => some e

-- What a tool that succeeded wrote.
structure ToolOutput where
  stdout : String
  stderr : String
deriving DecidableEq, Repr

def toolEvent (level : Level) (message : String) (fields : List String) : Event :=
  ⟨level, "protosmith::orchestrator::invoke", message, fields⟩

-- What a launch comes to: exit status zero is success, anything else a failure with both streams.
def Launch.result (i : Invocation) : Launch → Except Failure ToolOutput
  | .failed message => .error (.notLaunched i.program message)
  | .ran r =>
    if r.ending.isSuccess then .ok ⟨ofOctets r.stdout, ofOctets r.stderr⟩
    else .error (.toolFailed r.ending.code? (ofOctets r.stdout) (ofOctets r.stderr))

def Launch.events : Launch → List Event
  | .failed _ => [toolEvent .error "failed to launch external tool" ["program", "error"]]
  | .ran r =>
    if r.ending.isSuccess then []
    else [toolEvent .warn "external tool failed" ["program", "exit_code"]]

-- Launches a tool, once.
def runTool (tool : Tool) (i : Invocation) (d : Disk) : Outcome ToolOutput :=
  let l := tool i d
  { result := l.result i
    disk := l.disk d
    journal := .event (toolEvent .debug "invoking external tool" ["command"]) :: .launch i ::
      l.events.map .event }

def operationEvent (level : Level) (message : String) (fields : List String) : Event :=
  ⟨level, "protosmith::orchestrator", message, fields⟩

namespace Task

def eventsBefore : Task → List Event
  | create .. =>
    [operationEvent .debug "parsed service" ["service", "fields"],
      operationEvent .info "creating service" ["service"]]
  | addRpc _ =>
    [operationEvent .debug "parsed rpc" ["service", "rpc", "http"],
      operationEvent .info "adding rpc" ["service", "rpc"]]
  | remove _ => [operationEvent .info "removing service" ["service"]]
  | regenerate => [operationEvent .info "regenerating protocol bindings" ["target"]]

def eventsAfter : Task → List Event
  | create .. => [operationEvent .info "service created" ["service"]]
  | addRpc _ => [operationEvent .info "rpc added" ["service", "rpc"]]
  | remove _ => [operationEvent .info "service removed" ["service"]]
  | regenerate => [operationEvent .info "protocol bindings regenerated" []]

def perform (tool : Tool) (c : Config) (t : Task) (d : Disk) : Outcome Report :=
  let o := runTool tool (t.invocation c) d
  { result := o.result.map fun out => ⟨t.operation, out.stdout⟩
    disk := o.disk
    journal := t.eventsBefore.map .event ++ o.journal ++
      (if o.result.toBool then t.eventsAfter.map .event else []) }

end Task

-- Checks a request and, unless it is refused, carries it out.
def Request.perform (tool : Tool) (c : Config) (cwd : Location) (r : Request) (d : Disk) :
    Outcome Report :=
  -- The listing is only asked for, and only logged, where the check needs it.
  let listing := Inventory.list c cwd d
  let asked := if r.asksForServices c then (Inventory.events listing).map .event else []
  match r.check c (listing.services.map ArtifactSet.stem) with
  | .error e => ⟨.error e, d, asked⟩
  | .ok t =>
    let o := t.perform tool c d
    { o with journal := asked ++ o.journal }

end Scaffold
