import Scaffold.CommandLine.Render
import Scaffold.CommandLine.Parser
import Scaffold.Config.Resolve
import Scaffold.Log.Filter

namespace Scaffold

open Text

-- Why a run comes to no result.
inductive RunError
  | unresolved (e : ConfigError)
  -- A path in the output is no text. The events were logged before.
  | unserialized (events : List Log.Event)
deriving DecidableEq, Repr

-- The error as it is shown, with the paths in it.
def ConfigError.shown (spelling : Spelling) : ConfigError → ConfigError
  | unreadable path => unreadable (spelling.shown path)
  | malformed path => malformed (spelling.shown path)
  | missing path => missing (spelling.shown path)
  | invalidUrl url fault => invalidUrl url fault

namespace RunError

def chain (spelling : Spelling) : RunError → String
  | unresolved e => (e.shown spelling).chain
  | unserialized _ => "path contains invalid UTF-8 characters"

def events : RunError → List Log.Event
  | unresolved _ => []
  | unserialized es => es

end RunError

-- What a run shows and leaves behind.
structure Result where
  exitCode : Nat
  stdout : String
  stderr : String
  disk : Disk
  journal : List Happening

namespace Result

def success (stdout : String) (d : Disk) (events : List Log.Event) : Result :=
  ⟨0, stdout, "", d, events.map .event⟩

-- What was looked at is shown, if it can be.
def ofOutput (output : Option String) (d : Disk) (events : List Log.Event) : Except RunError Result :=
  match output with
  | some text => .ok (.success text d events)
  | none => .error (.unserialized events)

-- What is shown of an operation: a report, or the tool's output and the reason why it failed.
def ofOutcome (what : String) (o : Outcome Report) : Result :=
  match o.result with
  | .ok r => ⟨0, CommandLine.renderReport r, "", o.disk, o.journal⟩
  | .error f =>
    ⟨1, f.output?.getD "", CommandLine.renderFailure what f ++ "\n", o.disk, o.journal⟩

end Result

-- What a command tries to do, as it is said when it fails, and the request that does it.
def Command.request? : Command → Option (String × Request)
  | .create service fields _ => some ("generate service '" ++ service ++ "'", .create service fields)
  | .addRpc spec _ =>
    some ("add RPC '" ++ spec.rpc ++ "' to service '" ++ spec.service ++ "'", .addRpc spec)
  | .remove service => some ("remove service '" ++ service ++ "'", .remove service)
  | .regenerate => some ("regenerate proto files", .regenerate)
  | _ => none

def Command.isStrict : Command → Bool
  | .create _ _ strict => strict
  | .addRpc _ strict => strict
  | _ => false

-- What a run needs from outside: its tools, a way to ask a server how it is, and how its system spells paths.
structure World where
  tool : Tool
  probe : Probe
  spelling : Spelling

namespace CommandLine

-- Carries out a command under a configuration.
def runWith (w : World) (s : Session) (d : Disk) (config : Config) (command : Command) : Except RunError Result :=
  match command.request?, command with
  | some (what, request), _ => .ok (.ofOutcome what (request.perform w.tool config s.cwd d))
  | none, .list json =>
    let listing := Inventory.list config s.cwd d
    let output :=
      if json then (jsonOfListing? w.spelling listing).map fun v => v.text ++ "\n"
      else some (renderListing w.spelling listing)
    Result.ofOutput output d (Inventory.events listing)
  | none, .status json =>
    let snapshot := Snapshot.take w.probe config s.cwd d
    let output :=
      if json then (jsonOfSnapshot? w.spelling snapshot).map fun v => v.text ++ "\n"
      else some (renderSnapshot w.spelling snapshot)
    Result.ofOutput output d snapshot.liveness.events
  | none, _ => .ok (.success "" d [])

-- Runs a command line. The guide asks for no configuration; a strict command makes types strict.
def run (w : World) (s : Session) (d : Disk) (c : CommandLine) : Except RunError Result :=
  if c.command = .guide then .ok (.success guide d [])
  else do
    let config ← (Config.resolve s d c.root c.config).mapError .unresolved
    let config := { config with strictTypes := config.strictTypes || c.command.isStrict }
    runWith w s d config c.command

-- The whole of a run, with the events that were logged.
structure Execution where
  exitCode : Nat
  stdout : String
  stderr : String
  disk : Disk
  log : List Log.Event
  -- Whether each line of the log says where it comes from.
  located : Bool

def logConfig (s : Session) (c : CommandLine) : Log.Config :=
  let base := Log.Config.ofEnvironment s.env
  if c.verbose then base.verbose else base

def execute (w : World) (s : Session) (d : Disk) (args : List String) : Execution :=
  match parse args with
  | .error .version => ⟨0, versionText, "", d, [], false⟩
  | .error u => ⟨u.exitCode, "", "", d, [], false⟩
  | .ok c =>
    let log := logConfig s c
    let warnings := Log.Filter.warnings log
    let filter := Log.Filter.ofConfig s.env log
    match run w s d c with
    | .error e =>
      ⟨1, "", warnings ++ "error: " ++ e.chain w.spelling ++ "\n", d, e.events.filter filter.passes, log.located⟩
    | .ok r =>
      ⟨r.exitCode, r.stdout, warnings ++ r.stderr, r.disk, (eventsOf r.journal).filter filter.passes, log.located⟩

end CommandLine
end Scaffold
