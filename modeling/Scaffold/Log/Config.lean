import Scaffold.Config.Basic
import Scaffold.Log.Event
import Scaffold.Text.Case

namespace Scaffold.Log

open Text

inductive Format
  | json
  | pretty
  | compact
deriving DecidableEq, Repr

namespace Format

def text : Format → String
  | json => "json"
  | pretty => "pretty"
  | compact => "compact"

-- A format by its name in any letter case; other names stand for the compact one.
def ofText (s : String) : Format :=
  if lower s = "json" then json
  else if lower s = "pretty" then pretty
  else compact

end Format

-- A level by its name in any letter case; other names stand for warnings.
def Level.ofText (s : String) : Level :=
  if lower s = "trace" then trace
  else if lower s = "debug" then debug
  else if lower s = "info" then info
  else if lower s = "error" then error
  else warn

structure Config where
  level : String
  format : Format
  targets : Option String
  located : Bool
deriving DecidableEq, Repr

namespace Config

-- A switch of the environment is on or off only if it says exactly so.
def switch? (s : String) : Option Bool :=
  if s = "true" then some true
  else if s = "false" then some false
  else none

def ofEnvironment (env : Environment) : Config where
  level := (env.lookup "PROTOSMITH_LOG_LEVEL").getD "warn"
  format := ((env.lookup "PROTOSMITH_LOG_FORMAT").map Format.ofText).getD .compact
  targets := env.lookup "PROTOSMITH_LOG_TARGET_FILTER"
  located := ((env.lookup "PROTOSMITH_LOG_INCLUDE_LOCATION").bind switch?).getD false

-- At least the debug level.
def verbose (c : Config) : Config :=
  if lower c.level = "trace" ∨ lower c.level = "debug" then c else { c with level := "debug" }

end Config
end Scaffold.Log
