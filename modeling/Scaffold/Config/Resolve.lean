import Scaffold.Config.File
import Scaffold.Disk.Walk
import Scaffold.Url.Basic

namespace Scaffold

open Text

-- Where a process starts: its working directory and its environment.
structure Session where
  cwd : Location
  env : Environment
deriving Repr

inductive ConfigError
  | unreadable (path : String)
  | malformed (path : String)
  | missing (path : String)
  | invalidUrl (url : String) (fault : UrlFault)
deriving DecidableEq, Repr

namespace ConfigError

def message : ConfigError → String
  | unreadable p => "Failed to read config: " ++ p
  | malformed p => "Failed to parse config: " ++ p
  | missing p => "Config file not found: " ++ p
  | invalidUrl u _ => "Invalid health URL: " ++ u

-- The message with the cause of the error behind it, where the cause is known.
def chain (e : ConfigError) : String :=
  match e with
  | invalidUrl _ f => e.message ++ ": " ++ f.message
  | _ => e.message

end ConfigError

namespace Config

def validate (c : Config) : Except ConfigError Unit :=
  (Url.check c.healthUrl).mapError (.invalidUrl c.healthUrl)

-- The settings in a file, `none` if there is no such file.
def load (cwd : Location) (d : Disk) (path : String) : Except ConfigError (Option Settings) :=
  if !d.holds cwd path then .ok none
  else match d.read cwd path with
    | .error _ => .error (.unreadable path)
    | .ok content =>
      match ofOctets? content with
      | none => .error (.unreadable path)
      | some text =>
        match Settings.ofText? text with
        | none => .error (.malformed path)
        | some s => .ok (some s)

def fileName : String :=
  "protosmith.toml"

-- The root of a project, if it is not given: what the environment says, or the current directory.
def rootOf (s : Session) (root : Option String) : String :=
  (root <|> s.env.lookup "PROTOSMITH_ROOT").getD (Disk.pathOf s.cwd)

-- The settings of the file that is given, which has to exist, or of the default one.
def loadFor (s : Session) (d : Disk) (root : String) : Option String → Except ConfigError (Option Settings)
  | none => load s.cwd d (Path.join root fileName)
  | some path => do
    match ← load s.cwd d path with
    | none => throw (.missing path)
    | some settings => return some settings

def resolve (s : Session) (d : Disk) (root file : Option String) : Except ConfigError Config := do
  -- From the weakest layer to the strongest one.
  let base := ofRoot (Disk.pathOf s.cwd) (rootOf s root)
  let settings ← loadFor s d base.root file
  let c := (base.apply (settings.getD {})).applyEnvironment s.env
  validate c
  return c

end Config
end Scaffold
