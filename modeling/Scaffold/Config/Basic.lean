import Scaffold.Path

namespace Scaffold

-- Where artifacts lie, relative to the project root, and how their files are called.
structure Layout where
  protoDir : String
  servicesDir : String
  modelsDir : String
  bindingsDir : String
  protoExtension : String
  sourceExtension : String
  -- Stems of protocol definitions that are no services.
  reserved : List String
deriving DecidableEq, Repr

def Layout.standard : Layout where
  protoDir := "proto"
  servicesDir := "services"
  modelsDir := "models"
  bindingsDir := "pb"
  protoExtension := "proto"
  sourceExtension := "go"
  reserved := ["health"]

structure Config where
  root : String
  layout : Layout
  codegen : String
  buildTool : String
  buildTarget : String
  healthUrl : String
  strictTypes : Bool
deriving DecidableEq, Repr

namespace Config

-- The defaults for a project. A root with no absolute form is kept as it is.
def ofRoot (cwd root : String) : Config :=
  let r := (Path.absolute? cwd root).getD root
  { root := r
    layout := .standard
    codegen := Path.join r "gen_service.sh"
    buildTool := "make"
    buildTarget := "proto"
    healthUrl := "http://localhost:8080/health"
    strictTypes := false }

def protoDir (c : Config) : String :=
  Path.join c.root c.layout.protoDir

def servicesDir (c : Config) : String :=
  Path.join c.root c.layout.servicesDir

def modelsDir (c : Config) : String :=
  Path.join c.root c.layout.modelsDir

def bindingsDir (c : Config) : String :=
  Path.join c.root c.layout.bindingsDir

end Config

-- What a file may say about the layout.
structure LayoutSettings where
  protoDir : Option String := none
  servicesDir : Option String := none
  modelsDir : Option String := none
  bindingsDir : Option String := none
  protoExtension : Option String := none
  sourceExtension : Option String := none
  reserved : Option (List String) := none
deriving DecidableEq, Repr

structure Settings where
  codegen : Option String := none
  buildTool : Option String := none
  buildTarget : Option String := none
  healthUrl : Option String := none
  strictTypes : Option Bool := none
  layout : LayoutSettings := {}
deriving DecidableEq, Repr

def Layout.apply (l : Layout) (s : LayoutSettings) : Layout where
  protoDir := s.protoDir.getD l.protoDir
  servicesDir := s.servicesDir.getD l.servicesDir
  modelsDir := s.modelsDir.getD l.modelsDir
  bindingsDir := s.bindingsDir.getD l.bindingsDir
  protoExtension := s.protoExtension.getD l.protoExtension
  sourceExtension := s.sourceExtension.getD l.sourceExtension
  reserved := s.reserved.getD l.reserved

-- Each key that is set replaces the value; a generator path is seen from the project root.
def Config.apply (c : Config) (s : Settings) : Config where
  root := c.root
  layout := c.layout.apply s.layout
  codegen := (s.codegen.map (Path.join c.root)).getD c.codegen
  buildTool := s.buildTool.getD c.buildTool
  buildTarget := s.buildTarget.getD c.buildTarget
  healthUrl := s.healthUrl.getD c.healthUrl
  strictTypes := s.strictTypes.getD c.strictTypes

-- The settings of `s`, and those of `base` where `s` is silent.
def LayoutSettings.over (s base : LayoutSettings) : LayoutSettings where
  protoDir := s.protoDir <|> base.protoDir
  servicesDir := s.servicesDir <|> base.servicesDir
  modelsDir := s.modelsDir <|> base.modelsDir
  bindingsDir := s.bindingsDir <|> base.bindingsDir
  protoExtension := s.protoExtension <|> base.protoExtension
  sourceExtension := s.sourceExtension <|> base.sourceExtension
  reserved := s.reserved <|> base.reserved

def Settings.over (s base : Settings) : Settings where
  codegen := s.codegen <|> base.codegen
  buildTool := s.buildTool <|> base.buildTool
  buildTarget := s.buildTarget <|> base.buildTarget
  healthUrl := s.healthUrl <|> base.healthUrl
  strictTypes := s.strictTypes <|> base.strictTypes
  layout := s.layout.over base.layout

-- Variables and their values.
abbrev Environment :=
  List (String × String)

-- What the environment says about the project, its root aside.
def Settings.ofEnvironment (env : Environment) : Settings where
  codegen := env.lookup "PROTOSMITH_CODEGEN"
  buildTool := env.lookup "PROTOSMITH_BUILD_TOOL"
  healthUrl := env.lookup "PROTOSMITH_HEALTH_URL"

def Config.applyEnvironment (c : Config) (env : Environment) : Config :=
  c.apply (.ofEnvironment env)

theorem Config.apply_preserves_root (c : Config) (s : Settings) : (c.apply s).root = c.root :=
  rfl

theorem Config.applyEnvironment_preserves_root (c : Config) (env : Environment) :
    (c.applyEnvironment env).root = c.root :=
  rfl

end Scaffold
