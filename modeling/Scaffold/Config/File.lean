import Scaffold.Config.Basic
import Scaffold.Toml.Reader

namespace Scaffold

open Toml

def string? : Value → Option String
  | .string s => some s
  | _ => none

def strings? : Value → Option (List String)
  | .array vs => vs.mapM string?
  | _ => none

def LayoutSettings.set (l : LayoutSettings) : String × Value → Option LayoutSettings
  | ("proto_dir", v) => (string? v).map fun s => { l with protoDir := some s }
  | ("services_dir", v) => (string? v).map fun s => { l with servicesDir := some s }
  | ("models_dir", v) => (string? v).map fun s => { l with modelsDir := some s }
  | ("bindings_dir", v) => (string? v).map fun s => { l with bindingsDir := some s }
  | ("proto_extension", v) => (string? v).map fun s => { l with protoExtension := some s }
  | ("source_extension", v) => (string? v).map fun s => { l with sourceExtension := some s }
  | ("reserved", v) => (strings? v).map fun s => { l with reserved := some s }
  | _ => none

-- The keys of a layout, in their order.
def LayoutSettings.keys : List String :=
  ["proto_dir", "services_dir", "models_dir", "bindings_dir", "proto_extension", "source_extension",
    "reserved"]

def LayoutSettings.ofValue? : Value → Option LayoutSettings
  | .table _ t => t.foldlM set {}
  | .array vs => if vs.length < keys.length then none else (keys.zip vs).foldlM set {}
  | _ => none

def Settings.set (s : Settings) : String × Value → Option Settings
  | ("codegen", v) => (string? v).map fun t => { s with codegen := some t }
  | ("build_tool", v) => (string? v).map fun t => { s with buildTool := some t }
  | ("build_target", v) => (string? v).map fun t => { s with buildTarget := some t }
  | ("health_url", v) => (string? v).map fun t => { s with healthUrl := some t }
  | ("strict_types", .boolean b) => some { s with strictTypes := some b }
  | ("layout", v) => (LayoutSettings.ofValue? v).map fun l => { s with layout := l }
  | _ => none

-- The settings that the text of a file holds.
def Settings.ofText? (text : String) : Option Settings := do
  let t ← Toml.parse? text
  t.foldlM set {}

end Scaffold
