import Scaffold.Operation.Perform
import Scaffold.Status
import Scaffold.Json

namespace Scaffold

open Text

-- How a system spells its paths. The octets of a path need not be text.
abbrev Spelling :=
  String → Octets

namespace Spelling

variable (spelling : Spelling)

-- A path as it is shown to people, whatever it is spelled with.
def shown (path : String) : String :=
  ofOctets (spelling path)

def text? (path : String) : Option String :=
  ofOctets? (spelling path)

end Spelling

namespace CommandLine

variable (spelling : Spelling)

def mark (present : Bool) : String :=
  if present then "✅" else "❌"

def renderSet (s : ArtifactSet) : String :=
  s.name ++ "\n" ++
  "  - Proto:   " ++ mark s.hasProtocol ++ " " ++ spelling.shown s.protocolPath ++ "\n" ++
  "  - Service: " ++ mark s.hasService ++ " " ++ spelling.shown s.servicePath ++ "\n" ++
  "  - Model:   " ++ mark s.hasModel ++ " " ++ spelling.shown s.modelPath ++ "\n\n"

def renderListing (l : Listing) : String :=
  if !l.present then "No services found (protocol directory does not exist yet).\n"
  else if l.services.isEmpty then "No services found in the project.\n"
  else "Existing services:\n\n" ++ String.join (l.services.map (renderSet spelling))

def renderSnapshot (s : Snapshot) : String :=
  "Project status:\n\n" ++
  "Server status: " ++ s.liveness.text ++ "\n" ++
  "Project root:  " ++ spelling.shown s.root ++ "\n\n" ++
  "File counts:\n" ++
  "  - Proto files:        " ++ toString s.protocols ++ "\n" ++
  "  - Service files:      " ++ toString s.services ++ "\n" ++
  "  - Model files:        " ++ toString s.models ++ "\n" ++
  "  - Generated PB files: " ++ toString s.bindings ++ "\n"

def headline : Operation → String
  | .create service => "✅ Service '" ++ service ++ "' generated successfully!"
  | .addRpc service rpc => "✅ RPC '" ++ rpc ++ "' added to service '" ++ service ++ "' successfully!"
  | .remove service => "✅ Service '" ++ service ++ "' removed successfully!"
  | .regenerate => "✅ Protocol buffer files regenerated successfully!"

-- The headline, and after an empty line what the tool wrote, if it wrote something.
def renderReport (r : Report) : String :=
  if r.output = "" then headline r.operation ++ "\n"
  else headline r.operation ++ "\n\n" ++ r.output

-- What failed, the kind of failure, and its message as it is.
def failureLine (what kind message : String) : String :=
  "❌ Failed to " ++ what ++ " [" ++ kind ++ "]:\n\n" ++ message

def renderFailure (what : String) (f : Failure) : String :=
  failureLine what f.kind f.message

-- Paths go into JSON as they are, so each of them has to be text.
def jsonOfSet? (s : ArtifactSet) : Option Json := do
  let protocolPath ← spelling.text? s.protocolPath
  let servicePath ← spelling.text? s.servicePath
  let modelPath ← spelling.text? s.modelPath
  return .object [
    ("name", .string s.name),
    ("stem", .string s.stem),
    ("protocol_path", .string protocolPath),
    ("service_path", .string servicePath),
    ("model_path", .string modelPath),
    ("has_protocol", .boolean s.hasProtocol),
    ("has_service", .boolean s.hasService),
    ("has_model", .boolean s.hasModel)]

def jsonOfListing? (l : Listing) : Option Json := do
  let services ← l.services.mapM (jsonOfSet? spelling)
  return .object [
    ("services", .array services),
    ("protocol_dir_present", .boolean l.present)]

def jsonOfSnapshot? (s : Snapshot) : Option Json := do
  let root ← spelling.text? s.root
  return .object [
    ("protocol_count", .natural s.protocols),
    ("service_stub_count", .natural s.services),
    ("model_count", .natural s.models),
    ("generated_binding_count", .natural s.bindings),
    ("server_liveness", .string s.liveness.text),
    ("project_root", .string root)]

def guideLine (p : Primitive) : String :=
  let note := if p = .timestamp then " (maps to google.protobuf.Timestamp)" else ""
  "  " ++ p.text ++ note ++ "\n"

-- The guide below its list of primitives, line by line.
def guideText : List String := [
  "  <Capitalized>  reference to another service's model, e.g. User",
  "",
  "Field formats",
  "",
  "  simple     name:type                  name:string,age:int32,is_active:bool",
  "  repeated   name:repeated type         tags:repeated string",
  "             repeated type name         repeated string tags",
  "",
  "HTTP mappings",
  "",
  "  METHOD:PATH with METHOD one of GET, POST, PUT, PATCH, DELETE.",
  "  Path placeholders \x7bfield\x7d or \x7bfield.sub\x7d must name a request field.",
  "  Body is '*' (whole request) or a request field name.",
  "",
  "Examples",
  "",
  "  protosmith create User \"name:string,email:string,age:int32,created_at:timestamp\"",
  "  protosmith create Order \"user_id:string,items:repeated string,total:float\"",
  "  protosmith add-rpc User SearchUsers \"query:string,limit:int32\" \"data:repeated User\" \\",
  "      --http \"GET:/v1/users:search\"",
  "  protosmith add-rpc Order UpsertOrder \"data:Order\" \"data:Order\" \\",
  "      --http \"PUT:/v1/orders/\x7bdata.id\x7d\" --body \"*\"",
  "  protosmith regenerate",
  "",
  "Each service owns proto/\x7bname\x7d.proto, services/\x7bname\x7d.go and models/\x7bname\x7d.go.",
  "Run \x60regenerate\x60 after creating services so bindings and gateway code follow."]

def guide : String :=
  "Field types\n\n" ++ String.join (Primitive.all.map guideLine) ++
    String.join (guideText.map fun l => l ++ "\n")

end CommandLine
end Scaffold
