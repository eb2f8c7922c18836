import Scaffold.CommandLine.Render

namespace Scaffold

-- Why a field definition is refused.
inductive FieldFault.Reason : FieldFault → String → Prop
  | empty : Reason .empty "empty field definition"
  | shape : Reason .shape "expected 'name:type', 'name:repeated type' or 'repeated type name'"
  | name {name : String} : Reason (.name name) ("invalid field name '" ++ name ++ "'")
  | type {type : String} :
      Reason (.type type) ("type '" ++ type ++ "' is neither a primitive nor a capitalized message type")

theorem FieldFault.reason_message (fault : FieldFault) : fault.Reason fault.message := by
  cases fault <;> constructor

inductive MappingFault.Reason : MappingFault → String → Prop
  | shape : Reason .shape "expected METHOD:PATH"
  | verb : Reason .verb "method must be one of GET, POST, PUT, PATCH, DELETE"
  | path : Reason .path "path must start with '/'"
  | unbalanced : Reason .unbalanced "unbalanced '\x7b' or '\x7d' in path"
  | emptyPlaceholder : Reason .emptyPlaceholder "empty path placeholder"

theorem MappingFault.reason_message (fault : MappingFault) : fault.Reason fault.message := by
  cases fault <;> constructor

-- The kind of an error and its text, which quotes what is wrong.
inductive SpecError.Says : SpecError → String → String → Prop
  | malformedField {definition reason : String} {fault : FieldFault} :
      fault.Reason reason →
      Says (.malformedField definition fault) "MalformedFieldSpec"
        ("malformed field spec '" ++ definition ++ "': " ++ reason)
  | unknownType {field type : String} :
      Says (.unknownType field type) "UnknownFieldType"
        ("unknown type '" ++ type ++ "' for field '" ++ field ++ "' (not a primitive or a known service)")
  | invalidMapping {mapping reason : String} {fault : MappingFault} :
      fault.Reason reason →
      Says (.invalidMapping mapping fault) "InvalidHttpMapping" ("invalid HTTP mapping '" ++ mapping ++ "': " ++ reason)
  | unboundParameter {path name : String} :
      Says (.unboundParameter path name) "UnboundPathParameter"
        ("path '" ++ path ++ "' references '\x7b" ++ name ++ "\x7d' but no request field is named '" ++ name ++ "'")
  | invalidBody {selector : String} :
      Says (.invalidBody selector) "InvalidBodySelector"
        ("invalid body selector '" ++ selector ++ "': expected '*' or a request field name")
  | invalidService {value : String} :
      Says (.invalidIdentifier .service value) "InvalidIdentifier"
        ("invalid service name '" ++ value ++ "': expected an identifier")
  | invalidRpc {value : String} :
      Says (.invalidIdentifier .rpc value) "InvalidIdentifier"
        ("invalid RPC name '" ++ value ++ "': expected an identifier")

theorem SpecError.says_message (e : SpecError) : e.Says e.kind e.message := by
  cases e
  case malformedField _ fault => exact .malformedField fault.reason_message
  case invalidMapping _ fault => exact .invalidMapping fault.reason_message
  case invalidIdentifier role _ => cases role <;> constructor
  all_goals constructor

-- Before a tool is launched.
inductive Failure.Refuses : Failure → String → String → Prop
  | emptyServiceName : Refuses .emptyServiceName "EmptyServiceName" "service name must not be empty"
  | spec {e : SpecError} {kind text : String} : e.Says kind text → Refuses (.spec e) kind text

theorem Failure.refuses_message {f : Failure} (h : f.isRefusal = true) : f.Refuses f.kind f.message := by
  cases f
  case spec e           => exact .spec e.says_message
  case emptyServiceName => exact .emptyServiceName
  all_goals contradiction

-- The line that tells that an operation has succeeded.
inductive Operation.Headline : Operation → String → Prop
  | create {service : String} :
      Headline (.create service) ("✅ Service '" ++ service ++ "' generated successfully!")
  | addRpc {service rpc : String} :
      Headline (.addRpc service rpc) ("✅ RPC '" ++ rpc ++ "' added to service '" ++ service ++ "' successfully!")
  | remove {service : String} :
      Headline (.remove service) ("✅ Service '" ++ service ++ "' removed successfully!")
  | regenerate : Headline .regenerate "✅ Protocol buffer files regenerated successfully!"

theorem Operation.headline_headline (operation : Operation) : operation.Headline (CommandLine.headline operation) := by
  cases operation <;> constructor

end Scaffold
