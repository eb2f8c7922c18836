namespace Scaffold

-- What is wrong with one field definition.
inductive FieldFault
  | empty
  | shape
  | name (name : String)
  | type (type : String)
deriving DecidableEq, Repr

def FieldFault.message : FieldFault → String
  | empty => "empty field definition"
  | shape => "expected 'name:type', 'name:repeated type' or 'repeated type name'"
  | name n => "invalid field name '" ++ n ++ "'"
  | type t => "type '" ++ t ++ "' is neither a primitive nor a capitalized message type"

-- What is wrong with an HTTP mapping, or with the path in it.
inductive MappingFault
  | shape
  | verb
  | path
  | unbalanced
  | emptyPlaceholder
deriving DecidableEq, Repr

def MappingFault.message : MappingFault → String
  | shape => "expected METHOD:PATH"
  | verb => "method must be one of GET, POST, PUT, PATCH, DELETE"
  | path => "path must start with '/'"
  | unbalanced => "unbalanced '\x7b' or '\x7d' in path"
  | emptyPlaceholder => "empty path placeholder"

-- What a name that must be an identifier names.
inductive NameRole
  | service
  | rpc
deriving DecidableEq, Repr

def NameRole.message : NameRole → String
  | service => "service name"
  | rpc => "RPC name"

inductive SpecError
  | malformedField (definition : String) (fault : FieldFault)
  | unknownType (field type : String)
  | invalidMapping (mapping : String) (fault : MappingFault)
  | unboundParameter (path parameter : String)
  | invalidBody (selector : String)
  | invalidIdentifier (role : NameRole) (value : String)
deriving DecidableEq, Repr

namespace SpecError

def kind : SpecError → String
  | malformedField .. => "MalformedFieldSpec"
  | unknownType .. => "UnknownFieldType"
  | invalidMapping .. => "InvalidHttpMapping"
  | unboundParameter .. => "UnboundPathParameter"
  | invalidBody .. => "InvalidBodySelector"
  | invalidIdentifier .. => "InvalidIdentifier"

-- The wording around a reason, or around what a name names.
def malformedText (definition reason : String) : String :=
  "malformed field spec '" ++ definition ++ "': " ++ reason

def mappingText (mapping reason : String) : String :=
  "invalid HTTP mapping '" ++ mapping ++ "': " ++ reason

def identifierText (what value : String) : String :=
  "invalid " ++ what ++ " '" ++ value ++ "': expected an identifier"

def message : SpecError → String
  | malformedField d f => malformedText d f.message
  | unknownType f t =>
    "unknown type '" ++ t ++ "' for field '" ++ f ++ "' (not a primitive or a known service)"
  | invalidMapping m f => mappingText m f.message
  | unboundParameter p n =>
    "path '" ++ p ++ "' references '\x7b" ++ n ++ "\x7d' but no request field is named '" ++ n ++ "'"
  | invalidBody s => "invalid body selector '" ++ s ++ "': expected '*' or a request field name"
  | invalidIdentifier r v => identifierText r.message v

end SpecError
end Scaffold
