import Scaffold.Text.Case

namespace Scaffold

open Text

inductive Primitive
  | string
  | int32
  | int64
  | bool
  | float
  | double
  | timestamp
  | bytes
deriving DecidableEq, Repr

namespace Primitive

-- Every primitive, in the order the guide shows them.
def all : List Primitive :=
  [string, int32, int64, bool, float, double, timestamp, bytes]

theorem mem_all (p : Primitive) : p ∈ all := by
  cases p <;> decide

def text : Primitive → String
  | string => "string"
  | int32 => "int32"
  | int64 => "int64"
  | bool => "bool"
  | float => "float"
  | double => "double"
  | timestamp => "timestamp"
  | bytes => "bytes"

-- The type that values have in a protocol definition.
def wireType : Primitive → String
  | timestamp => "google.protobuf.Timestamp"
  | p => p.text

-- Spellings are case-sensitive: `String` is no primitive.
def ofText? (s : String) : Option Primitive :=
  all.find? fun p => p.text == s

theorem text_injective {p q : Primitive} (h : p.text = q.text) : p = q := by
  revert h; cases p <;> cases q <;> decide

theorem ofText?_eq_some_iff {s : String} {p : Primitive} : ofText? s = some p ↔ s = p.text := by
  constructor
  · intro h
    have h := List.find?_some (p := fun q : Primitive => q.text == s) h
    exact (eq_of_beq h).symm
  · rintro rfl
    cases p <;> rfl

end Primitive

-- A primitive, or the message that another service's model is.
inductive FieldType
  | primitive (p : Primitive)
  | message (name : String)
deriving DecidableEq, Repr

namespace FieldType

def text : FieldType → String
  | primitive p => p.text
  | message n => n

def message? : FieldType → Option String
  | primitive _ => none
  | message n => some n

def WellFormed : FieldType → Prop
  | primitive _ => True
  | message n => isTypeName n.toList = true

instance : DecidablePred WellFormed
  | primitive _ => inferInstanceAs (Decidable True)
  | message _ => inferInstanceAs (Decidable (_ = true))

end FieldType

structure Field where
  name : String
  type : FieldType
  repeated : Bool
deriving DecidableEq, Repr

namespace Field

def text (f : Field) : String :=
  f.name ++ (if f.repeated then ":repeated " else ":") ++ f.type.text

def textAll (fs : List Field) : String :=
  ",".intercalate (fs.map text)

structure WellFormed (f : Field) : Prop where
  name : isIdentifier f.name.toList = true
  type : f.type.WellFormed

instance : DecidablePred WellFormed := fun f =>
  decidable_of_iff (isIdentifier f.name.toList = true ∧ f.type.WellFormed)
    ⟨fun h => ⟨h.1, h.2⟩, fun h => ⟨h.1, h.2⟩⟩

-- Whether one of the fields has this name.
def named (fs : List Field) (name : String) : Bool :=
  fs.any fun f => f.name == name

theorem named_iff {fs : List Field} {name : String} :
    named fs name = true ↔ ∃ f ∈ fs, f.name = name := by
  simp [named]

end Field
end Scaffold
