import Scaffold.Spec.Error
import Scaffold.Field.Basic
import Scaffold.Text.Blank
import Scaffold.Text.Cut

namespace Scaffold

open Text

-- Which message types a field may have: any, or only those with one of the given names, letter case
-- aside.
inductive Typing
  | lenient
  | strict (known : List String)
deriving DecidableEq, Repr

def Typing.isStrict : Typing → Bool
  | lenient => false
  | strict _ => true

def Typing.knows : Typing → String → Bool
  | lenient, _ => true
  | strict known, name => known.any fun k => lower k == lower name

namespace Field

-- The parts of a definition as they stand there, before any of them is checked.
structure Draft where
  name : List Char
  repeated : Bool
  type : List Char
deriving DecidableEq, Repr

def repeatedWord : List Char :=
  "repeated".toList

-- What follows the colon: a type, or `repeated` and a type with white space between them.
def Draft.afterColon (name rest : List Char) : Draft :=
  -- A type may begin with the word, so white space has to follow it.
  match repeatedWord.isPrefixOf rest, rest.drop repeatedWord.length with
  | true, c :: cs => if isBlank c then ⟨name, true, trim (c :: cs)⟩ else ⟨name, false, rest⟩
  | _, _ => ⟨name, false, rest⟩

-- The parts of a trimmed definition, if it has one of the three shapes.
def Draft.of? (definition : List Char) : Option Draft :=
  match cut ':' definition with
  | some (name, rest) => some (afterColon (trim name) (trim rest))
  | none =>
    match words definition with
    | [w, type, name] => if w = repeatedWord then some ⟨name, true, type⟩ else none
    | _ => none

def typeOf (typing : Typing) (definition : List Char) (name type : List Char) :
    Except SpecError FieldType :=
  let text := String.ofList type
  match Primitive.ofText? text with
  | some p => .ok (.primitive p)
  | none =>
    if !isTypeName type then .error (.malformedField (String.ofList definition) (.type text))
    else if typing.knows text then .ok (.message text)
    else .error (.unknownType (String.ofList name) text)

def Draft.check (typing : Typing) (definition : List Char) (d : Draft) : Except SpecError Field :=
  if isIdentifier d.name then do
    let type ← typeOf typing definition d.name d.type
    return ⟨String.ofList d.name, type, d.repeated⟩
  else .error (.malformedField (String.ofList definition) (.name (String.ofList d.name)))

def parseDefinition (typing : Typing) (raw : List Char) : Except SpecError Field :=
  let definition := trim raw
  if definition = [] then .error (.malformedField "" .empty)
  else match Draft.of? definition with
    | some d => d.check typing definition
    | none => .error (.malformedField (String.ofList definition) .shape)

-- All definitions are read from left to right; the first that is refused decides. A text of white
-- space alone holds none.
def parse (typing : Typing) (spec : String) : Except SpecError (List Field) :=
  if AllBlank spec.toList then .ok []
  else (spec.toList.splitOn ',').mapM (parseDefinition typing)

end Field
end Scaffold
