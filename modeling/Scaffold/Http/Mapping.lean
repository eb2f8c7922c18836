import Scaffold.Spec.Error
import Scaffold.Text.Blank
import Scaffold.Text.Case
import Scaffold.Text.Cut

namespace Scaffold

open Text

inductive Verb
  | get
  | post
  | put
  | patch
  | delete
deriving DecidableEq, Repr

namespace Verb

def all : List Verb :=
  [get, post, put, patch, delete]

def text : Verb → String
  | get => "GET"
  | post => "POST"
  | put => "PUT"
  | patch => "PATCH"
  | delete => "DELETE"

def ofText? (s : String) : Option Verb :=
  all.find? fun v => v.text == upper s

end Verb

structure Mapping where
  verb : Verb
  path : String
deriving DecidableEq, Repr

namespace Mapping

def text (m : Mapping) : String :=
  m.verb.text ++ ":" ++ m.path

def parse (mapping : String) : Except SpecError Mapping :=
  match cut ':' (trim mapping.toList) with
  | none => .error (.invalidMapping mapping .shape)
  | some (verb, rest) =>
    match Verb.ofText? (String.ofList (trim verb)), trim rest with
    | none, _ => .error (.invalidMapping mapping .verb)
    | some v, '/' :: path => .ok ⟨v, String.ofList ('/' :: path)⟩
    | some _, _ => .error (.invalidMapping mapping .path)

end Mapping
end Scaffold
