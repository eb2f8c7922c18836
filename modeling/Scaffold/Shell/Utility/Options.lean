import Scaffold.Shell.Utility.Basic

namespace Scaffold.Shell

open Text

-- Whether an option has a value.
inductive Takes
  | nothing
  | value
  -- A value only if it is joined to the option.
  | perhaps
deriving DecidableEq

structure NamedOption where
  name : String
  -- The letter that means the same, or any other mark.
  letter : Char
  takes : Takes := .nothing

structure OptionTable where
  -- Letters, with a colon behind those that have a value, and two if it has to be joined.
  letters : String
  names : List NamedOption := []
  -- Whether options may stand behind other arguments.
  mixed : Bool := true

-- What was found: options with their values, in order, and the arguments that are none.
structure Given where
  options : List (Char × List Char) := []
  operands : List (List Char) := []

namespace Given

def has (g : Given) (letter : Char) : Bool :=
  g.options.any fun o => o.1 == letter

-- The last value of an option.
def value? (g : Given) (letter : Char) : Option (List Char) :=
  g.options.foldl (fun found o => if o.1 = letter then some o.2 else found) none

def values (g : Given) (letter : Char) : List (List Char) :=
  g.options.filterMap fun o => if o.1 = letter then some o.2 else none

-- The last one of some options that exclude each other.
def lastOf? (g : Given) (letters : List Char) : Option Char :=
  g.options.foldl (fun found o => if letters.contains o.1 then some o.1 else found) none

def add (g : Given) (letter : Char) (value : List Char) : Given :=
  { g with options := g.options ++ [(letter, value)] }

end Given

namespace OptionTable

def takes? (t : OptionTable) (c : Char) : Option Takes :=
  let rec go : List Char → Option Takes
    | [] => none
    | a :: rest =>
      if a = c ∧ a ≠ ':' then
        match rest with
        | ':' :: ':' :: _ => some .perhaps
        | ':' :: _ => some .value
        | _ => some .nothing
      else go rest
  go t.letters.toList

-- The letters of one argument; the next argument may be the value of the last letter.
def readLetters (t : OptionTable) (g : Given) :
    List Char → List (List Char) → Except (List Char) (Given × List (List Char))
  | [], rest => .ok (g, rest)
  | c :: cs, rest =>
    match t.takes? c, cs, rest with
    | none, _, _ => .error (rawOf "invalid option -- '" ++ [c, '\''])
    | some .nothing, cs, rest => readLetters t (g.add c []) cs rest
    | some .value, [], [] => .error (rawOf "option requires an argument -- '" ++ [c, '\''])
    | some .value, [], v :: rest => .ok (g.add c v, rest)
    | some _, cs, rest => .ok (g.add c cs, rest)

def inDashes (n : String) : List Char :=
  rawOf ("'--" ++ n ++ "'")

-- Marks that it is only asked what a utility does.
def aboutMark : Char := '\x1f'

-- An option by its name, or by a part of it that no other name starts with.
def readName (t : OptionTable) (g : Given) (text : List Char) (rest : List (List Char)) :
    Except (List Char) (Given × List (List Char)) :=
  let name := Text.before '=' text
  let joined : Option (List Char) := if text.contains '=' then some (text.drop (name.length + 1)) else none
  let found : List NamedOption := match t.names.filter fun o => rawOf o.name == name with
    | [] => t.names.filter fun o => name.isPrefixOf (rawOf o.name)
    | os => os
  match found with
  | [] => if name = "help".toList ∨ name = "version".toList then .ok (g.add aboutMark [], []) else
    .error (rawOf "unrecognized option '--" ++ text ++ ['\''])
  | o :: others =>
    if others.any fun p => p.letter ≠ o.letter then
      .error (rawOf "option '--" ++ text ++ rawOf "' is ambiguous; possibilities:" ++
        found.flatMap fun p => ' ' :: inDashes p.name)
    else match o.takes, joined, rest with
      | .nothing, some _, _ => .error (rawOf "option " ++ inDashes o.name ++ rawOf " doesn't allow an argument")
      | .nothing, none, rest => .ok (g.add o.letter [], rest)
      | .perhaps, v, rest => .ok (g.add o.letter (v.getD []), rest)
      | .value, some v, rest => .ok (g.add o.letter v, rest)
      | .value, none, v :: rest => .ok (g.add o.letter v, rest)
      | .value, none, [] => .error (rawOf "option " ++ inDashes o.name ++ rawOf " requires an argument")

def readFrom (t : OptionTable) : Nat → Given → List (List Char) → Except (List Char) Given
  | 0, g, args => .ok { g with operands := g.operands ++ args }
  | n + 1, g, args =>
    match args with
    | [] => .ok g
    | ['-', '-'] :: rest => .ok { g with operands := g.operands ++ rest }
    | ('-' :: '-' :: name) :: rest =>
      match t.readName g name rest with
      | .ok (g, rest) => readFrom t n g rest
      | .error e => .error e
    | ('-' :: c :: cs) :: rest =>
      match t.readLetters g (c :: cs) rest with
      | .ok (g, rest) => readFrom t n g rest
      | .error e => .error e
    | a :: rest =>
      if t.mixed then readFrom t n { g with operands := g.operands ++ [a] } rest
      else .ok { g with operands := g.operands ++ args }

-- Tells options from other arguments, or says what is wrong with them.
def read (t : OptionTable) (args : List (List Char)) : Except (List Char) Given :=
  t.readFrom (args.length + 1) {} args

end OptionTable

-- Says how more can be learnt about a utility.
def Call.hint (c : Call) : Action Unit :=
  Shell.complain (rawOf "Try '" ++ c.name ++ rawOf " --help' for more information.")

-- Complains about the arguments of a utility.
def Call.misused (c : Call) (status : Nat) (text : List Char) : Action Nat := do
  c.complain text
  c.hint
  return status

-- Runs a utility with its options, or complains about them.
def Call.withOptions (c : Call) (failure : Nat) (t : OptionTable) (f : Given → Action Nat) : Action Nat :=
  match t.read c.arguments with
  | .ok g => do
    if g.has OptionTable.aboutMark then
      emitLine c.name
      return 0
    f g
  | .error e => c.misused failure e

end Scaffold.Shell
