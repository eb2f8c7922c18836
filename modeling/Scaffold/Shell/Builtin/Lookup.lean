import Scaffold.Shell.Builtin.Basic
import Scaffold.Shell.Parser
import Scaffold.Shell.Program

namespace Scaffold.Shell

open Text

-- The commands of the shell that are no special ones.
def regularBuiltins : List String :=
  ["[", "alias", "bg", "cd", "chdir", "command", "echo", "false", "fg", "getopts", "hash", "jobs", "kill", "printf",
    "pwd", "read", "test", "true", "type", "ulimit", "umask", "unalias", "wait"]

def isSpecialBuiltin (name : List Char) : Bool :=
  specialBuiltins.contains (String.ofList name)

def isBuiltin (name : List Char) : Bool :=
  isSpecialBuiltin name || regularBuiltins.contains (String.ofList name)

namespace Builtin

-- An alias in the form in which a shell reads it.
def aliasText (name value : List Char) : List Char :=
  name ++ '=' :: quotedText value

def aliasSlots : Nat := 39

-- Sets and shows what names stand for.
def alias' : Builtin := fun args => do
  setStatus 0
  if args.isEmpty then
    for (name, value) in State.bySlot aliasSlots (← get).aliases do sayLine (aliasText name value)
  for a in args do
    match Text.cut '=' (a.drop 1) with
    | some (front, value) =>
      let name := a.take 1 ++ front
      modify fun s =>
        if (s.aliases.lookup name).isSome then
          { s with aliases := s.aliases.map fun e => if e.1 = name then (name, value) else e }
        else { s with aliases := s.aliases ++ [(name, value)] }
    | none =>
      match (← get).aliases.lookup a with
      | some value => sayLine (aliasText a value)
      | none => do
        act (complain (rawOf "alias: " ++ a ++ rawOf " not found"))
        setStatus 1

def unalias : Builtin := fun args => do
  let (os, args) ← optionsOf "a" args
  setStatus 0
  if !os.isEmpty then modify fun s => { s with aliases := [] }
  else
    for a in args do
      if ((← get).aliases.lookup a).isSome then
        modify fun s => { s with aliases := s.aliases.filter fun e => e.1 ≠ a }
      else
        act (complain (rawOf "unalias: " ++ a ++ rawOf " not found"))
        setStatus 1

-- What a name stands for.
inductive Meaning
  | keyword
  | aliased (text : List Char)
  | function
  | builtin (special : Bool)
  | program (path : List Char) (tracked : Bool)
  | nothing

-- What a name stands for; programs are looked for in `search`, if the usual places do not count.
def meaning (s : State) (search : Option (List Char)) (name : List Char) : Meaning :=
  if keywords.contains (String.ofList name) then .keyword
  else match s.aliases.lookup name with
    | some text => .aliased text
    | none =>
      if search.isNone && (s.functions.lookup name).isSome then .function
      else if isBuiltin name then .builtin (isSpecialBuiltin name)
      else if name.contains '/' then (if s.holds name then .program name false else .nothing)
      else match programPath? s.disk s.cwd (search.getD s.search) name with
        | some path => .program path (search.isNone && s.tracked.contains name)
        | none => .nothing

-- Says in a sentence what a name stands for.
def describe (search : Option (List Char)) (name : List Char) : Exec Unit := do
  match meaning (← get) search name with
  | .keyword => sayLine (name ++ rawOf " is a shell keyword")
  | .aliased text => sayLine (name ++ rawOf " is an alias for " ++ text)
  | .function => sayLine (name ++ rawOf " is a shell function")
  | .builtin special =>
    sayLine (name ++ rawOf (if special then " is a special shell builtin" else " is a shell builtin"))
  | .program path tracked => sayLine (name ++ rawOf (if tracked then " is a tracked alias for " else " is ") ++ path)
  | .nothing => do
    sayLine (name ++ rawOf ": not found")
    setStatus 127

-- Shows in short what a name stands for.
def locate (search : Option (List Char)) (name : List Char) : Exec Unit := do
  match meaning (← get) search name with
  | .aliased text => sayLine (rawOf "alias " ++ aliasText name text)
  | .program path _ => sayLine path
  | .nothing => setStatus 127
  | _ => sayLine name

def type' : Builtin := fun args => do
  let args ← operands args
  setStatus 0
  for a in args do describe none a

-- A command that is only looked for.
def command' : Builtin := fun args => do
  let (os, args) ← optionsOf "pvV" args
  let search := if os.any fun o => o.1 == 'p' then some standardSearch else none
  setStatus 0
  match args with
  | name :: _ =>
    if os.any fun o => o.1 == 'V' then describe search name
    else if os.any fun o => o.1 == 'v' then locate search name
  | [] => pure ()

-- Remembers where a program was found.
def track (name : List Char) : Exec Unit :=
  modify fun s => if s.tracked.contains name then s else { s with tracked := s.tracked ++ [name] }

def hash : Builtin := fun args => do
  let (os, args) ← optionsOf "rv" args
  setStatus 0
  if os.any fun o => o.1 == 'r' then modify fun s => { s with tracked := [] }
  else
    let s ← get
    if args.isEmpty then
      for (name, _) in State.bySlot State.programSlots (s.tracked.map fun n => (n, ())) do
        match programPath? s.disk s.cwd s.search name with
        | some path => sayLine path
        | none => pure ()
    for name in args do
      if (s.functions.lookup name).isNone ∧ !isBuiltin name then
        if name.contains '/' then pure ()
        else match programPath? s.disk s.cwd s.search name with
          | some _ => track name
          | none => do
            warn (name ++ rawOf ": not found")
            setStatus 1

end Builtin
end Scaffold.Shell
