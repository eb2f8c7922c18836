import Scaffold.CommandLine.Basic
import Scaffold.Text.Cut

namespace Scaffold.CommandLine

open Text

-- The names of the commands.
inductive Name
  | list
  | create
  | addRpc
  | remove
  | regenerate
  | status
  | guide
deriving DecidableEq, Repr

namespace Name

def all : List Name :=
  [list, create, addRpc, remove, regenerate, status, guide]

def text : Name → String
  | list => "list"
  | create => "create"
  | addRpc => "add-rpc"
  | remove => "remove"
  | regenerate => "regenerate"
  | status => "status"
  | guide => "guide"

def ofText? (s : String) : Option Name :=
  all.find? fun n => n.text == s

-- How many arguments that are no options a command takes.
def capacity : Name → Nat
  | create => 2
  | addRpc => 4
  | remove => 1
  | _ => 0

end Name

-- Options that take a value.
inductive Setting
  | root
  | config
  | http
  | body
deriving DecidableEq, Repr

inductive Flag
  | verbose
  | json
  | strict
  | help
  | version
deriving DecidableEq, Repr

-- Before the command, or among its arguments.
inductive Level
  | outer
  | inner (n : Name)
deriving DecidableEq, Repr

namespace Level

def setting? : Level → String → Option Setting
  | _, "root" => some .root
  | _, "config" => some .config
  | inner .addRpc, "http" => some .http
  | inner .addRpc, "body" => some .body
  | _, _ => none

def flag? : Level → String → Option Flag
  | _, "verbose" => some .verbose
  | _, "help" => some .help
  | outer, "version" => some .version
  | inner .list, "json" => some .json
  | inner .status, "json" => some .json
  | inner .create, "strict" => some .strict
  | inner .addRpc, "strict" => some .strict
  | _, _ => none

def shortFlag? : Level → Char → Option Flag
  | _, 'v' => some .verbose
  | _, 'h' => some .help
  | outer, 'V' => some .version
  | _, _ => none

def capacity : Level → Nat
  | outer => 0
  | inner n => n.capacity

end Level

-- What one level was given so far. A setting whose value is due, or has just been given, is pending: it
-- takes effect with the next argument that is understood, or at the end of its level.
structure Given where
  root : Option String := none
  config : Option String := none
  http : Option String := none
  body : Option String := none
  verbose : Bool := false
  json : Bool := false
  strict : Bool := false
  arguments : List String := []
  pending : Option (Setting × Option String) := none
deriving DecidableEq, Repr

namespace Given

def get? (g : Given) : Setting → Option String
  | .root => g.root
  | .config => g.config
  | .http => g.http
  | .body => g.body

-- Sets an option that is not set yet. A path must not be empty.
def set (g : Given) (s : Setting) (value : String) : Except Usage Given :=
  if (g.get? s).isSome then .error .conflict
  else match s with
    | .root => if value = "" then .error .invalidValue else .ok { g with root := some value }
    | .config => if value = "" then .error .invalidValue else .ok { g with config := some value }
    | .http => .ok { g with http := some value }
    | .body => .ok { g with body := some value }

-- Lets the pending setting take effect.
def settle (g : Given) : Except Usage Given :=
  match g.pending with
  | none => .ok g
  | some (_, none) => .error .invalidValue
  | some (s, some value) => { g with pending := none }.set s value

def isAwaiting (g : Given) : Bool :=
  g.pending.any fun p => p.2.isNone

def raise (g : Given) : Flag → Except Usage Given
  | .verbose => if g.verbose then .error .conflict else .ok { g with verbose := true }
  | .json => if g.json then .error .conflict else .ok { g with json := true }
  | .strict => if g.strict then .error .conflict else .ok { g with strict := true }
  | .help => .error .help
  | .version => .error .version

def isNothing (g : Given) : Bool :=
  g.root.isNone && g.config.isNone && !g.verbose

end Given

-- How an argument is written.
inductive Shape
  | separator
  | long (name : String) (value : Option String)
  | short (flags : List Char)
  | plain
deriving DecidableEq, Repr

def Shape.of (arg : String) : Shape :=
  match arg.toList with
  | ['-', '-'] => .separator
  | '-' :: '-' :: rest =>
    match cut '=' rest with
    | some (name, value) => .long (String.ofList name) (some (String.ofList value))
    | none => .long (String.ofList rest) none
  | '-' :: c :: rest => .short (c :: rest)
  | _ => .plain

-- A long option, with the value written at it.
def takeLong (l : Level) (g : Given) (name : String) (value : Option String) : Except Usage Given :=
  match l.setting? name, l.flag? name, value with
  | some s, _, some v => do (← g.settle).set s v
  | some s, _, none => do return { ← g.settle with pending := some (s, none) }
  | none, some _, some _ => .error .tooManyValues
  | none, some f, none => do (← g.settle).raise f
  | none, none, _ => .error .unknownArgument

def takeShort (l : Level) (g : Given) (c : Char) : Except Usage Given :=
  match l.shortFlag? c with
  | some f => do (← g.settle).raise f
  | none => .error .unknownArgument

-- Whether a word names a command; `help` is one of its own.
def isCommandWord (arg : String) : Bool :=
  (Name.ofText? arg).isSome || arg == "help"

-- An argument that is no option and no command.
def takeArgument (l : Level) (trailing : Bool) (g : Given) (arg : String) : Except Usage Given :=
  if g.arguments.length < l.capacity then do
    let g ← g.settle
    return { g with arguments := g.arguments ++ [arg] }
  else if l = .outer ∧ !(trailing && isCommandWord arg) then .error .invalidSubcommand
  else .error .unknownArgument

-- What `help` is asked about: nothing, or one command.
def helpOn (rest : List String) : Usage :=
  match rest with
  | [] => .help
  | [w] => if isCommandWord w then .help else .invalidSubcommand
  | _ => .invalidSubcommand

-- Reads the arguments of a level, up to a command if there can be one; gives what the level was given and
-- the command with the arguments after it.
def scan (l : Level) (trailing : Bool) (g : Given) :
    List String → Except Usage (Given × Option (Name × List String))
  | [] => .ok (g, none)
  | arg :: rest =>
    if trailing then do
      scan l trailing (← takeArgument l trailing g arg) rest
    else
      -- A command word ends the outer level, unless an option there waits for its value.
      match (if l = .outer ∧ !g.isAwaiting then some arg else none).filter isCommandWord with
      | some word =>
        match Name.ofText? word with
        | some n => .ok (g, some (n, rest))
        | none => .error (helpOn rest)
      | none =>
        match Shape.of arg, g.pending with
        | .separator, _ => scan l true g rest
        | .long name value, _ => do scan l trailing (← takeLong l g name value) rest
        | .short flags, _ => do scan l trailing (← flags.foldlM (takeShort l) g) rest
        -- The value that the option before it waits for.
        | .plain, some (s, none) => scan l trailing { g with pending := some (s, some arg) } rest
        | .plain, _ => do scan l trailing (← takeArgument l trailing g arg) rest

-- The command that a level's arguments make, if all that it needs is there.
def build (n : Name) (g : Given) : Except Usage Command :=
  match n, g.arguments, g.http with
  | .list, _, _ => .ok (.list g.json)
  | .create, [service], _ => .ok (.create service "" g.strict)
  | .create, service :: fields :: _, _ => .ok (.create service fields g.strict)
  | .addRpc, service :: rpc :: request :: response :: _, some http =>
    .ok (.addRpc ⟨service, rpc, request, response, http, g.body⟩ g.strict)
  | .remove, service :: _, _ => .ok (.remove service)
  | .regenerate, _, _ => .ok .regenerate
  | .status, _, _ => .ok (.status g.json)
  | .guide, _, _ => .ok .guide
  | _, _, _ => .error .missingArgument

def parse (args : List String) : Except Usage CommandLine := do
  match ← scan .outer false {} args with
  | (g, none) =>
    let g ← g.settle
    throw (if g.isNothing then .nothing else .missingSubcommand)
  | (g, some (n, rest)) =>
    let inner ← (← scan (.inner n) false {} rest).1.settle
    let command ← build n inner
    let outer ← g.settle
    return ⟨inner.root <|> outer.root, inner.config <|> outer.config, outer.verbose || inner.verbose, command⟩

end Scaffold.CommandLine
