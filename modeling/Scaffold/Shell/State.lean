import Scaffold.Shell.Process
import Scaffold.Shell.Arithmetic

namespace Scaffold.Shell

open Text

structure Variable where
  -- Nothing, if the variable only has marks.
  value? : Option (List Char)
  exported : Bool := false
  readonly : Bool := false

-- What a variable was before a command made it its own.
structure Saved where
  name : List Char
  before : Option Variable

structure Session where
  -- The name that the script goes by.
  name : List Char
  -- The command of the shell that runs, if one does.
  command? : Option (List Char) := none
  -- The line of the command that runs, and the line up to which the script was read.
  line : Nat := 1
  reached : Nat := 1
  parameters : List (List Char) := []
  -- How many parameters `getopts` has seen, and how far it went into the last one.
  seen : Nat := 1
  within : Option Nat := none
  bindings : List (List Char × Variable) := []
  functions : List (List Char × Command) := []
  aliases : List (List Char × List Char) := []
  -- Programs that were found before.
  tracked : List (List Char) := []
  -- Texts that redirections refer to, by number.
  texts : List (Nat × Word) := []
  count : Nat := 0
  -- The letters of the options that are on.
  options : List Char := []
  status : Nat := 0
  -- The status of the last command whose output was taken in.
  substituted : Nat := 0
  -- How many loops are around what runs, and how many functions.
  loops : Nat := 0
  depth : Nat := 0
  -- For each command that runs, the variables that it made its own.
  frames : List (List Saved) := []
  -- The working directory by the way that led to it.
  directory : List Char := []
  -- What is done on signals, and at the end for 0; nothing is done for an empty text.
  traps : List (Nat × List Char) := []
  -- Signals that came in and were not dealt with yet.
  pending : List Nat := []
  -- The status before a trap, while it runs.
  trapStatus : Option Nat := none
  -- The number that the script's shell goes by.
  shellPid : Nat := 4711
  -- The last command in the background.
  lastJob : Option Nat := none
  -- Whether a trace is being written, so that what is expanded for it is not traced itself.
  tracing : Bool := false
  -- Whether the command that runs could not write.
  outputFailed : Bool := false

-- A command in the background: it waits, or it has ended with a status.
structure Job where
  pid : Nat
  process : Process
  session : Session
  body : Command
  outcome? : Option Nat := none
  -- Whether a signal ended it.
  killed : Bool := false

structure State extends Process, Session where
  jobs : List Job := []

-- How control leaves the commands that follow.
inductive Flow
  -- The shell ends, with the status that it has.
  | exit
  -- Something is at fault; the shell ends unless that is caught.
  | fault
  | killed (signal : Nat)
  -- Leaves that many loops more than the innermost one.
  | leave (more : Nat)
  -- Starts the next round, of the loop that many further out.
  | again (more : Nat)
  | return
deriving DecidableEq, Repr

abbrev Exec :=
  ExceptT Flow (StateM State)

-- What a program does, as part of what a shell does.
def act {α : Type} (a : Action α) : Exec α :=
  fun s =>
    let (x, p) := a.run s.toProcess
    pure (.ok x, { s with toProcess := p })

-- How a command is run: whether its failure is asked about, and whether nothing comes after it.
structure Manner where
  asked : Bool := false
  last : Bool := false
deriving DecidableEq, Repr

-- What runs commands.
abbrev Runner :=
  Manner → Command → Exec Unit

namespace State

def hasOption (s : State) (o : Char) : Bool :=
  s.options.contains o

def binding? (s : State) (name : List Char) : Option Variable :=
  s.bindings.lookup name

def valueOf? (s : State) (name : String) : Option (List Char) :=
  (s.binding? name.toList).bind Variable.value?

-- Puts a variable in its place, or behind all others.
def putVariable (s : State) (name : List Char) (v : Variable) : State :=
  if (s.bindings.lookup name).isSome then
    { s with bindings := s.bindings.map fun e => if e.1 = name then (name, v) else e }
  else { s with bindings := s.bindings ++ [(name, v)] }

def dropVariable (s : State) (name : List Char) : State :=
  { s with bindings := s.bindings.filter fun e => e.1 ≠ name }

def restore (s : State) (v : Saved) : State :=
  match v.before with
  | some b => s.putVariable v.name b
  | none => s.dropVariable v.name

-- The place of a name in a table of the shell with so many slots.
def slot (slots : Nat) (name : List Char) : Nat :=
  name.foldl (fun n c => n + c.toNat) (((name.head?.map Char.toNat).getD 0) * 16) % 32768 % slots

-- How many slots the table of variables has, and that of aliases.
def variableSlots : Nat := 39

def programSlots : Nat := 31

-- The entries of a table in the order of their slots.
def bySlot {α : Type} (slots : Nat) (table : List (List Char × α)) : List (List Char × α) :=
  table.mergeSort fun a b => slot slots a.1 ≤ slot slots b.1

-- The variables that programs get.
def exports (s : State) : List (List Char × List Char) :=
  (bySlot variableSlots s.bindings).filterMap fun (name, v) =>
    if v.exported then v.value?.map fun value => (name, value) else none

end State

def setStatus (n : Nat) : Exec Unit :=
  modify fun s => { s with status := n }

-- What the complaints of the shell start with.
def State.complaintMark (s : State) : List Char :=
  s.name ++ rawOf (": " ++ toString s.line ++ ": ") ++
    (s.command?.map fun c => c ++ [':', ' ']).getD []

def warn (text : List Char) : Exec Unit := do
  let mark := (← get).complaintMark
  act (complain (mark ++ text))

-- Ends the shell with a complaint, unless that is caught.
def abort {α : Type} (text : List Char) : Exec α := do
  warn text
  setStatus 2
  throw .fault

def abortText {α : Type} (text : String) : Exec α :=
  abort (rawOf text)

-- What happens when a variable is set.
def onSet (name : List Char) (value : Option (List Char)) : Exec Unit := do
  if name = "OPTIND".toList then
    let n ← match value with
      | none => pure 0
      | some v =>
        match Arithmetic.count? v with
        | some n => pure n
        | none => abort (rawOf "Illegal number: " ++ v)
    modify fun s => { s with seen := if n = 0 then 1 else n, within := none }
  else if name = "PATH".toList then
    modify fun s => { s with tracked := [] }

-- Sets a variable. Marks stay, and new ones may come.
def setVariable (name : List Char) (value : Option (List Char)) (mark : Variable → Variable) : Exec Unit := do
  if !isName name then abort (Text.before '=' name ++ rawOf ": bad variable name")
  let s ← get
  let old := s.binding? name
  if old.any Variable.readonly then abort (name ++ rawOf ": is read only")
  onSet name value
  let v := mark { old.getD ⟨none, false, false⟩ with value? := value }
  let v := if s.hasOption 'a' ∧ value.isSome then { v with exported := true } else v
  if v.value?.isNone ∧ !v.exported ∧ !v.readonly then modify fun s => s.dropVariable name
  else modify fun s => s.putVariable name v

def assign (name value : List Char) : Exec Unit :=
  setVariable name (some value) id

def unsetVariable (name : List Char) : Exec Unit :=
  setVariable name none fun _ => ⟨none, false, false⟩

-- Makes a variable the own one of the command that runs.
def makeLocal (name : List Char) (value : Option (List Char)) (exported : Bool) : Exec Unit := do
  let s ← get
  match s.frames with
  | [] => abortText "not in a function"
  | frame :: frames =>
    let before := s.binding? name
    let mark (v : Variable) : Variable := { v with exported := v.exported || exported }
    match value, before with
    | some v, _ => setVariable name (some v) mark
    | none, some _ => pure ()
    | none, none => if !isName name then abort (name ++ rawOf ": bad variable name")
    modify fun s => { s with frames := (⟨name, before⟩ :: frame) :: frames }

-- Runs something and tells how control left it.
def caught (inner : Exec Unit) : Exec (Option Flow) :=
  fun s =>
    let (result, s) := (ExceptT.run inner).run s
    pure (.ok (match result with
      | .ok _ => none
      | .error f => some f), s)

-- Goes on as something that was caught would have.
def resume : Option Flow → Exec Unit
  | none => pure ()
  | some f => throw f

-- Does something after an action, however control leaves it.
def afterwards (inner after : Exec Unit) : Exec Unit := do
  let f ← caught inner
  after
  resume f

-- Gives variables their values back until as many frames are left as there were.
def unwind (depth : Nat) : Exec Unit :=
  modify fun s =>
    let more := s.frames.length - depth
    { (s.frames.take more).flatten.foldl State.restore s with frames := s.frames.drop more }

-- Runs a command with variables of its own. They are still there at the end of the shell.
def inFrame (inner : Exec Unit) : Exec Unit := do
  let depth := (← get).frames.length
  modify fun s => { s with frames := [] :: s.frames }
  match ← caught inner with
  | some .exit => throw .exit
  | some .fault => throw .fault
  | f => do
    unwind depth
    resume f

-- Runs something in the name of a command of the shell.
def inName (name : List Char) (inner : Exec Unit) : Exec Unit := do
  let before := (← get).command?
  modify fun s => { s with command? := some name }
  afterwards inner (modify fun s => { s with command? := before })

-- Ends the shell with a status.
def exitWith {α : Type} (n : Nat) : Exec α := do
  setStatus n
  throw .exit

end Scaffold.Shell
