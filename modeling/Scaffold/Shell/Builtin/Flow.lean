import Scaffold.Shell.Builtin.Basic
import Scaffold.Shell.Control
import Scaffold.Shell.Program

namespace Scaffold.Shell.Builtin

open Text

-- How many loops are left; no more than there are.
def loopsOf (args : List (List Char)) : Exec Nat := do
  match args with
  | [] => return min 1 (← get).loops
  | a :: _ => do
    let n ← countOf a
    if n = 0 then abort (rawOf "Illegal number: " ++ a)
    return min n (← get).loops

-- Leaves loops.
def break' : Builtin := fun args => do
  let n ← loopsOf args
  setStatus 0
  if 0 < n then throw (.leave (n - 1))

-- Goes on with the next round of a loop.
def continue' : Builtin := fun args => do
  let n ← loopsOf args
  setStatus 0
  if 0 < n then throw (.again (n - 1))

-- Leaves a function or a script.
def return' : Builtin := fun args => do
  match args with
  | [] => pure ()
  | a :: _ => setStatus (← countOf a)
  throw .return

-- Leaves the shell.
def exit' : Builtin := fun args => do
  match args with
  | [] => do
    let s ← get
    exitWith (s.trapStatus.getD s.status)
  | a :: _ => exitWith (← countOf a)

-- Runs its arguments as a script.
def eval (run : Runner) (asked : Bool) : Builtin := fun args =>
  if args.isEmpty then setStatus 0 else runText run { asked := asked } ([' '].intercalate args)

-- The file that a name stands for where scripts are looked for.
def scriptPath? (s : State) (name : List Char) : Option (List Char) :=
  if name.contains '/' then some name
  else
    let isScript (path : List Char) : Bool :=
      match s.find path with
      | .ok (_, e) => e.isFile
      | .error _ => false
    ((s.search.splitOn ':').map fun dir => if dir = [] then name else dir ++ '/' :: name).find? isScript

-- What a script at a path holds.
def scriptText (path : List Char) : Exec (List Char) := do
  let s ← get
  match s.find path with
  | .ok (_, .file content _) => return raw content
  | .ok _ => return []
  | .error f => abort (rawOf "cannot open " ++ path ++ rawOf ": " ++
      rawOf (if f = .missing ∨ f = .notDirectory then "No such file" else f.message))

-- Runs a script in this shell.
def dot (run : Runner) : Builtin := fun args => do
  match ← operands args with
  | [] => setStatus 0
  | name :: _ =>
    match scriptPath? (← get) name with
    | none => abort (name ++ rawOf ": not found")
    | some path => do
      let text ← scriptText path
      match ← caught (inName path (runText run {} text)) with
      | some .return => pure ()
      | f => resume f

end Scaffold.Shell.Builtin
