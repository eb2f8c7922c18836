import Scaffold.Shell.Child
import Scaffold.Shell.Utilities
import Scaffold.Shell.Builtin.Variables

namespace Scaffold.Shell

open Text

-- What commands are carried out with.
structure Means where
  run : Runner
  launch : Start → Action Ending

-- The variables of a shell that has just started. Those of the environment with proper names are in it.
def startVariables (p : Process) : List (List Char × Variable) :=
  let given := (p.environment.filter fun e => isName e.1).map fun (n, v) => (n, (⟨some v, true, false⟩ : Variable))
  let standard : List (String × List Char) :=
    [("PATH", standardSearch), ("PS1", ['#', ' ']), ("PS2", ['>', ' ']), ("PS4", ['+', ' '])]
  let own : List (String × List Char) :=
    [("IFS", standardSeparators), ("OPTIND", ['1']), ("PPID", numberText p.parent)]
  let isOwn (n : List Char) : Bool := own.any fun e => e.1.toList == n
  let given := given.filter fun e => !isOwn e.1
  let missing := standard.filter fun e => (given.lookup e.1.toList).isNone
  given ++ missing.map (fun e => (e.1.toList, ⟨some e.2, false, false⟩)) ++
    own.map fun e => (e.1.toList, ⟨some e.2, false, false⟩)

-- The working directory by the way that the environment gives, if it is right.
def startDirectory (p : Process) : List Char :=
  let isRight (path : List Char) : Bool :=
    path.head? == some '/' && match p.find path with
      | .ok (l, _) => l == p.cwd
      | .error _ => false
  match p.environment.lookup "PWD".toList with
  | some path => if isRight path then path else rawOf (Disk.pathOf p.cwd)
  | none => rawOf (Disk.pathOf p.cwd)

-- A shell that has just started.
def startState (p : Process) (name : List Char) : State :=
  let directory := startDirectory p
  let session : Session := {
    name := name, line := 0, bindings := startVariables p, shellPid := p.pid, directory := directory }
  let s : State := { toProcess := p, toSession := session }
  s.putVariable "PWD".toList ⟨some directory, true, false⟩

-- The arguments of a shell behind its options, and whether there was one that asks for commands in the
-- first of them.
def shellOptions : Nat → Bool → List (List Char) → Exec (Bool × List (List Char))
  | 0, c, args => return (c, args)
  | n + 1, c, args => do
    match args with
    | ['-'] :: rest => return (c, rest)
    | ['-', '-'] :: rest => return (c, rest)
    | ('-' :: letters) :: rest => do
      let others := letters.filter fun o => o ≠ 'c' ∧ o ≠ 'l'
      shellOptions n (c || letters.contains 'c') (← Builtin.setLetters true others rest)
    | ('+' :: letters) :: rest => do
      let others := letters.filter fun o => o ≠ 'c' ∧ o ≠ 'l'
      shellOptions n (c || letters.contains 'c') (← Builtin.setLetters false others rest)
    | rest => return (c, rest)

-- A script that is all that can be read from the input.
def inputText : Exec (List Char) := do
  match ← act (readAll 0 0) with
  | .ok text => return text
  | .error _ => return []

-- What the shell does as a program: it runs the script in an argument, in a file, or in its input.
def shellProgram (run : Runner) (args : List (List Char)) : Exec Unit := do
  let (commands, args) ← shellOptions (args.length + 1) false args
  if commands then
    match args with
    | [] => abortText "-c requires an argument"
    | text :: rest => do
      modify fun s => { s with name := rest.headD s.name, parameters := rest.drop 1, line := 1 }
      let goesOn := (← get).hasOption 's'
      runText run { last := !goesOn } text
      if goesOn then runText run {} (← inputText)
  else
    match args, (← get).hasOption 's' with
    | path :: rest, false => do
      let s ← get
      match s.find path with
      | .ok (_, .file content _) => do
        set { s with name := path, parameters := rest, line := 1 }
        runText run {} (raw content)
      | .ok _ => set { s with name := path }
      | .error f => abort (rawOf "cannot open " ++ path ++ rawOf ": " ++
          rawOf (if f = .missing ∨ f = .notDirectory then "No such file" else f.message))
    | rest, _ => do
      modify fun s => { s with parameters := rest, line := 1 }
      runText run {} (← inputText)

-- Starts a program by its name.
def launchByName (launch : Start → Action Ending) : Launcher := fun fields => do
  match fields with
  | [] => return .error (.disk .missing)
  | name :: args =>
    let p ← get
    match startByName p.disk p.cwd p.search name args with
    | .ok s => return .ok (← launch s)
    | .error .noFormat =>
      let path := (programPath? p.disk p.cwd p.search name).getD name
      return .ok (← launch ⟨"sh", "/bin/sh".toList, path :: args⟩)
    | .error f => return .error f

-- Runs a program in the place of a process.
def launchWith (m : Means) (s : Start) : Action Ending := fun p =>
  if s.program = "sh" ∨ s.program = "dash" then
    let (e, after) := runIn (close m.run) (startState p s.name) (shellProgram m.run s.arguments)
    (e, after.toProcess)
  else utilityNamed s.program (launchByName m.launch) ⟨s.name, s.arguments⟩ p

end Scaffold.Shell
