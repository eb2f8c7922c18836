import Scaffold.Shell.State

namespace Scaffold.Shell

open Text

-- Why a program cannot be started.
inductive StartFault
  | disk (f : DiskFault)
  -- An executable file that says nothing about what is to run it.
  | noFormat
  | tooLong
deriving DecidableEq, Repr

namespace StartFault

def message : StartFault → String
  | disk f => f.message
  | noFormat => "Exec format error"
  | tooLong => "Argument list too long"

def number : StartFault → Nat
  | disk f => f.number
  | noFormat => 8
  | tooLong => 7

end StartFault

def isGap (c : Char) : Bool :=
  c == ' ' || c == '\t'

-- How much of a file is looked at for its first line.
def firstLineLimit : Nat := 256

-- The interpreter that the first line of a file names, and the argument it gives it, if there is one.
def interpreter? (content : List Char) : Option (List Char × List (List Char)) :=
  match (content.take firstLineLimit).takeWhile fun c => c ≠ '\n' ∧ c ≠ '\x00' with
  | '#' :: '!' :: line =>
    let line := ((line.dropWhile isGap).reverse.dropWhile isGap).reverse
    let name := line.takeWhile fun c => !isGap c
    let argument := (line.drop name.length).dropWhile isGap
    if name = [] then none else some (name, if argument = [] then [] else [argument])
  | _ => none

-- A program of the system, the name it is called by, and its arguments.
structure Start where
  program : String
  name : List Char
  arguments : List (List Char)
deriving DecidableEq, Repr

-- How many interpreters may be behind one another.
def maxInterpreters : Nat := 5

-- What is started for the file at a path.
def start (d : Disk) (cwd : Location) : Nat → (name path : List Char) → List (List Char) →
    Except StartFault Start
  | n, name, path, args =>
    match d.find cwd (textOf path) with
    | .error f => .error (.disk f)
    | .ok (_, .program p) => .ok ⟨p, name, args⟩
    | .ok (_, .file content true) =>
      match interpreter? (raw content), n with
      | none, _ => .error .noFormat
      | some _, 0 => .error (.disk .tooManyLinks)
      | some (interpreter, more), n + 1 => start d cwd n interpreter interpreter (more ++ path :: args)
    | .ok _ => .error (.disk .denied)

-- Where programs are looked for unless the environment says otherwise.
def standardSearch : List Char :=
  "/usr/local/sbin:/usr/local/bin:/usr/sbin:/usr/bin:/sbin:/bin".toList

-- Starts a program by its name, which is a path if it has a slash. Else it is looked for in each place of
-- `search`, where an empty place is the working directory. Places where it is missing are passed over, and so
-- are those where it may not be run, unless there is no other.
def startByName (d : Disk) (cwd : Location) (search name : List Char) (args : List (List Char)) :
    Except StartFault Start :=
  let rec go (denied : Bool) (last : DiskFault) : List (List Char) → Except StartFault Start
    | [] => .error (.disk (if denied then .denied else last))
    | dir :: rest =>
      match start d cwd maxInterpreters name (if dir = [] then name else dir ++ '/' :: name) args with
      | .error (.disk f) =>
        if f = .missing ∨ f = .notDirectory then go denied f rest
        else if f = .denied then go true f rest
        else .error (.disk f)
      | r => r
  if name = [] then .error (.disk .missing)
  else if name.contains '/' then start d cwd maxInterpreters name name args
  else go false .missing (search.splitOn ':')

-- Where a script looks for programs: nowhere, if it has no such variable.
def State.search (s : State) : List Char :=
  (s.valueOf? "PATH").getD "/dev/null".toList

-- Where a program looks for others.
def Process.search (p : Process) : List Char :=
  (p.environment.lookup "PATH".toList).getD standardSearch

-- Whether a program cannot be started because there is none.
def StartFault.isMissing : StartFault → Bool
  | disk f => f == .missing || f == .notDirectory
  | _ => false

-- What the shell says of a program that cannot be started.
def StartFault.shellMessage (f : StartFault) : String :=
  if f.isMissing then "not found" else f.message

-- The status of a shell that could not start a program.
def StartFault.status : StartFault → Nat
  | disk .missing => 127
  | disk .notDirectory => 127
  | disk .tooManyLinks => 127
  | disk .nameTooLong => 127
  | _ => 126

-- The path at which a program lies, if there is one of that name.
def programPath? (d : Disk) (cwd : Location) (search name : List Char) : Option (List Char) :=
  let isProgram (path : List Char) : Bool :=
    match d.find cwd (textOf path) with
    | .ok (_, .file _ executable) => executable
    | .ok (_, .program _) => true
    | _ => false
  if name.contains '/' then (if isProgram name then some name else none)
  else
    ((search.splitOn ':').map fun dir => if dir = [] then name else dir ++ '/' :: name).find? isProgram

end Scaffold.Shell
