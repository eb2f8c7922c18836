import Scaffold.Shell.Simple

namespace Scaffold.Shell

open Text

-- How a round of a loop ended.
inductive Round
  | done
  | again
  | left
deriving DecidableEq

-- Runs a part of a loop's round. Ways out that lead further than this loop go on.
def round (inner : Exec Unit) : Exec Round := do
  match ← caught inner with
  | none => return .done
  | some (.leave 0) => return .left
  | some (.again 0) => return .again
  | some (.leave (n + 1)) => throw (.leave n)
  | some (.again (n + 1)) => throw (.again n)
  | some f => throw f

-- Runs something as a loop around it.
def inLoop (inner : Exec Unit) : Exec Unit := do
  modify fun s => { s with loops := s.loops + 1 }
  afterwards inner (modify fun s => { s with loops := s.loops - 1 })

-- How many rounds a loop may have. No loop that ends has so many.
def maxRounds : Nat := 1000000000000

-- Runs rounds for as long as a condition says so. The status is that of the last round.
def roundsWhile (run : Runner) (asked untilTrue : Bool) (condition body : Command) : Nat → Nat → Exec Unit
  | 0, _ => throw (.killed 9)
  | n + 1, status => do
    match ← round (run { asked := true } condition) with
    | .left => pure ()
    | .again => roundsWhile run asked untilTrue condition body n status
    | .done =>
      if ((← get).status = 0) = untilTrue then setStatus status
      else
        match ← round (run { asked := asked } body) with
        | .left => pure ()
        | _ => roundsWhile run asked untilTrue condition body n (← get).status

-- Runs a round for each value of a variable.
def roundsFor (run : Runner) (asked : Bool) (name : List Char) (body : Command) : List (List Char) → Exec Unit
  | [] => pure ()
  | v :: vs => do
    assign name v
    match ← round (run { asked := asked } body) with
    | .left => pure ()
    | _ => roundsFor run asked name body vs

-- Whether a text is one of those that some patterns stand for.
def matchesAny (capture : Capture) (text : List Char) : List Word → Exec Bool
  | [] => return false
  | w :: ws => do
    if matchesPattern (← wordPattern capture w) text then return true else matchesAny capture text ws

-- The first arm whose patterns stand for a text.
def armFor? (capture : Capture) (text : List Char) : List (List Word × Command) → Exec (Option Command)
  | [] => return none
  | (patterns, body) :: rest => do
    if ← matchesAny capture text patterns then return some body else armFor? capture text rest

-- The commands of a sequence, behind which `rest` comes.
def Command.items (c : Command) (rest : List Command) : List Command :=
  match c with
  | .sequence a b => a.items (b.items rest)
  | c => c :: rest

def runAll (run : Runner) (m : Manner) : List Command → Exec Unit
  | [] => pure ()
  | [c] => run m c
  | c :: cs => do
    run { m with last := false } c
    runAll run m cs

-- Ends the shell if a command has failed, nobody asks about that, and it is to end then.
def checkFailure (m : Manner) : Exec Unit := do
  let s ← get
  if s.hasOption 'e' ∧ !m.asked ∧ s.status ≠ 0 then throw .exit

-- Turns a status around.
def negate (inner : Exec Unit) : Exec Unit := do
  let f ← caught inner
  match f with
  | some .exit => pure ()
  | some .fault => pure ()
  | _ => modify fun s => { s with status := if s.status = 0 then 1 else 0 }
  resume f

-- Takes note of how a process ended that ran a part of the script.
def reportPart (m : Manner) (e : Ending) : Exec Unit := do
  setStatus (statusOf e)
  match e, m.last && (← get).traps.isEmpty with
  | .killed n, true => throw (.killed n)
  | _, _ => report e

def runCommand (means : Means) (m : Manner) (c : Command) : Exec Unit := do
  let run := means.run
  let capture := capture run
  match c with
  | .skip => pure ()
  | .simple line assignments words redirects => do
    runSimple means m line assignments words redirects
    checkFailure m
  | .sequence a b => runAll run m (a.items (b.items []))
  | .both a b => do
    run { asked := true } a
    if (← get).status = 0 then run m b
  | .either a b => do
    run { asked := true } a
    if (← get).status ≠ 0 then run m b
  | .negate a => negate (run { asked := true } a)
  | .pipe stages => do
    let e ← runPipeline run m stages maxRooms pipeRoom
    setStatus (statusOf e)
    checkFailure m
  | .branch condition yes no => do
    run { asked := true } condition
    if (← get).status = 0 then run m yes
    else match no with
      | .skip => setStatus 0
      | no => run m no
  | .loop untilTrue condition body =>
    inLoop (roundsWhile run m.asked untilTrue condition body maxRounds 0)
  | .each line name words body => do
    modify fun s => { s with line := line }
    let values ← match words with
      | some ws => wordsFields capture ws
      | none => pure (← get).parameters
    setStatus 0
    inLoop (roundsFor run m.asked name body values)
  | .choose line subject arms => do
    modify fun s => { s with line := line }
    let text ← wordText capture subject
    match ← armFor? capture text arms with
    | none => setStatus 0
    | some .skip => setStatus 0
    | some body => run m body
  | .define name body => do
    modify fun s => { s with functions := (name, body) :: s.functions.filter fun f => f.1 ≠ name, status := 0 }
  | .subshell line body redirects => do
    modify fun s => { s with line := line }
    let prepared ← prepare capture redirects
    let e ← fork (close run) do
      applyAll capture prepared
      run { m with last := true } body
    reportPart m e
    checkFailure m
  | .background body => leave body
  | .redirected line body redirects => do
    modify fun s => { s with line := line }
    if !(← underRedirects capture redirects (run { asked := m.asked } body)) then checkFailure m

-- Runs a command, and before and after it what is set for signals that came in.
def runWith (means : Means) (m : Manner) (c : Command) : Exec Unit := do
  if !(← get).hasOption 'n' then
    runTraps means.run
    runCommand means m c
    runTraps means.run

mutual

-- Runs a command, with so many levels below it.
def run : Nat → Runner
  | 0, _, _ => throw (.killed 11)
  | n + 1, m, c => runWith ⟨run n, launch n⟩ m c

-- Runs a program, with so many levels below it.
def launch : Nat → Start → Action Ending
  | 0, _ => return .killed 11
  | n + 1, s => launchWith ⟨run n, launch n⟩ s

end

-- How many levels commands and programs may be inside one another.
def maxLevels : Nat := 12000

end Scaffold.Shell
