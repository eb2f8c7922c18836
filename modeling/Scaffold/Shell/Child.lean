import Scaffold.Shell.Control

namespace Scaffold.Shell

open Text

-- How many shells with commands in the background may be inside one another.
def maxBackground : Nat := 8

-- Ends a shell, and all that it left in the background.
def closeShell (run : Runner) : Nat → Option Flow → Exec Ending
  | 0, f => closing run (pure ()) f
  | n + 1, f =>
    let settleAll : Exec Unit := do
      settle (outcome run (closeShell run n) none) (fun _ => true) (← get).jobs.length
    closing run settleAll f

def close (run : Runner) : Option Flow → Exec Ending :=
  closeShell run maxBackground

-- Lets all commands in the background come to their ends.
def settleAll (run : Runner) : Exec Unit := do
  settle (outcome run (close run) none) (fun _ => true) (← get).jobs.length

-- What a command in the background has done by now.
def untilNow (run : Runner) (now : State) (j : Job) : Outcome :=
  outcome run (close run) (some now.slept) now j

-- Lets those commands in the background come to their ends that have done so by now.
def settleDue (run : Runner) : Exec Unit := do
  let s ← get
  if !s.jobs.isEmpty then
    settle (untilNow run) (fun o => o.ending?.isSome && o.finished ≤ s.slept) s.jobs.length

-- Opens a channel for output that is kept.
def openSink (room : Option Nat) : Exec Nat := do
  let s ← get
  let (id, p) := s.addChannel (.sink [] room)
  set { s with toProcess := p }
  return id

def connectTo (descriptor id : Nat) : Exec Unit :=
  modify fun s => { s with toProcess := s.connect descriptor id }

-- The output of a command.
def capture (run : Runner) : Capture
  | .skip => return []
  | c => do
    let id ← openSink none
    let e ← fork (close run) do
      connectTo 1 id
      run { last := true } c
    let s ← get
    let text := s.written id
    set { s with toProcess := s.dropChannel id, substituted := statusOf e }
    report e
    return text

-- How much may be written to a pipe before somebody has to read it.
def pipeRoom : Nat := 65536

-- Makes what was written to a channel something to read. Without room left, there may have been more.
def turnAround (id : Nat) : Exec Unit :=
  modify fun s =>
    let cut := match s.channels.lookup id with
      | some (.sink _ (some 0)) => true
      | _ => false
    { s with toProcess := s.setChannel id (.source (s.written id) cut) }

-- Runs the stages of a pipeline, the first of which reads from `input` if there is one. Gives the end of
-- the last one, and the channels between them.
def stagesFrom (run : Runner) (m : Manner) (room : Nat) : Option Nat → List Command → Exec (Ending × List Nat)
  | _, [] => return (.exited 0, [])
  | input, c :: rest => do
    let output ← if rest.isEmpty then pure none else some <$> openSink (some room)
    let e ← fork (close run) do
      for id in input do connectTo 0 id
      for id in output do connectTo 1 id
      run { m with last := true } c
    report e
    match output with
    | none => return (e, [])
    | some id => do
      turnAround id
      let (e, ids) ← stagesFrom run m room (some id) rest
      return (e, id :: ids)

-- Runs a pipeline. If a stage wanted to read more than the one before it had room to write, all is run
-- again from the start, with more room.
def runPipeline (run : Runner) (m : Manner) (stages : List Command) : Nat → Nat → Exec Ending
  | 0, _ => return .exited 2
  | n + 1, room => do
    let before ← get
    let (e, ids) ← stagesFrom run m room none stages
    let s ← get
    if 0 < n ∧ ids.any s.starved.contains then
      set before
      runPipeline run m stages n (room * 16)
    else
      let p := ids.foldl Process.dropChannel s.toProcess
      set { s with toProcess := { p with starved := p.starved.filter fun id => !ids.contains id } }
      return e

-- How often a pipeline gets more room.
def maxRooms : Nat := 4

-- Leaves a command to the background; it has nothing to read.
def leave (body : Command) : Exec Unit := do
  let s ← get
  let (id, p) := s.addChannel (.device .null)
  let s := { s with toProcess := p }
  let copy := s.copy
  let job : Job := {
    pid := copy.pid
    process := copy.connect 0 id
    session := copy.toSession
    body := body }
  set { s with nextPid := copy.nextPid, jobs := s.jobs ++ [job], lastJob := some copy.pid, status := 0 }

end Scaffold.Shell
