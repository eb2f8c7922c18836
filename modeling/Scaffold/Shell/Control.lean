import Scaffold.Tool
import Scaffold.Shell.Parser
import Scaffold.Shell.Expansion
import Scaffold.Shell.Signal

namespace Scaffold.Shell

open Text

-- The part of a text that was read, by what is left of it.
def readPart (before after : List Char) : List Char :=
  before.take (before.length - after.length)

-- Shows what was read of a script, where that is asked for.
def showRead (text : List Char) : Exec Unit := do
  if (← get).hasOption 'v' ∧ text ≠ [] then act do
    let _ ← writeOn 2 text

-- Runs the lines of a script, each before the next one is read; says whether there was one.
def runLines (run : Runner) (m : Manner) : Nat → Source → Bool → Exec Bool
  | 0, _, ran => return ran
  | n + 1, source, ran => do
    let s ← get
    let source := { source with aliases := s.aliases, count := s.count }
    match nextLine source with
    | .error f => do
      let unread := (source.rest.dropWhile (· ≠ '\n')).drop 1
      showRead (readPart source.rest unread)
      modify fun s => { s with line := f.line }
      abortText ("Syntax error: " ++ f.text)
    | .ok (command, rest) => do
      showRead (readPart source.rest rest.rest)
      modify fun s => { s with texts := rest.texts ++ s.texts, count := rest.count, reached := rest.line }
      let rest := { rest with texts := [] }
      match command with
      | none => return ran
      | some .skip => runLines run m n rest ran
      | some c => do
        let atEnd := rest.again && match rest.token with
          | .finish => true
          | _ => false
        run { m with last := m.last && atEnd } c
        runLines run m n rest true

-- Runs a text as a script, which counts its own lines.
def runText (run : Runner) (m : Manner) (text : List Char) : Exec Unit := do
  let reached := (← get).reached
  let ran ← runLines run m (text.length + 2) { rest := text } false
  modify fun s => { s with reached := reached }
  if !ran then setStatus 0

-- A signal comes in. What is set for it waits until the command that runs is done.
def receive (n : Nat) : Exec Unit := do
  let s ← get
  match s.traps.lookup n with
  | some [] => if n = 9 then throw (.killed n)
  | some _ => set { s with pending := s.pending ++ [n] }
  | none => if !isHarmless n then throw (.killed n)

-- Takes in the signals that other processes sent to this one.
def receiveSent : Exec Unit := do
  let s ← get
  let mine := s.sent.filter fun e => e.1 = s.pid
  if !mine.isEmpty then
    set { s with sent := s.sent.filter fun e => e.1 ≠ s.pid }
    for e in mine do receive e.2

-- Does what is set for the signals that came in. The status stays what it was.
def runTraps (run : Runner) : Exec Unit := do
  let s ← get
  if s.pending.isEmpty then return
  let status := s.trapStatus.getD s.status
  let due := (List.range (lastSignal + 1)).filter s.pending.contains
  set { s with pending := [], trapStatus := some status }
  for n in due do
    match (← get).traps.lookup n with
    | some text => do
      runText run {} text
      setStatus status
    | none => pure ()
  modify fun t => { t with trapStatus := s.trapStatus }

-- What is left of a process that this one started.
def State.afterChild (before after : State) : State :=
  { before with toProcess := before.toProcess.afterChild after.toProcess }

-- A copy of a process and of the shell in it. It has no traps, but signals that mean nothing go on to do
-- so.
def State.copy (s : State) : State :=
  { s with
    pid := s.nextPid
    parent := s.pid
    nextPid := s.nextPid + 1
    broken := false
    traps := s.traps.filter fun t => t.2.isEmpty
    pending := []
    trapStatus := none
    jobs := [] }

-- The status that an end stands for.
def statusOf (e : Ending) : Nat :=
  match e with
  | .exited n => n.toNat
  | .killed n => 128 + n

-- Ends a shell: what is set for the end is done, and what waits in the background.
def closing (run : Runner) (settleAll : Exec Unit) (f : Option Flow) : Exec Ending := do
  match f with
  | some (.killed n) => do
    settleAll
    return .killed n
  | _ =>
    let s ← get
    let left ← match s.traps.lookup 0 with
      | some text => do
        set { s with traps := s.traps.filter fun t => t.1 ≠ 0, trapStatus := some s.status, pending := [] }
        match ← caught (runText run {} text) with
        | some (.killed n) => pure (some n)
        | some .exit => pure none
        | some .fault => pure none
        | _ => do
          setStatus s.status
          pure none
      | none => pure none
    let status := (← get).status
    settleAll
    match left with
    | some n => return .killed n
    | none => return .exited (Int.ofNat (status % 256))

-- Runs a shell in the place of this one, to its end.
def runIn (close : Option Flow → Exec Ending) (child : State) (inner : Exec Unit) : Ending × State :=
  let ending : Exec Ending := do close (← caught inner)
  let (result, after) := (ExceptT.run ending).run child
  let e := match result with
    | .ok e => e
    | .error _ => .exited 2
  (e, after)

-- Runs a copy of this process to its end.
def fork (close : Option Flow → Exec Ending) (inner : Exec Unit) : Exec Ending := fun before =>
  let (e, after) := runIn close before.copy inner
  pure (.ok e, before.afterChild after)

-- Takes note of how a process ended; if a signal ended it, that is said.
def report (e : Ending) : Exec Unit := do
  -- Who sleeps for too long is not waited for, and neither are those that wait for it.
  if (← get).late then throw (.killed 9)
  match e with
  | .killed n => if !isSilent n then act (complain (rawOf (signalText n)))
  | .exited _ => pure ()
  receiveSent

-- What comes of a command in the background: how it ends, when, and what is there then. It has no end if it
-- goes on for longer than it is watched.
structure Outcome where
  job : Job
  ending? : Option Ending
  finished : Nat
  after : State

-- Runs a command in the background, until `deadline` if there is one, in a state that is not kept.
def outcome (run : Runner) (close : Option Flow → Exec Ending) (deadline : Option Nat) (now : State) (j : Job) :
    Outcome :=
  let process := { j.process with
    disk := now.disk, channels := now.channels, nextPid := now.nextPid, sent := now.sent, deadline := deadline }
  let child : State := { toProcess := process, toSession := j.session }
  let (e, after) := runIn close child (run { last := true } j.body)
  ⟨j, if after.late then none else some e, after.slept, { now.afterChild after with late := now.late }⟩

-- Makes an outcome what has happened.
def Outcome.happen (o : Outcome) : Exec Unit :=
  let ended (k : Job) : Job :=
    match o.ending? with
    | some e => if k.pid = o.job.pid then { k with outcome? := some (statusOf e), killed := e.code?.isNone } else k
    | none => k
  modify fun s => { o.after with jobs := s.jobs.map ended }

-- The outcome that comes first.
def earliest (os : List Outcome) : Option Outcome :=
  os.foldl (fun best o =>
    match best with
    | some b => if o.finished < b.finished then some o else best
    | none => some o) none

-- Lets commands in the background come to their ends, as far as they are due.
def settle (foresee : State → Job → Outcome) (isDue : Outcome → Bool) : Nat → Exec Unit
  | 0 => pure ()
  | n + 1 => do
    let s ← get
    match earliest ((s.jobs.filter fun j => j.outcome?.isNone).map (foresee s)) with
    | some o =>
      if isDue o then
        o.happen
        settle foresee isDue n
    | none => pure ()

end Scaffold.Shell
