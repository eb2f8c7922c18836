import Scaffold.Shell.Builtin.Basic
import Scaffold.Shell.Control

namespace Scaffold.Shell.Builtin

open Text

def showTraps : Exec Unit := do
  let s ← get
  for n in List.range (lastSignal + 1) do
    match s.traps.lookup n with
    | some text => sayLine (rawOf "trap -- " ++ quotedText text ++ rawOf (" " ++ signalName n))
    | none => pure ()

-- Sets what is done on signals, until one of them is none.
def setTraps (action : Option (List Char)) : List (List Char) → Exec Unit
  | [] => setStatus 0
  | name :: names => do
    match signal? name with
    | none => do
      act (complain (rawOf "trap: " ++ name ++ rawOf ": bad trap"))
      setStatus 1
    | some n => do
      modify fun s =>
        let others := s.traps.filter fun t => t.1 ≠ n
        { s with traps := match action with
            | some text => (n, text) :: others
            | none => others }
      setTraps action names

def trap : Builtin := fun args => do
  match ← operands args with
  | [] => do
    showTraps
    setStatus 0
  | a :: rest =>
    if rest.isEmpty ∨ (a ≠ [] ∧ a.all Char.isDigit ∧ (signal? a).isSome) then setTraps none (a :: rest)
    else setTraps (if a = ['-'] then none else some a) rest

-- The command in the background that a text stands for, by number or as `%1`.
def jobOf (text : List Char) : Exec Job := do
  let s ← get
  match text with
  | '%' :: rest =>
    let found := match Arithmetic.count? rest with
      | some n => if n = 0 then none else s.jobs[n - 1]?
      | none => if rest = [] ∨ rest = ['%'] ∨ rest = ['+'] then s.jobs.getLast? else none
    match found with
    | some j => return j
    | none =>
      if rest = [] ∨ rest = ['%'] ∨ rest = ['+'] then abortText "No current job"
      else abort (rawOf "No such job: " ++ text)
  | _ => abort (rawOf "No such job: " ++ text)

-- Sends a signal to a process; says whether there is such a process. What a command in the background did
-- until then, it did.
def send (foresee : State → Job → Outcome) (pid n : Nat) : Exec Bool := do
  let s ← get
  if pid = s.pid then
    receive n
    return true
  else match s.jobs.find? fun j => j.pid = pid with
  | some j => do
    if j.outcome?.isNone ∧ !isHarmless n then
      (foresee s j).happen
      modify fun s => { s with jobs := s.jobs.map fun k =>
        if k.pid = pid ∧ k.outcome?.isNone then { k with outcome? := some (128 + n), killed := true } else k }
    return true
  | none =>
    if pid = s.parent ∨ pid = s.shellPid then
      set { s with sent := s.sent ++ [(pid, n)] }
      return true
    else return false

def killUsage : String :=
  "Usage: kill [-s sigspec | -signum | -sigspec] [pid | job]... or\nkill -l [exitstatus]"

-- Names the signals, or the one behind a status.
def listSignals : Builtin := fun args => do
  match args with
  | [] => do
    say (['0', '\n'] ++ ((List.range lastSignal).flatMap fun n => rawOf (signalName (n + 1) ++ "\n")))
    setStatus 0
  | a :: _ => do
    let n ← countOf a
    let n := if 128 < n then n - 128 else n
    if 0 < n ∧ n ≤ lastSignal then
      sayLine (rawOf (signalName n))
      setStatus 0
    else abort (rawOf "invalid signal number or exit status: " ++ a)

-- Sends a signal to each of some processes; the status says whether there were all of them.
def sendAll (foresee : State → Job → Outcome) (n : Nat) (targets : List (List Char)) : Exec Unit := do
  let mut missing := false
  for t in targets do
    let pid ← match t with
      | '%' :: _ => do pure (← jobOf t).pid
      | '-' :: rest => do
        let _ ← countOf rest
        pure 0
      | t => countOf t
    if !(← send foresee pid n) then
      warn (rawOf "No such process\n")
      missing := true
  setStatus (if missing then 1 else 0)

def kill (foresee : State → Job → Outcome) : Builtin := fun args => do
  match args with
  | [] => abortText killUsage
  | ('-' :: name) :: rest =>
    match (if name = [] then none else signal? name) with
    | some n => if rest.isEmpty then abortText killUsage else sendAll foresee n rest
    | none => do
      let (os, rest) ← optionsOf "ls:" args
      let names := os.filterMap fun (o, v) => if o = 's' then some v else none
      match names.getLast? with
      | some v =>
        match signal? v with
        | some n => if rest.isEmpty then abortText killUsage else sendAll foresee n rest
        | none => abort (rawOf "invalid signal number or name: " ++ v)
      | none =>
        if os.isEmpty then (if rest.isEmpty then abortText killUsage else sendAll foresee 15 rest)
        else listSignals rest
  | rest => sendAll foresee 15 rest

-- Waits for commands in the background: for all, or for some, of which the last one gives the status.
def wait (settleAll : Exec Unit) : Builtin := fun args => do
  let args ← operands args
  settleAll
  if args.isEmpty then
    modify fun s => { s with jobs := [] }
    setStatus 0
  else
    for a in args do
      let s ← get
      let found ← match a with
        | '%' :: _ => do pure (some (← jobOf a))
        | a => do
          let pid ← countOf a
          pure (s.jobs.find? fun j => j.pid = pid)
      match found with
      | some j => do
        let status := j.outcome?.getD 127
        if 128 < status ∧ !isSilent (status - 128) ∧ j.killed then
          act (complain (rawOf (signalText (status - 128))))
        setStatus status
      | none => setStatus 127

def jobs : Builtin := fun args => do
  let (_, args) ← optionsOf "lp" args
  for a in args do
    let _ ← jobOf a
  setStatus 0

-- What can only be done with commands that were stopped.
def continued : Builtin := fun args => do
  match args with
  | [] => abortText "No current job"
  | a :: _ => do
    let _ ← jobOf a
    abortText "job not created under job control"

def times : Builtin := fun _ => do
  say (rawOf "0m0.000000s 0m0.000000s\n0m0.000000s 0m0.000000s\n")
  setStatus 0

def ulimit : Builtin := fun args => do
  let (_, args) ← optionsOf "HSatfdscmlpnvwr" args
  match args with
  | [] => sayLine (rawOf "unlimited")
  | a :: _ => if a ≠ rawOf "unlimited" ∧ !a.all Char.isDigit then abortText "bad number"
  setStatus 0

end Scaffold.Shell.Builtin
