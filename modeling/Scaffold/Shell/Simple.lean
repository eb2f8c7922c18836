import Scaffold.Shell.Launch
import Scaffold.Shell.Redirection
import Scaffold.Shell.Builtin.Directory
import Scaffold.Shell.Builtin.Flow
import Scaffold.Shell.Builtin.Lookup
import Scaffold.Shell.Builtin.Output
import Scaffold.Shell.Builtin.Process

namespace Scaffold.Shell

open Text

-- The words of a simple command while they are expanded.
structure Draft where
  fields : List (List Char) := []
  rest : List Word
  -- Where the name of the command stands: behind the word `command`, if that is there.
  start : Nat := 0
  -- Whether programs are looked for in the standard places.
  standard : Bool := false
  -- Whether functions do not count.
  direct : Bool := false

namespace Draft

-- Expands words until there is one more field.
def more (capture : Capture) (d : Draft) : Exec Draft := do
  let (fs, rest) ← go d.rest
  return { d with fields := d.fields ++ fs, rest := rest }
where
  go : List Word → Exec (List (List Char) × List Word)
    | [] => return ([], [])
    | w :: ws => do
      let fs ← wordFields capture w
      if fs.isEmpty then go ws else return (fs, ws)

-- The field at a place, for which words are expanded as far as that takes.
def at? (capture : Capture) (d : Draft) (i : Nat) : Exec (Option (List Char) × Draft) := do
  let d ← if i < d.fields.length then pure d else more capture d
  return (d.fields[i]?, d)

-- Looks behind the word `command` for the command that is meant. With other options than `-p`, or without
-- any, the word itself is the command.
def behindCommand (capture : Capture) : Nat → Nat → Draft → Exec (Draft × Bool)
  | 0, _, d => return (d, false)
  | n + 1, i, d => do
    let (field, d) ← d.at? capture i
    match field with
    | none => return (d, false)
    | some ['-'] => return ({ d with start := i }, true)
    | some ['-', '-'] => do
      let (next, d) ← d.at? capture (i + 1)
      return if next.isSome then ({ d with start := i + 1 }, true) else (d, false)
    | some ('-' :: letters) =>
      if letters.all (· = 'p') then behindCommand capture n (i + 1) { d with standard := true } else return (d, false)
    | some _ => return ({ d with start := i }, true)

-- Passes over the word `command` for as long as it stands in front of another one.
def passCommand (capture : Capture) : Nat → Draft → Exec Draft
  | 0, d => return d
  | n + 1, d => do
    match d.fields[d.start]? with
    | some name =>
      let isFunction := !d.direct && ((← get).functions.lookup name).isSome
      if name = "command".toList ∧ !isFunction then
        let size := d.fields.length + d.rest.length + 1
        let (d', found) ← behindCommand capture size (d.start + 1) { d with standard := false }
        if found then passCommand capture n { d' with direct := true }
        else return { d' with standard := false }
      else return d
    | none => return d

-- The name of the command and its arguments.
def call (d : Draft) : List (List Char) :=
  d.fields.drop d.start

end Draft

-- Commands that set what their arguments say, so that those are not split.
def isDeclaration (name : List Char) : Bool :=
  ["alias", "export", "local", "readonly"].contains (String.ofList name)

-- The fields of the words behind a command's name.
def argumentFields (capture : Capture) (declares : Bool) : List Word → Exec (List (List Char))
  | [] => return []
  | w :: ws => do
    let front ← match declares, Parser.assignment? w with
      | true, some (name, value) => do pure [name ++ '=' :: (← assignedText capture value)]
      | _, _ => wordFields capture w
    return front ++ (← argumentFields capture declares ws)

-- Expands the words of a simple command.
def expandCommand (capture : Capture) (words : List Word) : Exec Draft := do
  let d ← Draft.more capture { rest := words }
  let d ← d.passCommand capture (words.length + d.fields.length + 1)
  let name := d.fields[d.start]?.getD []
  let isFunction := !d.direct && ((← get).functions.lookup name).isSome
  let rest ← argumentFields capture (isDeclaration name && !isFunction) d.rest
  return { d with fields := d.fields ++ rest, rest := [] }

-- What stands in front of a command in a trace.
def traceMark (capture : Capture) : Exec (List Char) := do
  let s ← get
  let text := (s.valueOf? "PS4").getD []
  let size := 4 * text.length + 16
  let due : Due := ⟨0, ['\x00'], false, false⟩
  match (WordReader.hereText (Parser.script size) due size true []).run { rest := text } with
  | .ok (w, _) => do
    set { s with tracing := true }
    let mark ← hereText capture (WordReader.finished w)
    modify fun t => { t with tracing := s.tracing }
    return mark
  | .error _ => return text

-- Writes a command to where complaints went before its redirections, if that is asked for.
def trace (capture : Capture) (channel : Option Nat) (texts : List (List Char)) : Exec Unit := do
  let s ← get
  if s.hasOption 'x' ∧ !s.tracing then
    let mark ← traceMark capture
    let s ← get
    let written := do
      let id ← channel
      let c ← s.channels.lookup id
      (s.writeTo id c (mark ++ [' '].intercalate texts ++ ['\n'])).toOption
    for p in written do set { s with toProcess := p }

-- How long an argument of a program may be, in octets.
def maxArgument : Nat := 131071

-- What is started for a name with arguments.
def State.start (s : State) (search : List Char) (name : List Char) (args : List (List Char)) :
    Except StartFault Start := do
  if args.any fun a => maxArgument < a.length then
    let _ ← startByName s.disk s.cwd search name []
    throw .tooLong
  match startByName s.disk s.cwd search name args with
  | .error .noFormat =>
    return ⟨"sh", "/bin/sh".toList, (programPath? s.disk s.cwd search name).getD name :: args⟩
  | r => r

-- The process that a program finds itself in.
def State.bare (s : State) : Process :=
  { s.toProcess with environment := s.exports, broken := false, unwritten := none }

-- Runs a program in a process of its own.
def runChild (means : Means) (start : Start) : Exec Ending := fun s =>
  let child := { s.bare with pid := s.nextPid, parent := s.pid, nextPid := s.nextPid + 1 }
  let (e, p) := (means.launch start).run child
  pure (.ok e, s.afterChild { s with toProcess := p })

-- Runs a program in the place of the shell, which ends with it.
def become (means : Means) (start : Start) : Exec Unit := do
  let s ← get
  let (e, p) := (means.launch start).run s.bare
  set { s.afterChild { s with toProcess := p } with traps := [], status := statusOf e }
  match e with
  | .killed n => throw (.killed n)
  | .exited _ => throw .exit

-- The status of a shell that did not find or could not start a program. Names without a slash that stand
-- for nothing that can be run are not found.
def startStatus (name : List Char) (f : StartFault) : Nat :=
  if !name.contains '/' ∧ f = .disk .denied then 127 else f.status

-- Runs a program and takes note of how it ended.
def startProgram (means : Means) (m : Manner) (search : List Char) (name : List Char) (args : List (List Char)) :
    Exec Unit := do
  settleDue means.run
  let s ← get
  match s.start search name args with
  | .error f => do
    warn (name ++ rawOf (": " ++ f.shellMessage))
    setStatus (startStatus name f)
  | .ok start => do
    if !name.contains '/' then Builtin.track name
    let e ← runChild means start
    setStatus (statusOf e)
    match e, m.last && s.traps.isEmpty with
    | .killed n, true => throw (.killed n)
    | _, _ => report e

-- Puts a program in the place of the shell; its redirections stay.
def exec (means : Means) : Builtin := fun args => do
  match ← operands args with
  | [] => setStatus 0
  | name :: args => do
    let s ← get
    match s.start s.search name args with
    | .error f => do
      warn (name ++ rawOf (": " ++ f.shellMessage))
      exitWith f.status
    | .ok start => become means start

-- The commands of the shell by their names.
def builtin? (means : Means) (m : Manner) (name : List Char) : Option Builtin :=
  let table : List (String × Builtin) :=
    [(".", Builtin.dot means.run), (":", fun _ => setStatus 0), ("[", Builtin.bracket),
      ("alias", Builtin.alias'), ("bg", Builtin.continued), ("break", Builtin.break'), ("cd", Builtin.cd),
      ("chdir", Builtin.cd), ("command", Builtin.command'), ("continue", Builtin.continue'),
      ("echo", Builtin.echo), ("eval", Builtin.eval means.run m.asked), ("exec", exec means),
      ("exit", Builtin.exit'), ("export", Builtin.export'), ("false", fun _ => setStatus 1),
      ("fg", Builtin.continued), ("getopts", Builtin.getopts), ("hash", Builtin.hash), ("jobs", Builtin.jobs),
      ("kill", Builtin.kill (untilNow means.run)), ("local", Builtin.local'), ("printf", Builtin.printf),
      ("pwd", Builtin.pwd), ("read", Builtin.read), ("readonly", Builtin.readonly), ("return", Builtin.return'),
      ("set", Builtin.set'), ("shift", Builtin.shift), ("test", Builtin.test), ("times", Builtin.times),
      ("trap", Builtin.trap), ("true", fun _ => setStatus 0), ("type", Builtin.type'),
      ("ulimit", Builtin.ulimit), ("umask", Builtin.umask), ("unalias", Builtin.unalias),
      ("unset", Builtin.unset), ("wait", Builtin.wait (settleAll means.run))]
  table.lookup (String.ofList name)

-- How many functions may be inside one another.
def maxFunctions : Nat := 1000

-- Calls a function: it has parameters of its own, and the loops around the call are not its loops.
def callFunction (means : Means) (m : Manner) (body : Command) (args : List (List Char)) : Exec Unit := do
  let before ← get
  if before.depth = maxFunctions then
    abortText ("Maximum function recursion depth (" ++ toString maxFunctions ++ ") reached")
  set { before with parameters := args, loops := 0, depth := before.depth + 1, seen := 1, within := none }
  let f ← caught (means.run { asked := m.asked } body)
  modify fun s => { s with
    parameters := before.parameters, loops := before.loops, depth := before.depth
    seen := before.seen, within := before.within }
  match f with
  | some .return => pure ()
  | f => resume f

-- Runs a command of the shell. Faults of those that are no special ones go no further.
def callBuiltin (special : Bool) (name : List Char) (b : Builtin) (args : List (List Char)) : Exec Unit := do
  match ← caught (performed name (b args)) with
  | some .fault => if special then throw .fault
  | f => resume f

-- Runs the command that a name stands for.
def callByName (means : Means) (m : Manner) (d : Draft) : Exec Unit := do
  match d.call with
  | [] => pure ()
  | name :: args => do
    let s ← get
    match (if d.direct then none else s.functions.lookup name), builtin? means m name with
    | some body, _ => callFunction means m body args
    | none, some b => callBuiltin (isSpecialBuiltin name && !d.direct) name b args
    | none, none => startProgram means m (if d.standard then standardSearch else s.search) name args

-- Sets variables, as those of one command only if it has a frame; gives what a trace says of them.
def assignAll (capture : Capture) (framed exported : Bool) : List (List Char × Word) → Exec (List (List Char))
  | [] => return []
  | (name, w) :: rest => do
    let value ← assignedText capture w
    if framed then makeLocal name (some value) true
    else setVariable name (some value) fun v => { v with exported := v.exported || exported }
    return (name ++ '=' :: value) :: (← assignAll capture framed exported rest)

-- Runs a simple command.
def runSimple (means : Means) (m : Manner) (line : Nat) (assignments : List (List Char × Word))
    (words : List Word) (redirects : List Redirect) : Exec Unit := do
  let capture := capture means.run
  modify fun s => { s with line := line, substituted := 0 }
  let d ← expandCommand capture words
  let errors := (← get).descriptors.lookup 2
  match d.call with
  | [] => do
    let inner : Exec Unit := do
      let set ← assignAll capture false false assignments
      trace capture errors set
      modify fun s => { s with status := s.substituted }
    let _ ← underRedirects capture redirects inner
  | name :: args => do
    let isFunction := !d.direct && ((← get).functions.lookup name).isSome
    let special := isSpecialBuiltin name && !d.direct && !isFunction
    let isExec := name = "exec".toList ∧ !isFunction
    let inner : Exec Unit := do
      let set ← assignAll capture (!special) (isExec && !args.isEmpty) assignments
      trace capture errors (set ++ d.fields)
      callByName means m d
    let whole : Exec Unit := do
      if isExec then
        let prepared ← prepare capture redirects
        applyAll capture prepared
        inner
      else if !(← underRedirects capture redirects inner) ∧ special then throw .fault
    if special then whole else inFrame whole

end Scaffold.Shell
