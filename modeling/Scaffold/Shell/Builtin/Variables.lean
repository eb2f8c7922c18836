import Scaffold.Shell.Builtin.Basic

namespace Scaffold.Shell.Builtin

open Text

-- The variables of a kind by their names, each behind `mark`, in the form in which a shell reads them.
def showVariables (mark : String) (isShown : Variable → Bool) : Exec Unit := do
  let s ← get
  let shown := (s.bindings.filter fun v => isShown v.2).mergeSort fun a b => !precedes b.1 a.1
  for (name, v) in shown do
    let value := match v.value? with
      | some t => '=' :: quotedText t
      | none => []
    sayLine (rawOf mark ++ name ++ value)

-- Puts a mark on variables, some of which get values.
def marking (command : String) (mark : Variable → Variable) (isMarked : Variable → Bool) : Builtin := fun args => do
  let (os, args) ← optionsOf "p" args
  if !os.isEmpty ∨ args.isEmpty then showVariables (command ++ " ") isMarked
  else
    for a in args do
      match Text.cut '=' a with
      | some (name, value) => setVariable name (some value) mark
      | none =>
        match (← get).binding? a with
        | some v => modify fun s => s.putVariable a (mark v)
        | none => setVariable a none mark
  setStatus 0

def export' : Builtin :=
  marking "export" (fun v => { v with exported := true }) Variable.exported

def readonly : Builtin :=
  marking "readonly" (fun v => { v with readonly := true }) Variable.readonly

def local' : Builtin := fun args => do
  if (← get).frames.isEmpty then abortText "not in a function"
  for a in args do
    match Text.cut '=' a with
    | some (name, value) => makeLocal name (some value) false
    | none => if a ≠ ['-'] then makeLocal a none false
  setStatus 0

def unset : Builtin := fun args => do
  let (os, args) ← optionsOf "vf" args
  let functions := (os.getLast?.map Prod.fst) == some 'f'
  for a in args do
    if functions then modify fun s => { s with functions := s.functions.filter fun f => f.1 ≠ a }
    else unsetVariable a
  setStatus 0

-- The options by name, with the letters of those that have one.
def optionNames : List (String × Option Char) :=
  [("errexit", some 'e'), ("noglob", some 'f'), ("ignoreeof", some 'I'), ("interactive", some 'i'),
    ("monitor", some 'm'), ("noexec", some 'n'), ("stdin", some 's'), ("xtrace", some 'x'), ("verbose", some 'v'),
    ("vi", some 'V'), ("emacs", some 'E'), ("noclobber", some 'C'), ("allexport", some 'a'), ("notify", some 'b'),
    ("nounset", some 'u'), ("privileged", some 'p'), ("nolog", none), ("debug", none)]

def setOption (on : Bool) (letter : Char) : Exec Unit := do
  if !optionLetters.contains letter then abort (rawOf "Illegal option -" ++ [letter])
  modify fun s =>
    let others := s.options.filter (· ≠ letter)
    { s with options := if on then letter :: others else others }

def showOptions (asCommands : Bool) : Exec Unit := do
  let s ← get
  if !asCommands then sayLine (rawOf "Current option settings")
  for (name, letter) in optionNames do
    let on := letter.any s.hasOption
    let gap := List.replicate (16 - name.length) ' '
    if asCommands then sayLine (rawOf ((if on then "set -o " else "set +o ") ++ name))
    else sayLine (rawOf name ++ gap ++ rawOf (if on then "on" else "off"))

def setNamed (on : Bool) (name : List Char) : Exec Unit := do
  match optionNames.lookup (String.ofList name) with
  | some (some letter) => setOption on letter
  | some none => pure ()
  | none => abort (rawOf "Illegal option -o " ++ name)

-- The letters of one argument; `o` takes the next argument as a name.
def setLetters (on : Bool) : List Char → List (List Char) → Exec (List (List Char))
  | [], rest => return rest
  | 'o' :: cs, rest => do
    match rest with
    | [] => do
      showOptions (!on)
      setLetters on cs []
    | name :: rest => do
      setNamed on name
      setLetters on cs rest
  | c :: cs, rest => do
    setOption on c
    setLetters on cs rest

-- Options at the front, and what is left as parameters, if they are to be set.
def setOptions : Nat → List (List Char) → Exec (Option (List (List Char)))
  | 0, _ => return none
  | n + 1, args => do
    match args with
    | [] => return none
    | ['-'] :: rest => do
      setOption false 'x'
      setOption false 'v'
      return if rest.isEmpty then none else some rest
    | ['-', '-'] :: rest => return some rest
    | ('-' :: cs) :: rest => do setOptions n (← setLetters true cs rest)
    | ('+' :: cs) :: rest => do setOptions n (← setLetters false cs rest)
    | rest => return some rest

def set' : Builtin := fun args => do
  if args.isEmpty then showVariables "" fun v => v.value?.isSome
  else
    match ← setOptions (args.length + 1) args with
    | some parameters => modify fun s => { s with parameters := parameters, seen := 1, within := none }
    | none => pure ()
  setStatus 0

def shift : Builtin := fun args => do
  let n ← match args with
    | [] => pure 1
    | a :: _ => countOf a
  let s ← get
  if s.parameters.length < n then abortText "can't shift that many"
  set { s with parameters := s.parameters.drop n, seen := 1, within := none, status := 0 }

-- What a line is while it is read: stretches that may be cut, and characters that a backslash protects.
structure LineDraft where
  stretches : List Stretch := []
  current : List Glyph := []

def LineDraft.push (d : LineDraft) (c : Char) : LineDraft :=
  { d with current := .char c false :: d.current }

def LineDraft.protect (d : LineDraft) (c : Char) : LineDraft :=
  { stretches := ⟨.whole, [.char c true]⟩ :: ⟨.split, d.current.reverse⟩ :: d.stretches }

def LineDraft.finish (d : LineDraft) : List Stretch :=
  (⟨.split, d.current.reverse⟩ :: d.stretches).reverse

-- The line at the front of a text, how many characters it takes, and whether a line break ends it.
def takeLine (plain : Bool) : List Char → Nat → LineDraft → List Stretch × Nat × Bool
  | [], n, d => (d.finish, n, false)
  | '\n' :: _, n, d => (d.finish, n + 1, true)
  | '\x00' :: s, n, d => takeLine plain s (n + 1) d
  | '\\' :: s, n, d =>
    if plain then takeLine plain s (n + 1) (d.push '\\')
    else match s with
      | '\n' :: r => takeLine plain r (n + 2) d
      | c :: r => takeLine plain r (n + 2) (d.protect c)
      | [] => (d.finish, n + 1, false)
  | c :: s, n, d => takeLine plain s (n + 1) (d.push c)

-- Splits a line over variables.
def assignFields : List (List Char) → List Field → Exec Unit
  | [], _ => pure ()
  | name :: names, fields => do
    assign name ((fields.head?.map Field.text).getD [])
    assignFields names (fields.drop 1)

def read : Builtin := fun args => do
  let (os, names) ← optionsOf "p:r" args
  if names.isEmpty then abortText "arg count"
  let plain := os.any fun o => o.1 == 'r'
  let s ← get
  let (line, ended) ← match s.readBy 0 65536 fun text =>
      let (line, n, ended) := takeLine plain text 0 {}
      ((line, ended), n, !ended) with
    | .ok (r, p) => do
      set { s with toProcess := p }
      pure r
    | .error _ => pure ([], false)
  assignFields names (fieldsOf s.separators (some names.length) line)
  setStatus (if ended then 0 else 1)

-- What `getopts` found: the letter, whether the options are at their end, and what it does to the
-- variable for values.
structure Found where
  letter : Char
  atEnd : Bool := false
  value : Option (List Char) := none
  complaint : Option (List Char) := none
  -- How many arguments were seen, and how far it went into the last one.
  seen : Nat
  within : Option Nat := none
  -- Whether the variable for values stays as it is.
  keeps : Bool := false

-- Whether the letter is allowed, and takes a value.
def optionKind? (c : Char) : List Char → Option Bool
  | [] => none
  | a :: rest =>
    if a = c then some (rest.head? == some ':')
    else optionKind? c (if rest.head? = some ':' then rest.drop 1 else rest)
termination_by s => s.length
decreasing_by
  all_goals split <;> simp only [List.length_drop, List.length_cons] <;> omega

def findOption (allowed : List Char) (args : List (List Char)) (seen : Nat) (within : Option Nat) : Found :=
  let quiet := allowed.head? == some ':'
  -- The rest of the argument that was looked at last, if there is some.
  let left := match within with
    | some k => if 1 < seen then ((args[seen - 2]?).getD []).drop k else []
    | none => []
  let (word, seen, atEnd) := match left with
    | [] =>
      match args[seen - 1]? with
      | some ('-' :: c :: cs) => if c = '-' ∧ cs = [] then ([], seen + 1, true) else (c :: cs, seen + 1, false)
      | _ => ([], seen, true)
    | l => (l, seen, false)
  match word with
  | [] => { letter := '?', atEnd := atEnd, seen := seen, keeps := true }
  | c :: rest =>
    let offset := ((args[seen - 2]?).getD []).length - rest.length
    let found : Found := { letter := '?', seen := seen, within := some offset }
    match optionKind? c allowed with
    | none =>
      if quiet then { found with value := some [c] }
      else { found with complaint := some (rawOf "Illegal option -" ++ [c]) }
    | some false => { found with letter := c, value := some [] }
    | some true =>
      match rest, args[seen - 1]? with
      | [], none =>
        let found := { found with within := none }
        if quiet then { found with letter := ':', value := some [c] }
        else { found with complaint := some (rawOf "No arg for -" ++ c :: rawOf " option") }
      | [], some v => { found with letter := c, value := some v, seen := seen + 1, within := none }
      | v, _ => { found with letter := c, value := some v, within := none }

def getopts : Builtin := fun args => do
  match args with
  | allowed :: name :: more => do
    let s ← get
    let given := if more.isEmpty then s.parameters else more
    let (seen, within) := if given.length + 1 < s.seen then (1, none) else (s.seen, s.within)
    let f := findOption allowed given seen within
    match f.complaint with
    | some text => do
      act (complain text)
      unsetVariable "OPTARG".toList
    | none => if !f.keeps then assign "OPTARG".toList (f.value.getD [])
    setVariable "OPTIND".toList (some (numberText f.seen)) id
    assign name [f.letter]
    modify fun s => { s with seen := f.seen, within := f.within }
    setStatus (if f.atEnd then 1 else 0)
  | _ => abortText "Usage: getopts optstring var [arg...]"

end Scaffold.Shell.Builtin
