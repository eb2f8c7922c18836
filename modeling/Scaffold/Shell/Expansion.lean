import Scaffold.Shell.Field
import Scaffold.Shell.State

namespace Scaffold.Shell

open Text

def State.separators (s : State) : List Char :=
  (s.valueOf? "IFS").getD standardSeparators

-- What is put between parameters that are joined.
def State.joint (s : State) : List Char :=
  s.separators.take 1

-- The letters of options in the order in which they are shown.
def optionLetters : List Char :=
  "efIimnsxvVECabup".toList

def State.optionText (s : State) : List Char :=
  optionLetters.reverse.filter s.hasOption

def isEveryParameter (name : List Char) : Bool :=
  name == ['@'] || name == ['*']

def numberText (n : Nat) : List Char :=
  (toString n).toList

-- The value of a parameter, `none` if it is not set.
def State.parameter? (s : State) (name : List Char) : Option (List Char) :=
  match name with
  | ['@'] => some (s.joint.intercalate s.parameters)
  | ['*'] => some (s.joint.intercalate s.parameters)
  | ['#'] => some (numberText s.parameters.length)
  | ['?'] => some (numberText s.status)
  | ['$'] => some (numberText s.shellPid)
  | ['!'] => s.lastJob.map numberText
  | ['-'] => some s.optionText
  | _ =>
    if name ≠ [] ∧ name.all Char.isDigit then
      let k := Arithmetic.natural name
      if k = 0 then some s.name else s.parameters[k - 1]?
    else (s.binding? name).bind Variable.value?

-- How a word is expanded.
structure Purpose where
  -- Whether it is to be cut into fields.
  fields : Bool := false
  -- Whether plain text in it is cut like values.
  cutsText : Bool := false
  -- Whether a tilde at its start stands for a directory.
  tilde : Bool := true
  -- Whether a tilde behind a colon does.
  colons : Bool := false

-- A value where it is used.
def valueStretch (p : Purpose) (quoted : Bool) (s : List Char) : Stretch :=
  ⟨if quoted ∨ !p.fields then .whole else .split, Field.ofText quoted s⟩

-- The values of all parameters where they are used.
def everyStretch (p : Purpose) (quoted : Bool) (name : List Char) (s : State) (values : List (List Char)) :
    List Stretch :=
  let zero : Field := [.char '\x00' false]
  let parts := values.map (Field.ofText quoted)
  if !p.fields ∨ (quoted ∧ name = ['*']) then
    [⟨.whole, (Field.ofText quoted s.joint).intercalate parts⟩]
  else if quoted then (if values = [] then [] else [⟨.each, zero.intercalate parts⟩])
  else [⟨.split, zero.intercalate parts⟩]

-- Changes the text of a value. Of all parameters it changes the first one, where they are not joined.
def changeFirst (f : List Char → List Char) (p : Purpose) (quoted : Bool) (name : List Char) (s : State)
    (value : List Char) : List Stretch :=
  if isEveryParameter name ∧ p.fields ∧ !(quoted ∧ name = ['*']) then
    match s.parameters with
    | v :: vs => everyStretch p quoted name s (f v :: vs)
    | [] => everyStretch p quoted name s []
  else [valueStretch p quoted (f value)]

-- The home directory of a user, as the system's list of users has it.
def homeOf? (d : Disk) (user : List Char) : Option (List Char) :=
  match d.read [] "/etc/passwd" with
  | .ok content =>
    ((raw content).splitOn '\n').findSome? fun line =>
      let parts := line.splitOn ':'
      if parts.head? = some user then parts[5]? else none
  | .error _ => none

-- What a tilde and the name behind it stand for.
def State.home? (s : State) (user : List Char) : Option (List Char) :=
  if user = [] then s.valueOf? "HOME" else homeOf? s.disk user

-- The directory that a tilde at the front stands for, and what follows its name. A name runs to a slash or
-- to the end of the word, and where colons count, to a colon.
def tildeAtFront (s : State) (colons atEnd : Bool) (t : List Char) : Option (List Char × List Char) :=
  let name := (t.drop 1).takeWhile fun c => c ≠ '/' ∧ !(colons ∧ c = ':')
  let rest := (t.drop 1).drop name.length
  if rest = [] ∧ !atEnd then none else (s.home? name).map fun h => (h, rest)

-- Plain text with directories in the place of tildes, where `here` or a colon allows one.
def tildes (s : State) (p : Purpose) (atEnd : Bool) : Nat → Bool → List Char → List Char → List Stretch
  | 0, _, acc, t => [plain (acc.reverse ++ t)]
  | _, _, acc, [] => if acc = [] then [] else [plain acc.reverse]
  | n + 1, here, acc, c :: r =>
    if c = '~' ∧ here then
      match tildeAtFront s p.colons atEnd (c :: r) with
      | some (h, rest) =>
        (if acc = [] then [] else [plain acc.reverse]) ++
          ⟨.whole, Field.ofText true h⟩ :: tildes s p atEnd n false [] rest
      | none => tildes s p atEnd n false (c :: acc) r
    else tildes s p atEnd n (p.colons && c = ':') (c :: acc) r
where
  plain (t : List Char) : Stretch :=
    ⟨if p.cutsText && p.fields then .split else .whole, Field.ofText false t⟩

def textStretches (s : State) (p : Purpose) (atEnd : Bool) (t : List Char) : List Stretch :=
  if t.contains '~' then tildes s p atEnd (t.length + 1) p.tilde [] t else [tildes.plain p t]

-- What an expression comes to; the variables that it assigns to are set.
def evaluate (text : List Char) : Exec Int := do
  let s ← get
  match Arithmetic.eval (fun name => (s.parameter? name).getD []) text with
  | .ok (v, assigned) =>
    for (name, n) in assigned.reverse do assign name (rawOf (toString n))
    return v
  | .error (.expression fault) => abort (rawOf ("arithmetic expression: " ++ fault ++ ": \"") ++ text ++ ['"'])
  | .error (.number t) => abort (rawOf "Illegal number: " ++ t)

-- The text of some stretches.
def textOfStretches (w : List Stretch) : List Char :=
  w.flatMap fun s => Field.text s.glyphs

def patternOfStretches (w : List Stretch) : List PatternChar :=
  w.flatMap fun s => Field.pattern s.glyphs

-- How the output of a command is taken in.
abbrev Capture :=
  Command → Exec (List Char)

-- The commands in a word end with line breaks that do not count, and zeros cannot be kept.
def outputText (s : List Char) : List Char :=
  ((s.filter (· ≠ '\x00')).reverse.dropWhile (· = '\n')).reverse

-- Says that a parameter has no value, in words of its own if there are some.
def unset {α : Type} (name : List Char) (orEmpty : Bool) (words : Option (List Char)) : Exec α :=
  match words with
  | some w => abort (name ++ [':', ' '] ++ w)
  | none => abort (name ++ rawOf (": parameter not set" ++ if orEmpty then " or null" else ""))

mutual

def expandPiece (capture : Capture) (p : Purpose) (atEnd : Bool) : Piece → Exec (List Stretch)
  | .text true t => return [⟨.whole, .quotes :: Field.ofText true t⟩]
  | .text false t => return textStretches (← get) p atEnd t
  | .parameter quoted name use => expandUse capture p quoted name use
  | .command quoted body => do
    return [valueStretch p quoted (outputText (← capture body))]
  | .arithmetic quoted e => do
    let w ← expandPieces capture { tilde := false } e
    return [valueStretch p quoted (rawOf (toString (← evaluate (textOfStretches w))))]

def expandUse (capture : Capture) (p : Purpose) (quoted : Bool) (name : List Char) : Use → Exec (List Stretch)
  | .value => do
    let s ← get
    match s.parameter? name with
    | some v => return changeFirst id p quoted name s v
    | none => if s.hasOption 'u' then unset name false none else return []
  | .length => do
    let s ← get
    match s.parameter? name with
    | some v => return [valueStretch p quoted (numberText v.length)]
    | none => if s.hasOption 'u' then unset name false none else return [valueStretch p quoted ['0']]
  | .instead operator orEmpty w => do
    let s ← get
    let value := (s.parameter? name).bind fun v => if orEmpty && v.isEmpty then none else some v
    match value with
    | some v =>
      if operator = '+' then expandPieces capture { fields := p.fields, cutsText := !quoted } w
      else return changeFirst id p quoted name s v
    | none =>
      if operator = '+' then return []
      else if operator = '-' then expandPieces capture { fields := p.fields, cutsText := !quoted } w
      else if operator = '=' then
        let t := textOfStretches (← expandPieces capture {} w)
        assign name t
        return [valueStretch p quoted t]
      else if w.isEmpty then unset name orEmpty none
      else
        let t := textOfStretches (← expandPieces capture {} w)
        unset name orEmpty (some t)
  | .strip atStart longest w => do
    let s ← get
    match s.parameter? name with
    | some v =>
      let pattern := patternOfStretches (← expandPieces capture {} w)
      let strip := if atStart then stripStart longest pattern else stripEnd longest pattern
      return changeFirst strip p quoted name s v
    | none => if s.hasOption 'u' then unset name false none else return []
  | .unknown => abortText "Bad substitution"

def expandPieces (capture : Capture) (p : Purpose) : List Piece → Exec (List Stretch)
  | [] => return []
  | x :: xs => do
    let front ← expandPiece capture p xs.isEmpty x
    return front ++ (← expandPieces capture { p with tilde := false } xs)

end

-- A word as one text, neither cut nor matched.
def wordText (capture : Capture) (w : Word) : Exec (List Char) := do
  return textOfStretches (← expandPieces capture {} w)

-- What stands behind the sign of an assignment.
def assignedText (capture : Capture) (w : Word) : Exec (List Char) := do
  return textOfStretches (← expandPieces capture { colons := true } w)

def wordPattern (capture : Capture) (w : Word) : Exec (List PatternChar) := do
  return patternOfStretches (← expandPieces capture {} w)

-- The fields that a word comes to.
def wordFields (capture : Capture) (w : Word) : Exec (List (List Char)) := do
  let stretches ← expandPieces capture { fields := true } w
  let s ← get
  let fields := fieldsOf s.separators none stretches
  if s.hasOption 'f' then return fields.map Field.text
  else return fields.flatMap (expandPaths s.toProcess)

def wordsFields (capture : Capture) : List Word → Exec (List (List Char))
  | [] => return []
  | w :: ws => do
    let front ← wordFields capture w
    return front ++ (← wordsFields capture ws)

-- A text as it stands in the script, without tildes.
def hereText (capture : Capture) (w : Word) : Exec (List Char) := do
  return textOfStretches (← expandPieces capture { tilde := false } w)

end Scaffold.Shell
