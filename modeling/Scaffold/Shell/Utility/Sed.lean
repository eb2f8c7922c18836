import Scaffold.Shell.Utility.Regex

namespace Scaffold.Shell.Sed

open Text

-- An address of lines; an empty expression stands for the last one that was used.
inductive Address
  | line (n : Nat)
  | last
  | matching (r : Option Regex) (fold : Bool)

-- The lines that a command is for: all, those at an address, or stretches from one address to another.
inductive Selection
  | all
  | at (a : Address)
  | from (a b : Address)

-- A part of what is put in the place of a match: a text, or what a group has matched, all of it for zero.
inductive Patch
  | text (s : List Char)
  | group (n : Nat)

structure Substitution where
  regex : Option Regex
  fold : Bool
  patches : List Patch
  all : Bool
  nth : Nat
  print : Bool

inductive Command
  | delete
  | print
  | number
  | quit (status : Nat)
  | substitute (s : Substitution)
  | translate (table : List (Char × Char))

structure Step where
  selection : Selection
  negated : Bool
  command : Command

structure Reader where
  rest : List Char
  -- How much was read.
  position : Nat := 0
  extended : Bool

-- Reading stops with what is wrong, and how much was read before that.
abbrev Scan :=
  StateT Reader (Except (Nat × String))

def fault {α : Type} (text : String) : Scan α := do
  throw ((← get).position, text)

def peek : Scan (Option Char) := do
  return (← get).rest.head?

def next : Scan (Option Char) := do
  let s ← get
  set { s with rest := s.rest.drop 1, position := s.position + min 1 s.rest.length }
  return s.rest.head?

def takeWhile (p : Char → Bool) : Scan (List Char) := do
  let s ← get
  let front := s.rest.takeWhile p
  set { s with rest := s.rest.drop front.length, position := s.position + front.length }
  return front

def skipBlanks : Scan Unit := do
  let _ ← takeWhile fun c => c == ' ' || c == '\t'

-- A number, if there is one.
def number? : Scan (Option Nat) := do
  let digits ← takeWhile Char.isDigit
  return if digits = [] then none else some (Arithmetic.natural digits)

-- A text up to a mark; a backslash before the mark protects it and goes, and in brackets of an expression it
-- is none. Nothing, if the line ends before.
def upTo (mark : Char) (regex : Bool) : Scan (Option (List Char)) := do
  go ((← get).rest.length + 1) false []
where
  go : Nat → Bool → List Char → Scan (Option (List Char))
    | 0, _, _ => return none
    | n + 1, inBrackets, acc => do
      match ← next with
      | none => return none
      | some '\n' => return none
      | some '\\' => do
        match ← next with
        | none => return none
        | some d =>
          if d = mark ∧ !(d = '&' ∧ !regex) then go n inBrackets (d :: acc)
          else if d = 'n' ∧ regex then go n inBrackets ('\n' :: acc)
          else go n inBrackets (d :: '\\' :: acc)
      | some c =>
        if c = mark ∧ !inBrackets then return some acc.reverse
        -- A closing bracket right behind the opening one, or behind its negation, is a member.
        else if c = ']' ∧ inBrackets then
          go n (acc.head? == some '[' || acc.take 2 == ['^', '[']) (c :: acc)
        else go n (inBrackets || (c == '[' && regex)) (c :: acc)

def regexOf (text : List Char) : Scan (Option Regex) := do
  if text = [] then return none
  match Regex.readStrict (← get).extended text with
  | .ok r => return some r
  | .error e => fault e

def address? : Scan (Option Address) := do
  match ← peek with
  | some '$' => do
    let _ ← next
    return some .last
  | some '/' => do
    let _ ← next
    match ← upTo '/' true with
    | none => fault "unterminated address regex"
    | some text => do
      let fold ← takeWhile (· == 'I')
      return some (.matching (← regexOf text) (fold ≠ []))
  | _ => return (← number?).map .line

def selection : Scan Selection := do
  match ← address? with
  | none => return .all
  | some a => do
    skipBlanks
    if (← peek) = some ',' then
      let _ ← next
      skipBlanks
      match ← address? with
      | some b => return .from a b
      | none => do
        let _ ← next
        fault "unexpected \x60,'"
    else match a with
      | .line 0 => do
        let _ ← next
        fault "invalid usage of line address 0"
      | a => return .at a

-- After a command there has to be an end.
def endOfCommand : Scan Unit := do
  skipBlanks
  match ← next with
  | none => pure ()
  | some c => if c ≠ '\n' ∧ c ≠ ';' then fault "extra characters after command"

def ended (a : Command) : Scan Command := do
  endOfCommand
  return a

-- What is put in the place of a match.
def patchesOf : List Char → List Patch
  | '&' :: s => .group 0 :: patchesOf s
  | '\\' :: c :: s =>
    (if c.isDigit then .group (c.toNat - '0'.toNat)
      else .text [if c = 'n' then '\n' else if c = 't' then '\t' else c]) :: patchesOf s
  | c :: s => .text [c] :: patchesOf s
  | [] => []

-- The letters behind a substitution, with a number for the match that is meant.
def flagsFrom : Nat → Substitution → Scan Substitution
  | 0, s => return s
  | n + 1, s => do
    match ← peek with
    | some 'g' => do
      let _ ← next
      flagsFrom n { s with all := true }
    | some 'p' => do
      let _ ← next
      flagsFrom n { s with print := true }
    | some c =>
      if c = 'i' ∨ c = 'I' then
        let _ ← next
        flagsFrom n { s with fold := true }
      else if c.isDigit then
        match ← number? with
        | some 0 => fault "number option to \x60s' command may not be zero"
        | k => flagsFrom n { s with nth := k.getD 1 }
      else
        skipBlanks
        match ← next with
        | none => return s
        | some c => if c = '\n' ∨ c = ';' then return s else fault "unknown option to \x60s'"
    | none => return s

-- Two texts between marks, the first one an expression if so said.
def twoParts (name : String) (regex : Bool) : Scan (List Char × List Char) := do
  let unterminated : Scan (List Char × List Char) := fault ("unterminated \x60" ++ name ++ "' command")
  match ← next with
  | none => unterminated
  | some mark =>
    match ← upTo mark regex with
    | none => unterminated
    | some a =>
      match ← upTo mark false with
      | none => unterminated
      | some b => return (a, b)

def substitution : Scan Command := do
  let (pattern, text) ← twoParts "s" true
  let patches := patchesOf text
  let s ← flagsFrom ((← get).rest.length + 1) ⟨none, false, patches, false, 1, false⟩
  let regex ← regexOf pattern
  let most := patches.foldl (fun n p =>
    match p with
    | .group k => max n k
    | .text _ => n) 0
  if regex.any fun r => Regex.groupCount r < most then
    fault ("invalid reference \\" ++ toString most ++ " on \x60s' command's RHS")
  return .substitute { s with regex := regex }

def translation : Scan Command := do
  let (a, b) ← twoParts "y" false
  if a.length ≠ b.length then fault "strings for \x60y' command are different lengths"
  ended (.translate (a.zip b))

-- The commands of a script.
def steps : Nat → List Step → Scan (List Step)
  | 0, acc => return acc.reverse
  | n + 1, acc => do
    let _ ← takeWhile fun c => " \t\n\x0b\x0c\r;".toList.contains c
    if (← peek).isNone then return acc.reverse
    let sel ← selection
    let marks ← takeWhile fun c => c == '!' || c == ' ' || c == '\t'
    let command ← match ← next with
      | some 'd' => ended .delete
      | some 'p' => ended .print
      | some '=' => ended .number
      | some 'q' => do
        skipBlanks
        let status := (← number?).getD 0
        ended (.quit status)
      | some 's' => substitution
      | some 'y' => translation
      | none => fault "missing command"
      | some c => fault (if c = '\n' ∨ c = ';' then "missing command" else "unknown command: \x60" ++ textOf [c] ++ "'")
    steps n (⟨sel, marks.contains '!', command⟩ :: acc)

-- Reads a script.
def read (extended : Bool) (text : List Char) : Except (Nat × String) (List Step) :=
  ((steps (text.length + 1) []).run ⟨text, 0, extended⟩).map Prod.fst

-- The stretch of a text that a group has matched.
def groupText (v : Regex.View) (f : Regex.Found) (n : Nat) : List Char :=
  let (i, j) := if n = 0 then (f.start, f.stop) else (f.groups.lookup n).getD (0, 0)
  (v.text.extract i j).toList

def patched (v : Regex.View) (f : Regex.Found) (patches : List Patch) : List Char :=
  patches.flatMap fun
    | .text s => s
    | .group n => groupText v f n

-- Replaces matches from a place on, behind so many others and the end of the last one. An empty match right
-- behind another one does not count. Gives the parts of the new text, the last one first, and whether anything
-- was replaced.
def replaceFrom (s : Substitution) (v : Regex.View) (r : Regex) :
    Nat → (start count : Nat) → Option Nat → List (List Char) → List (List Char) × Bool
  | 0, _, _, _, parts => (parts, false)
  | n + 1, start, count, last, parts =>
    let rest (i : Nat) : List Char := (v.text.extract i v.text.size).toList
    match Regex.search v r start with
    | none => (rest start :: parts, false)
    | some f =>
      let isEmpty := f.start = f.stop
      let next := if isEmpty then f.stop + 1 else f.stop
      let skipped := if isEmpty then (v.text.extract f.stop (f.stop + 1)).toList else []
      let front := (v.text.extract start f.start).toList
      let goOn (count : Nat) (parts : List (List Char)) : List (List Char) × Bool :=
        if next ≤ v.text.size then replaceFrom s v r n next count (some f.stop) parts else (parts, false)
      if isEmpty ∧ last = some f.start then goOn count (skipped :: front :: parts)
      else if count + 1 < s.nth then goOn (count + 1) (skipped :: groupText v f 0 :: front :: parts)
      else
        let new := patched v f s.patches
        if s.all then ((goOn (count + 1) (skipped :: new :: front :: parts)).1, true)
        else (rest f.stop :: new :: front :: parts, true)

-- What stays the same while a script runs.
structure Settings where
  steps : List Step
  silent : Bool

structure Editor where
  pattern : List Char := []
  number : Nat := 0
  -- Whether the line is the last one.
  isLast : Bool := false
  -- Whether the line is not to be shown any more, and the status if it was the last one to be read.
  deleted : Bool := false
  stopped : Option Nat := none
  -- The expression that was used last.
  last : Option Regex := none
  -- The steps whose stretches have begun, with the lines at which they end where these are known.
  begun : List (Nat × Option Nat) := []
  -- The lines that were put out, the last one first.
  lines : List (List Char) := []

abbrev Editing :=
  StateM Editor

def put (line : List Char) : Editing Unit :=
  modify fun e => { e with lines := line :: e.lines }

-- An expression, or the one that was used last.
def used (r : Option Regex) : Editing (Option Regex) := do
  modify fun e => { e with last := r <|> e.last }
  return (← get).last

def isAt (a : Address) : Editing Bool := do
  let e ← get
  match a with
  | .line n => return e.number = n
  | .last => return e.isLast
  | .matching r fold => do
    return (← used r).any fun r => (Regex.search { text := e.pattern.toArray, fold := fold } r 0).isSome

-- Whether a step is for the line.
def selects (i : Nat) (sel : Selection) : Editing Bool := do
  let e ← get
  let finish : Editing Unit := modify fun e => { e with begun := e.begun.filter fun b => b.1 ≠ i }
  let begin' (stop : Option Nat) : Editing Unit := modify fun e => { e with begun := (i, stop) :: e.begun }
  match sel with
  | .all => return true
  | .at a => isAt a
  | .from a b =>
    match e.begun.lookup i with
    | some (some stop) => do
      if stop ≤ e.number then finish
      return e.number ≤ stop
    | some none => do
      if ← isAt b then finish
      return true
    | none => do
      if !(← isAt a) then return false
      match b with
      | .line n => if e.number < n then begin' (some n)
      | _ => begin' none
      return true

-- Carries out a command for the line.
def perform (c : Command) : Editing Unit := do
  let e ← get
  match c with
  | .delete => set { e with deleted := true }
  | .print => put e.pattern
  | .number => put (toString e.number).toList
  | .quit status => set { e with stopped := some status }
  | .substitute t => do
    match ← used t.regex with
    | none => pure ()
    | some r => do
      let v : Regex.View := { text := e.pattern.toArray, fold := t.fold }
      match replaceFrom t v r (v.text.size + 2) 0 0 none [] with
      | (_, false) => pure ()
      | (parts, true) => do
        let new := parts.reverse.flatten
        modify fun e => { e with pattern := new }
        if t.print then put new
  | .translate table => set { e with pattern := e.pattern.map fun c => (table.lookup c).getD c }

-- Runs the script for one line.
def editLine (s : Settings) (line : List Char) (isLast : Bool) : Editing Unit := do
  modify fun e => { e with pattern := line, number := e.number + 1, isLast := isLast, deleted := false }
  for (step, i) in s.steps.zipIdx do
    let e ← get
    if !e.deleted ∧ e.stopped.isNone then
      if (← selects i step.selection) ≠ step.negated then perform step.command
  let e ← get
  if !e.deleted ∧ !s.silent then put e.pattern

def editLines (s : Settings) : List (List Char) → Editing Unit
  | [] => return
  | line :: rest => do
    editLine s line (rest = [])
    if (← get).stopped.isNone then editLines s rest

-- A text after editing, and the status. A text without an end stays without one.
def edit (s : Settings) (text : List Char) : List Char × Nat :=
  let (ls, ended) := linesBy '\n' text
  let ((), e) := (editLines s ls).run {}
  let new := unlines e.lines.reverse
  (if !ended ∧ e.number = ls.length then new.dropLast else new, e.stopped.getD 0)

end Sed

namespace Utility

open Text

def sedTable : OptionTable where
  letters := "Ee:i::nrs"
  names := [⟨"regexp-extended", 'E', .nothing⟩, ⟨"expression", 'e', .value⟩, ⟨"in-place", 'i', .perhaps⟩,
    ⟨"quiet", 'n', .nothing⟩, ⟨"silent", 'n', .nothing⟩, ⟨"separate", 's', .nothing⟩]

def sedUsage : Action Nat := do
  complain (rawOf "Usage: sed [OPTION]... \x7bscript-only-if-no-other-script\x7d [input-file]...")
  return 1

-- Edits each of some files in its place.
def editFiles (c : Call) (s : Sed.Settings) : List (List Char) → Nat → Action Nat
  | [], status => return status
  | file :: rest, status => do
    let p ← get
    match p.find file with
    | .error f => do
      c.complain (rawOf "can't read " ++ file ++ rawOf (": " ++ f.message))
      editFiles c s rest 2
    | .ok (l, .file content executable) => do
      let (new, stopped) := Sed.edit s (raw content)
      set { p.detach l with disk := p.disk.put l (.file (unraw new) executable) }
      if stopped ≠ 0 then return stopped
      editFiles c s rest status
    | .ok _ => do
      c.complain (rawOf "couldn't edit " ++ file ++ rawOf ": not a regular file")
      return 4

-- Edits streams of lines.
def sed (c : Call) : Action Nat :=
  match sedTable.read c.arguments with
  | .error e => do
    c.complain e
    sedUsage
  | .ok g => do
    let scripts := if g.has 'e' then g.values 'e' else g.operands.take 1
    let files := if g.has 'e' then g.operands else g.operands.drop 1
    if scripts = [] then return ← sedUsage
    match Sed.read (g.has 'E' || g.has 'r') (['\n'].intercalate scripts) with
    | .error (n, e) => do
      c.complainText ("-e expression #1, char " ++ toString n ++ ": " ++ e)
      return 1
    | .ok steps => do
      let s : Sed.Settings := ⟨steps, g.has 'n'⟩
      if g.has 'i' then return ← editFiles c s files 0
      let mut text : List Char := []
      let mut status := 0
      for file in orInput files do
        match ← textOfFile 1048576 file with
        | .ok t => text := text ++ t
        | .error f => do
          let what := if f = DiskFault.isDirectory.message then "couldn't read " else "can't read "
          c.complain (rawOf what ++ file ++ rawOf (": " ++ f))
          status := 2
      let (new, stopped) := Sed.edit s text
      emit new
      return if stopped = 0 then status else stopped

end Scaffold.Shell.Utility
