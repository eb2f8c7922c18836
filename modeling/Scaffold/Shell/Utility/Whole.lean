import Scaffold.Shell.Utility.Options

namespace Scaffold.Shell.Utility

open Text

-- Whether a file that is to be read is the one that is written to.
def isOutput (p : Process) (file : List Char) (size : Nat) : Bool :=
  match p.channel? 1 with
  | some (_, .file place position access) =>
    let same := if file = ['-'] then
        match p.channel? 0 with
        | some (_, .file l _ _) => l == place
        | _ => false
      else match p.find file with
        | .ok (l, _) => l == place
        | .error _ => false
    same && 0 < (if access.appends then size else position)
  | _ => false

def cat (c : Call) : Action Nat :=
  c.withOptions 1 { letters := "u" } fun g => do
    if ((← get).channel? 1).isNone then
      c.complainText "standard output: Bad file descriptor"
      return 1
    c.eachText 1048576 (orInput g.operands) fun file s => do
      if isOutput (← get) file s.length then
        c.complainOf file "input file is output file"
        return 1
      emit s
      return 0

-- The name of an input above its part.
def titleOf (file : List Char) : List Char :=
  if file = ['-'] then rawOf "standard input" else file

-- Shows a part of each of some files, with titles if there are several.
def showParts (c : Call) (g : Given) (part : List Char → Action (Except String (List Char))) : Action Nat := do
  let files := orInput g.operands
  let titled := !g.has 'q' && 1 < files.length
  let mut status := 0
  let mut gap : List Char := []
  for file in files do
    let opens := file = ['-'] ∨ ((← get).openPath file .input).toOption.isSome
    if opens ∧ titled then
      emit (gap ++ rawOf "==> " ++ titleOf file ++ rawOf " <==\n")
      gap := ['\n']
    match ← part file with
    | .ok text => emit text
    | .error e => do
      status := 1
      if opens then c.complain (rawOf "error reading " ++ quoted (titleOf file) ++ rawOf (": " ++ e))
      else c.complain (rawOf "cannot open " ++ quoted file ++ rawOf (" for reading: " ++ e))
  return status

-- The old way to give a number of lines is a dash with the number.
def oldCount (args : List (List Char)) : List (List Char) :=
  match args with
  | ('-' :: c :: cs) :: rest => if (c :: cs).all Char.isDigit then ('-' :: 'n' :: c :: cs) :: rest else args
  | _ => args

-- How much of a text is meant: lines or octets, and how many of them; all but the others if `others`.
structure Portion where
  octets : Bool := false
  count : Nat := 10
  others : Bool := false

-- How much is meant by the options `-n` and `-c`; a number behind `sign` is about the others.
def portionOf (g : Given) (sign : Char) : Except (List Char) Portion :=
  match g.lastOf? ['n', 'c'] with
  | none => .ok {}
  | some o =>
    let v := (g.value? o).getD []
    let others := v.head? == some sign
    let number := if others ∨ v.head? = some '-' then v.drop 1 else v
    match amount? number with
    | some n => .ok ⟨o == 'c', n, others⟩
    | none => .error (rawOf ("invalid number of " ++ (if o = 'c' then "bytes" else "lines") ++ ": ") ++ quoted number)

def portionTable : OptionTable where
  letters := "c:n:q"
  names := [⟨"bytes", 'c', .value⟩, ⟨"lines", 'n', .value⟩, ⟨"quiet", 'q', .nothing⟩, ⟨"silent", 'q', .nothing⟩]

-- Shows of each file what is meant by the options.
def showPortions (c : Call) (sign : Char) (part : Portion → List Char → Action (Except String (List Char))) :
    Action Nat :=
  { c with arguments := oldCount c.arguments }.withOptions 1 portionTable fun g =>
    match portionOf g sign with
    | .error e => do
      c.complain e
      return 1
    | .ok portion => showParts c g (part portion)

-- The first lines of a text, how many octets they have, and whether there are as many as asked for.
def takeLines : Nat → List Char → List Char → Nat → List Char × Nat × Bool
  | 0, _, acc, n => (acc.reverse, n, false)
  | _, [], acc, n => (acc.reverse, n, true)
  | k + 1, c :: s, acc, n =>
    if c = '\n' then takeLines k s (c :: acc) (n + 1) else takeLines (k + 1) s (c :: acc) (n + 1)

-- How much is read of a pipe at once.
def blockSize : Nat := 8192

-- The first part of a text; of a pipe whole blocks are read.
def headOf (portion : Portion) (file : List Char) : Action (Except String (List Char)) := do
  let isPipe := match file, (← get).channel? 0 with
    | ['-'], some (_, .source ..) => true
    | _, _ => false
  readFile portion.count file fun s =>
    if portion.others then
      let ls := fullLines s
      let kept := if portion.octets then s.take (s.length - portion.count)
        else (ls.take (ls.length - portion.count)).flatten
      (kept, s.length, true)
    else if portion.octets then (s.take portion.count, min portion.count s.length, s.length < portion.count)
    else
      let (text, n, more) := takeLines portion.count s [] 0
      (text, if isPipe then (n + blockSize - 1) / blockSize * blockSize else n, more)

def head (c : Call) : Action Nat :=
  showPortions c '-' headOf

-- The last part of a text, or all from some place on.
def tailOf (portion : Portion) (s : List Char) : List Char :=
  let lastOf {α : Type} (xs : List α) : List α :=
    xs.drop (if portion.others then portion.count - 1 else xs.length - portion.count)
  if portion.octets then lastOf s else (lastOf (fullLines s)).flatten

def tail (c : Call) : Action Nat :=
  showPortions c '+' fun portion file => do
    return (← textOfFile 0 file).map (tailOf portion)

-- Passes the input on, and writes it to files as well.
def tee (c : Call) : Action Nat :=
  c.withOptions 1 { letters := "a", names := [⟨"append", 'a', .nothing⟩] } fun g => do
    let mut status := 0
    let mut ids : List Nat := []
    for file in g.operands do
      match (← get).openPath file (if g.has 'a' then .append else .output) with
      | .ok (id, p) => do
        set p
        ids := ids ++ [id]
      | .error f => do
        c.complainOf file f.message
        status := 1
    match ← textOfFile 1048576 ['-'] with
    | .error e => do
      c.complainText ("read error: " ++ e)
      return 1
    | .ok s => do
      emit s
      for id in ids do
        let p ← get
        match (p.channels.lookup id).map fun channel => p.writeTo id channel s with
        | some (.ok p) => set p
        | _ => pure ()
      return status

structure Counts where
  lines : Nat := 0
  words : Nat := 0
  octets : Nat := 0

-- Characters between words.
def isGapChar (c : Char) : Bool :=
  " \t\n\x0b\x0c\r".toList.contains c

def countsOf (s : List Char) : Counts where
  lines := s.count '\n'
  words := ((s.splitOnP isGapChar).filter (· ≠ [])).length
  octets := s.length

-- How wide the numbers are shown: for files as their sizes take, and wider for anything else.
def countWidth (p : Process) (files : List (List Char)) (columns : Nat) : Nat :=
  if files.length = 1 ∧ columns = 1 then 1
  else
    let sizes := files.map fun f =>
      if f = ['-'] then
        match p.channel? 0 with
        | some (_, .file place _ _) => some (Process.content p.disk place).length
        | _ => none
      else match p.find f with
        | .ok (_, .file s _) => some s.length
        | .ok _ => none
        | .error _ => some 0
    let width := (toString (sizes.foldl (fun n size => n + size.getD 0) 0)).length
    if sizes.any Option.isNone then max width 7 else width

def wc (c : Call) : Action Nat :=
  let table : OptionTable := {
    letters := "clmw"
    names := [⟨"bytes", 'c', .nothing⟩, ⟨"chars", 'm', .nothing⟩, ⟨"lines", 'l', .nothing⟩,
      ⟨"words", 'w', .nothing⟩] }
  c.withOptions 1 table fun g => do
    let asked := if g.options.isEmpty then ['l', 'w', 'c'] else g.options.map Prod.fst
    let columns (n : Counts) : List Nat :=
      (['l', 'w', 'm', 'c'].filter asked.contains).map fun o =>
        if o = 'l' then n.lines else if o = 'w' then n.words else n.octets
    let files := orInput g.operands
    let width := countWidth (← get) files (columns {}).length
    let line (n : Counts) (name : Option (List Char)) : List Char :=
      [' '].intercalate ((columns n).map (numberIn width)) ++ (name.map (' ' :: ·)).getD [] ++ ['\n']
    let mut status := 0
    let mut total : Counts := {}
    for file in files do
      let name := if g.operands.isEmpty then none else some file
      match ← textOfFile 0 file with
      | .ok s => do
        let n := countsOf s
        total := ⟨total.lines + n.lines, total.words + n.words, total.octets + n.octets⟩
        emit (line n name)
      | .error e => do
        c.complainOf file e
        if e = DiskFault.isDirectory.message then emit (line {} name)
        status := 1
    if 1 < files.length then emit (line total (some (rawOf "total")))
    return status

end Scaffold.Shell.Utility
