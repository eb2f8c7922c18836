import Scaffold.Shell.Utility.Regex

namespace Scaffold.Shell.Utility

open Text

-- What lines are looked for.
structure Search where
  patterns : List Regex
  fold : Bool
  inverted : Bool
  -- Whether only whole words or whole lines count.
  words : Bool
  whole : Bool

-- The first stretch from a place on that counts for one of the patterns.
def Search.find? (q : Search) (v : Regex.View) (from' : Nat) : Option (Nat × Nat) :=
  let fits (i j : Nat) : Bool :=
    (!q.words || (!v.wordBefore i && !v.wordAt j)) && (!q.whole || (i == 0 && j == v.text.size))
  let found := q.patterns.filterMap fun r =>
    (Regex.searchBy v r fits (v.text.size + 1 - from') from').map fun f => (f.start, f.stop)
  found.foldl (fun best f =>
    match best with
    | some b => if f.1 < b.1 ∨ (f.1 = b.1 ∧ b.2 < f.2) then some f else some b
    | none => some f) none

def Search.view (q : Search) (line : List Char) : Regex.View :=
  { text := line.toArray, fold := q.fold }

def Search.selects (q : Search) (line : List Char) : Bool :=
  (q.find? (q.view line) 0).isSome != q.inverted

-- The stretches of a line that match and are not empty.
def Search.parts (q : Search) (line : List Char) : List (List Char) :=
  let v := q.view line
  let rec go : Nat → Nat → List (List Char)
    | 0, _ => []
    | n + 1, i =>
      match q.find? v i with
      | none => []
      | some (a, b) =>
        if a = b then go n (b + 1) else (line.drop a).take (b - a) :: go n b
  go (line.length + 2) 0

-- Whether a text is none that is shown line by line.
def isBinary (s : List Char) : Bool :=
  s.contains '\x00' || s.any fun c => 127 < c.toNat

-- What is shown of a text, by the letters of options, and whether lines were found.
def report (c : Call) (g : Given) (q : Search) (named : Bool) (name s : List Char) : List Char × Bool :=
  let found := (lines s).zipIdx.filter fun (l, _) => q.selects l
  let found := match (g.value? 'm').bind Arithmetic.count? with
    | some most => found.take most
    | none => found
  let any := !found.isEmpty
  let front : List Char := if named then name ++ [':'] else []
  let shown (l : List Char) (i : Nat) : List Char :=
    let number := if g.has 'n' then (toString (i + 1)).toList ++ [':'] else []
    let parts := if !g.has 'o' then [l] else if q.inverted then [] else q.parts l
    unlines (parts.map fun part => front ++ number ++ part)
  let text :=
    if g.has 'q' then []
    else if g.has 'l' then (if any then name ++ ['\n'] else [])
    else if g.has 'L' then (if any then [] else name ++ ['\n'])
    else if g.has 'c' then front ++ (toString found.length).toList ++ ['\n']
    else if !g.has 'a' ∧ isBinary s then
      (if any then c.name ++ rawOf ": " ++ name ++ rawOf ": binary file matches\n" else [])
    else found.flatMap fun (l, i) => shown l i
  (text, any)

def grepTable : OptionTable where
  letters := "ace:EFGhHilLm:noqsvwxy"
  names := [⟨"extended-regexp", 'E', .nothing⟩, ⟨"fixed-strings", 'F', .nothing⟩, ⟨"basic-regexp", 'G', .nothing⟩,
    ⟨"regexp", 'e', .value⟩, ⟨"ignore-case", 'i', .nothing⟩, ⟨"invert-match", 'v', .nothing⟩,
    ⟨"word-regexp", 'w', .nothing⟩, ⟨"line-regexp", 'x', .nothing⟩, ⟨"count", 'c', .nothing⟩,
    ⟨"files-with-matches", 'l', .nothing⟩, ⟨"files-without-match", 'L', .nothing⟩, ⟨"max-count", 'm', .value⟩,
    ⟨"only-matching", 'o', .nothing⟩, ⟨"quiet", 'q', .nothing⟩, ⟨"silent", 'q', .nothing⟩,
    ⟨"no-messages", 's', .nothing⟩, ⟨"with-filename", 'H', .nothing⟩, ⟨"no-filename", 'h', .nothing⟩,
    ⟨"line-number", 'n', .nothing⟩, ⟨"text", 'a', .nothing⟩]

def grepUsage (c : Call) : Action Nat := do
  complain (rawOf "Usage: " ++ c.name ++ rawOf " [OPTION]... PATTERNS [FILE]...")
  c.hint
  return 2

-- Searches files or the input.
def searchFiles (c : Call) (g : Given) (q : Search) (files : List (List Char)) : Action Nat := do
  let named := match g.lastOf? ['h', 'H'] with
    | some o => o == 'H'
    | none => 1 < files.length
  let mut found := false
  let mut failed := false
  for file in orInput files do
    match ← textOfFile 1048576 file with
    | .ok s => do
      let name := if file = ['-'] then rawOf "(standard input)" else file
      let (text, any) := report c g q named name s
      emit text
      found := found || any
    | .error e => do
      if !g.has 's' then c.complainOf file e
      failed := failed || e ≠ DiskFault.isDirectory.message
  if found ∧ g.has 'q' then return 0
  return if failed then 2 else if found then 0 else 1

def grep (c : Call) : Action Nat :=
  match grepTable.read c.arguments with
  | .error e => do
    c.complain e
    grepUsage c
  | .ok g => do
    let patterns := (g.values 'e').flatMap fun t => t.splitOn '\n'
    match g.operands, g.has 'e' with
    | [], false => grepUsage c
    | operands, given => do
      let patterns := if given then patterns else (operands.headD []).splitOn '\n'
      let files := if given then operands else operands.drop 1
      let read (t : List Char) : Except String Regex :=
        match g.lastOf? ['E', 'F', 'G'] with
        | some 'F' => .ok (Regex.ofText t)
        | o => Regex.read (o == some 'E') t
      match patterns.mapM read with
      | .error e => do
        c.complainText e
        return 2
      | .ok patterns =>
        searchFiles c g ⟨patterns, g.has 'i' || g.has 'y', g.has 'v', g.has 'w' && !g.has 'x', g.has 'x'⟩ files

end Scaffold.Shell.Utility
