import Scaffold.Tool
import Scaffold.Shell.Program

namespace Scaffold.Shell

open Text

structure Call where
  -- The name that it was called by, which is part of its complaints.
  name : List Char
  arguments : List (List Char)

abbrev Utility :=
  Call → Action Nat

-- Starts a program by its name, with arguments, in the place of the process.
abbrev Launcher :=
  List (List Char) → Action (Except StartFault Ending)

-- A utility that starts other programs.
abbrev Starter :=
  Launcher → Call → Action Ending

def isPrintable (c : Char) : Bool :=
  ' ' ≤ c && c ≤ '~'

-- An octet that cannot be shown, behind a backslash.
def escapedOctet (c : Char) : List Char :=
  let letters : List (Char × Char) :=
    [('\x07', 'a'), ('\x08', 'b'), ('\t', 't'), ('\n', 'n'), ('\x0b', 'v'), ('\x0c', 'f'), ('\r', 'r')]
  match letters.lookup c with
  | some l => ['\\', l]
  | none =>
    let digit (n : Nat) : Char := Char.ofNat ('0'.toNat + n % 8)
    ['\\', digit (c.toNat / 64), digit (c.toNat / 8), digit c.toNat]

-- The inside of a name in quotes; octets that cannot be shown stand between quotes of another kind.
def quotedInside (shown : Bool) : List Char → List Char
  | [] => if shown then [] else ['\'']
  | c :: cs =>
    if isPrintable c then
      let c := if c = '\'' then ['\'', '\\', '\'', '\''] else [c]
      (if shown then [] else ['\'', '\'']) ++ c ++ quotedInside true cs
    else (if shown then ['\'', '$', '\''] else []) ++ escapedOctet c ++ quotedInside false cs

-- Characters that double quotes protect as well.
def isSafe (c : Char) : Bool :=
  isPrintable c && !"!\"$&()*;<=>?[\\^\x60|".toList.contains c

-- A name in quotes.
def quoted (s : List Char) : List Char :=
  if s.contains '\'' ∧ s.all isSafe then '"' :: s ++ ['"']
  else
    let inside := quotedInside true s
    '\'' :: inside ++ (if (s.getLast?.map isPrintable) == some false then [] else ['\''])

-- Whether a shell would take a name for something else without quotes.
def needsQuotes (s : List Char) : Bool :=
  s.any (fun c => !isPrintable c || " !\"$&'()*:;<=>?[\\^\x60|".toList.contains c) ||
    s.head?.all (fun c => c == '#' || c == '~') || s == ['\x7b'] || s == ['\x7d']

def quotedIfNeeded (s : List Char) : List Char :=
  if needsQuotes s then quoted s else s

-- Complains in the name of a utility.
def Call.complain (c : Call) (text : List Char) : Action Unit :=
  Shell.complain (c.name ++ [':', ' '] ++ text)

def Call.complainText (c : Call) (text : String) : Action Unit :=
  c.complain (rawOf text)

-- Complains about a file.
def Call.complainOf (c : Call) (file : List Char) (fault : String) : Action Unit :=
  c.complain (quotedIfNeeded file ++ rawOf (": " ++ fault))

-- Complains that something cannot be done with a file, such as `cannot remove`.
def Call.complainCannot (c : Call) (what : String) (file : List Char) (fault : String) : Action Unit :=
  c.complain (rawOf (what ++ " ") ++ quoted file ++ rawOf (": " ++ fault))

-- Runs a utility. Who writes what nobody will read is killed, and output that could not be written counts
-- for the status.
def Utility.run (u : Utility) (writeFailure : Nat) (c : Call) : Action Ending := do
  modify fun p => { p with broken := false, unwritten := none }
  let status ← u c
  let p ← get
  if p.broken then return .killed 13
  if p.late then return .killed 9
  match p.unwritten with
  | some f => do
    c.complainText ("write error: " ++ f.message)
    return .exited (Int.ofNat (max status writeFailure))
  | none => return .exited (Int.ofNat status)

-- Reads from a file, or from the input for a dash. Of what is there `take` makes a value; it says how much
-- it used, and whether it would have used more. Of what has no end there are `limit` octets.
def readFile {α : Type} (limit : Nat) (file : List Char) (take : List Char → α × Nat × Bool) :
    Action (Except String α) := do
  let p ← get
  if file = ['-'] then
    match p.readBy 0 limit take with
    | .ok (a, p) => do
      set p
      return .ok a
    | .error f => return .error f.message
  else match p.openPath file .input with
    | .error f => return .error f.message
    | .ok (id, q) =>
      match (q.channels.lookup id).map (q.readable limit) with
      | none => return .error DiskFault.missing.message
      | some (.error f) => return .error f.message
      | some (.ok (s, rest)) => do
        let (a, n, _) := take s
        -- A path may lead to what was open before, and that goes on from there.
        if (p.channels.lookup id).isSome then set (q.setChannel id (rest n))
        return .ok a

-- The text of a file.
def textOfFile (limit : Nat) (file : List Char) : Action (Except String (List Char)) :=
  readFile limit file fun s => (s, s.length, true)

-- The files that are meant where none are given.
def orInput (files : List (List Char)) : List (List Char) :=
  if files.isEmpty then [['-']] else files

-- The lines of a text, up to each of some ends; the flag says whether the last one is ended.
def linesBy (e : Char) (s : List Char) : List (List Char) × Bool :=
  match (s.splitOn e).reverse with
  | [] :: rest => (rest.reverse, true)
  | all => (all.reverse, false)

def lines (s : List Char) : List (List Char) :=
  (linesBy '\n' s).1

-- The lines of a text with their ends.
def fullLines (s : List Char) : List (List Char) :=
  let (ls, ended) := linesBy '\n' s
  match ended, ls.reverse with
  | false, last :: rest => (rest.reverse.map fun l => l ++ ['\n']) ++ [last]
  | _, _ => ls.map fun l => l ++ ['\n']

def unlines (ls : List (List Char)) : List Char :=
  ls.flatMap fun l => l ++ ['\n']

-- Reads each of some files; those that cannot be read are complained about.
def Call.eachText (c : Call) (limit : Nat) (files : List (List Char)) (f : List Char → List Char → Action Nat) :
    Action Nat := do
  let mut status := 0
  for file in files do
    match ← textOfFile limit file with
    | .ok s => status := max status (← f file s)
    | .error e => do
      c.complainOf file e
      status := max status 1
  return status

-- How much a letter behind a number multiplies it, as in `2K`.
def unitOf? (s : List Char) : Option Nat :=
  let powers := "KMGTPEZYRQ".toList
  match s with
  | [] => some 1
  | ['b'] => some 512
  | ['k'] => some 1024
  | ['k', 'B'] => some 1000
  | c :: rest =>
    (powers.idxOf? c).bind fun i =>
      if rest = [] ∨ rest = ['i', 'B'] then some (Nat.pow 1024 (i + 1))
      else if rest = ['B'] then some (Nat.pow 1000 (i + 1))
      else none

-- A number of lines or octets.
def amount? (s : List Char) : Option Nat :=
  let digits := s.takeWhile Char.isDigit
  if digits = [] then none else (unitOf? (s.drop digits.length)).map fun u => Arithmetic.natural digits * u

-- A number in a field of some width.
def numberIn (width n : Nat) : List Char :=
  (toString n).toList.leftpad width ' '

end Scaffold.Shell
