import Scaffold.Shell.Builtin.Basic

namespace Scaffold.Shell.Builtin

open Text

-- Where a path leads from a directory, by its text alone: `..` takes back the step before it. Two slashes in
-- front, no more, are a root of their own.
def logicalPath (current path : List Char) : List Char :=
  let absolute := path.head? == some '/'
  let start := if absolute then path else current
  let root := if start.take 2 = ['/', '/'] ∧ start[2]? ≠ some '/' then ['/', '/'] else ['/']
  let names := (if absolute then [] else current.splitOn '/') ++ path.splitOn '/'
  let steps := names.foldl (fun acc n =>
    if n = [] ∨ n = ['.'] then acc
    else if n = ['.', '.'] then acc.drop 1
    else n :: acc) []
  root ++ ['/'].intercalate steps.reverse

-- Whether the physical way is asked for; the last of the letters counts.
def isPhysical (os : List (Char × List Char)) : Bool :=
  (os.getLast?.map Prod.fst) == some 'P'

def physicalPath (s : State) : List Char :=
  rawOf (Disk.pathOf s.cwd)

-- Goes to a directory, if it can; the old one stays known.
def goTo (physical : Bool) (path : List Char) : Exec Bool := do
  let s ← get
  let logical := logicalPath s.directory path
  match s.find (if physical then path else logical) with
  | .ok (l, .directory) => do
    let directory := if physical then rawOf (Disk.pathOf l) else logical
    set { s with cwd := l, directory := directory }
    setVariable "OLDPWD".toList (some s.directory) fun v => { v with exported := true }
    setVariable "PWD".toList (some directory) fun v => { v with exported := true }
    return true
  | _ => return false

-- Whether a path says on its own where it starts.
def isAnchored (path : List Char) : Bool :=
  match path with
  | '/' :: _ => true
  | ['.'] => true
  | '.' :: '/' :: _ => true
  | ['.', '.'] => true
  | '.' :: '.' :: '/' :: _ => true
  | _ => false

-- The places where a path may start from, and whether going there is said.
def candidates (s : State) (path : List Char) : List (List Char × Bool) :=
  let path := if path = [] then ['.'] else path
  let listed := match s.valueOf? "CDPATH" with
    | some places => (places.splitOn ':').map fun p =>
        if p = [] then (path, false)
        else (if p.getLast? = some '/' then p ++ path else p ++ '/' :: path, true)
    | none => []
  (if isAnchored path then [] else listed.filter fun c => s.disk.isDirectory s.cwd (textOf c.1)) ++ [(path, false)]

def cd : Builtin := fun args => do
  let (os, args) ← optionsOf "LP" args
  let s ← get
  let (target, back) := match args with
    | [] => ((s.valueOf? "HOME").getD [], false)
    | ['-'] :: _ => ((s.valueOf? "OLDPWD").getD [], true)
    | a :: _ => (a, false)
  match candidates s target with
  | (path, listed) :: _ => do
    if ← goTo (isPhysical os) path then
      if back ∨ listed then sayLine (← get).directory
      setStatus 0
    else abort (rawOf "can't cd to " ++ target)
  | [] => setStatus 0

def pwd : Builtin := fun args => do
  let (os, _) ← optionsOf "LP" args
  let s ← get
  sayLine (if isPhysical os then physicalPath s else s.directory)
  setStatus 0

-- Three permissions as letters.
def permissionText (n : Nat) : List Char :=
  (if n / 4 % 2 = 1 then ['r'] else []) ++ (if n / 2 % 2 = 1 then ['w'] else []) ++
    if n % 2 = 1 then ['x'] else []

-- Changes permissions as symbols say, such as `u=rw,g-x`; `none` if they say nothing.
def symbolic? (before : Nat) (s : List Char) : Option Nat :=
  (s.splitOn ',').foldlM (fun mode clause => do
    let who := clause.takeWhile fun c => "ugoa".toList.contains c
    let whom := if who = [] ∨ who.contains 'a' then ['u', 'g', 'o'] else who
    match clause.drop who.length with
    | o :: letters =>
      let shiftOf (c : Char) : Nat := if c = 'u' then 64 else if c = 'g' then 8 else 1
      let bits ← letters.foldlM (fun acc c =>
        match c with
        | 'r' => some (acc ||| 4)
        | 'w' => some (acc ||| 2)
        | 'x' => some (acc ||| 1)
        | 'X' => some (acc ||| 1)
        | 's' => some acc
        | 't' => some acc
        | c => if "ugo".toList.contains c then some (acc ||| (mode / shiftOf c % 8)) else none) 0
      let change (mode : Nat) (c : Char) : Nat :=
        let k := shiftOf c
        let old := mode / k % 8
        let new := if o = '=' then bits else if o = '+' then old ||| bits else old &&& (7 - bits)
        mode - old * k + new * k
      if o = '=' ∨ o = '+' ∨ o = '-' then some (whom.foldl change mode) else none
    | [] => none) before

def octalValue (s : List Char) : Nat :=
  s.foldl (fun (n : Nat) (c : Char) => n * 8 + (c.toNat - '0'.toNat)) 0

-- The permissions that no file gets, as they are set.
def umask : Builtin := fun args => do
  let (os, args) ← optionsOf "S" args
  let s ← get
  match args with
  | [] =>
    if os.isEmpty then
      sayLine ((Nat.toDigits 8 s.mask).leftpad 4 '0')
    else
      let allowed := 511 - s.mask
      sayLine (rawOf "u=" ++ permissionText (allowed / 64 % 8) ++ rawOf ",g=" ++ permissionText (allowed / 8 % 8) ++
        rawOf ",o=" ++ permissionText (allowed % 8))
  | a :: _ =>
    if a.head?.any Char.isDigit then
      if a.all Arithmetic.isOctal ∧ a.length ≤ 4 then
        set { s with mask := octalValue a % 512 }
      else abort (rawOf "Illegal number: " ++ a)
    else match symbolic? (511 - s.mask) a with
      | some mode => set { s with mask := 511 - mode }
      | none => abort (rawOf "Illegal mode: " ++ a)
  setStatus 0

end Scaffold.Shell.Builtin
