import Scaffold.Disk.Walk

namespace Scaffold.Disk

open Text

-- Writes a file, a new one if there is none; one that was there keeps its mode.
def write (d : Disk) (cwd : Location) (path : String) (content : Octets) : Except DiskFault Disk := do
  let l ← d.locate cwd path true
  match d.get? l with
  | none => return d.put l (.file content false)
  | some (.file _ executable) => return d.put l (.file content executable)
  | some (.device _) => return d
  | some .directory => throw .isDirectory
  | some _ => throw .denied

-- Writes behind what a file holds.
def append (d : Disk) (cwd : Location) (path : String) (content : Octets) : Except DiskFault Disk := do
  let l ← d.locate cwd path true
  match d.get? l with
  | some (.file before executable) => return d.put l (.file (before ++ content) executable)
  | _ => d.write cwd path content

def setExecutable (d : Disk) (cwd : Location) (path : String) (executable : Bool) :
    Except DiskFault Disk := do
  match ← d.find cwd path with
  | (l, .file content _) => return d.put l (.file content executable)
  | _ => return d

def trimSlashes (path : String) : String :=
  let s := (path.toList.reverse.dropWhile (· == '/')).reverse
  if s = [] ∧ path ≠ "" then "/" else String.ofList s

def makeDirectory (d : Disk) (cwd : Location) (path : String) : Except DiskFault Disk := do
  let l ← d.locate cwd (trimSlashes path) false
  match d.get? l with
  | none => return d.put l .directory
  | some _ => throw .present

-- The paths of all directories on the way to a path, itself the last.
def ancestors (path : String) : List String :=
  let add (acc : List String × String) (n : List Char) : List String × String :=
    let p := acc.2 ++ String.ofList n
    (if n = [] then acc.1 else acc.1 ++ [p], p ++ "/")
  ((path.toList.splitOn '/').foldl add ([], "")).1

-- Makes the directories at some paths, one after the other, where they are missing; stops at the first that
-- cannot be made.
def makeAll (d : Disk) (cwd : Location) : List String → Disk × Option DiskFault
  | [] => (d, none)
  | p :: ps =>
    if d.isDirectory cwd p then makeAll d cwd ps
    else match d.makeDirectory cwd p with
      | .ok d => makeAll d cwd ps
      | .error f => (d, some f)

-- Makes a directory and those on the way to it, where they are missing. What was made stays, also if the
-- rest cannot be.
def makeDirectories (d : Disk) (cwd : Location) (path : String) : Disk × Option DiskFault :=
  d.makeAll cwd (ancestors path)

def makeLink (d : Disk) (cwd : Location) (path target : String) : Except DiskFault Disk := do
  if target = "" then throw .missing
  let l ← d.locate cwd path false
  match d.get? l with
  | none => return d.put l (.link target)
  | some _ => throw .present

-- Removes what is no directory; a link goes, not what it leads to.
def removeFile (d : Disk) (cwd : Location) (path : String) : Except DiskFault Disk := do
  let l ← d.locate cwd path false
  match d.get? l with
  | none => throw .missing
  | some .directory => throw .isDirectory
  | some _ => return d.erase l

def removeDirectory (d : Disk) (cwd : Location) (path : String) : Except DiskFault Disk := do
  let l ← d.locate cwd path false
  match d.get? l with
  | none => throw .missing
  | some .directory => if d.children l = [] then return d.erase l else throw .notEmpty
  | some _ => throw .notDirectory

-- Removes an entry with all that is below it.
def removeTree (d : Disk) (cwd : Location) (path : String) : Except DiskFault Disk := do
  let l ← d.locate cwd path false
  match d.get? l with
  | none => throw .missing
  | some _ => return d.eraseTree l

-- Moves an entry, with all that is below it, to a place that is free or holds a file.
def move (d : Disk) (cwd : Location) (source target : String) : Except DiskFault Disk := do
  let l ← d.locate cwd source false
  let m ← d.locate cwd target false
  match d.get? l, d.get? m with
  | none, _ => throw .missing
  | some .directory, some .directory => if d.children m = [] then pure () else throw .notEmpty
  | some .directory, some _ => throw .notDirectory
  | some _, some .directory => throw .isDirectory
  | some _, _ => pure ()
  if l = m then return d
  if l.isPrefixOf m then throw .invalid
  -- All that was below the old place keeps its way below the new one.
  let moved := d.entries.filter fun e => l.isPrefixOf e.1
  return moved.foldr (fun e d => d.put (m ++ e.1.drop l.length) e.2) (d.eraseTree l |>.erase m)

-- Every place below `l`, written relative to it, directories with a slash at the end, in the order of
-- their octets.
def tree (d : Disk) (l : Location) : List String :=
  let below := d.entries.filterMap fun (k, e) =>
    if l.isPrefixOf k ∧ k ≠ l then
      some ("/".intercalate (k.drop l.length) ++ if e = .directory then "/" else "")
    else none
  below.mergeSort fun a b => !decide (b < a)

end Scaffold.Disk
