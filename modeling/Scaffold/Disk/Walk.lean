import Scaffold.Disk.Basic
import Scaffold.Path

namespace Scaffold

open Text

-- Why something cannot be done with a path.
inductive DiskFault
  | missing
  | notDirectory
  | isDirectory
  | denied
  | present
  | notEmpty
  | tooManyLinks
  | nameTooLong
  | invalid
  -- A program of the system cannot be written to.
  | busy
deriving DecidableEq, Repr

namespace DiskFault

def message : DiskFault → String
  | missing => "No such file or directory"
  | notDirectory => "Not a directory"
  | isDirectory => "Is a directory"
  | denied => "Permission denied"
  | present => "File exists"
  | notEmpty => "Directory not empty"
  | tooManyLinks => "Too many levels of symbolic links"
  | nameTooLong => "File name too long"
  | invalid => "Invalid argument"
  | busy => "Text file busy"

-- The number that stands for the fault in the system's own messages.
def number : DiskFault → Nat
  | missing => 2
  | notDirectory => 20
  | isDirectory => 21
  | denied => 13
  | present => 17
  | notEmpty => 39
  | tooManyLinks => 40
  | nameTooLong => 36
  | invalid => 22
  | busy => 26

end DiskFault

namespace Disk

def maxLinks : Nat := 40

def maxName : Nat := 255

def maxPath : Nat := 4095

-- The steps of a path; a slash at the end is a step that only a directory allows.
def steps (path : String) : List String :=
  let ns := ((path.toList.splitOn '/').filter fun n => n ≠ []).map String.ofList
  if Path.endsOpen path then ns ++ ["."] else ns

-- Where the steps lead from `l`. The last of them may lead to a place with no entry; a link there is
-- followed only if `last` says so.
def walk (d : Disk) (last : Bool) (links : Nat) (l : Location) : List String → Except DiskFault Location
  | [] => .ok l
  | n :: rest =>
    match d.get? l with
    | some .directory =>
      if n = "." then walk d last links l rest
      else if n = ".." then walk d last links l.dropLast rest
      else if maxName < n.utf8ByteSize then .error .nameTooLong
      else match d.get? (l ++ [n]) with
        | none => if rest = [] then .ok (l ++ [n]) else .error .missing
        | some (.link target) =>
          -- A link that ends the path is a place of its own, if it is not to be followed.
          if rest = [] ∧ last = false then .ok (l ++ [n])
          else match links with
            | 0 => .error .tooManyLinks
            | k + 1 => walk d last k (if Path.isAbsolute target then [] else l) (steps target ++ rest)
        | some _ => walk d last links (l ++ [n]) rest
    | some _ => .error .notDirectory
    | none => .error .missing
termination_by s => (links, s.length)

-- The place that a path denotes, seen from the working directory `cwd`.
def locate (d : Disk) (cwd : Location) (path : String) (last : Bool) : Except DiskFault Location :=
  if path = "" then .error .missing
  else if path.toList.contains '\x00' then .error .invalid
  else if maxPath < path.utf8ByteSize then .error .nameTooLong
  else d.walk last maxLinks (if Path.isAbsolute path then [] else cwd) (steps path)

-- The entry that a path denotes once links are followed, and its place.
def find (d : Disk) (cwd : Location) (path : String) : Except DiskFault (Location × Entry) :=
  match d.locate cwd path true with
  | .error f => .error f
  | .ok l =>
    match d.get? l with
    | some e => .ok (l, e)
    | none => .error .missing

def find? (d : Disk) (cwd : Location) (path : String) : Option Entry :=
  (d.find cwd path).toOption.map Prod.snd

def isFile (d : Disk) (cwd : Location) (path : String) : Bool :=
  (d.find? cwd path).any Entry.isFile

def isDirectory (d : Disk) (cwd : Location) (path : String) : Bool :=
  d.find? cwd path == some .directory

def holds (d : Disk) (cwd : Location) (path : String) : Bool :=
  (d.find? cwd path).isSome

-- The names in the directory that a path denotes.
def list (d : Disk) (cwd : Location) (path : String) : Except DiskFault (List String) :=
  match d.find cwd path with
  | .error f => .error f
  | .ok (l, .directory) => .ok (d.children l)
  | .ok _ => .error .notDirectory

-- What a file holds. Devices hold nothing, and the programs of the system cannot be read.
def read (d : Disk) (cwd : Location) (path : String) : Except DiskFault Octets :=
  match d.find cwd path with
  | .error f => .error f
  | .ok (_, .file content _) => .ok content
  | .ok (_, .directory) => .error .isDirectory
  | .ok (_, .program _) => .error .denied
  | .ok _ => .ok []

-- The text of a place.
def pathOf (l : Location) : String :=
  "/" ++ "/".intercalate l

theorem isAbsolute_pathOf (l : Location) : Path.isAbsolute (pathOf l) = true :=
  Path.isAbsolute_append rfl _

end Disk
end Scaffold
