import Scaffold.Shell.Utility.Options
import Scaffold.Shell.Builtin.Directory

namespace Scaffold.Shell.Utility

open Text

def dropSlashes (s : List Char) : List Char :=
  (s.reverse.dropWhile (· = '/')).reverse

-- The last name in a path.
def lastName (s : List Char) : List Char :=
  let t := dropSlashes s
  if t = [] then s.take 1 else (t.reverse.takeWhile (· ≠ '/')).reverse

-- The path without its last name.
def parentPath (s : List Char) : List Char :=
  let t := dropSlashes s
  if t = [] then (if s = [] then ['.'] else ['/'])
  else
    let front := (t.reverse.dropWhile (· ≠ '/')).reverse
    if front = [] then ['.']
    else
      let d := dropSlashes front
      if d = [] then ['/'] else d

-- A name without an ending, unless it is nothing else.
def withoutEnding (ending name : List Char) : List Char :=
  if ending ≠ [] ∧ name ≠ ending ∧ ending.isSuffixOf name then name.take (name.length - ending.length) else name

def basename (c : Call) : Action Nat :=
  c.withOptions 1 { letters := "", mixed := false } fun g =>
    match g.operands with
    | [] => c.misused 1 (rawOf "missing operand")
    | _ :: _ :: extra :: _ => c.misused 1 (rawOf "extra operand " ++ quoted extra)
    | name :: rest => do
      emitLine (withoutEnding (rest.headD []) (lastName name))
      return 0

def dirname (c : Call) : Action Nat :=
  c.withOptions 1 { letters := "" } fun g => do
    if g.operands.isEmpty then return ← c.misused 1 (rawOf "missing operand")
    emit (unlines (g.operands.map parentPath))
    return 0

def pwd (c : Call) : Action Nat :=
  c.withOptions 1 { letters := "P" } fun _ => do
    emitLine (rawOf (Disk.pathOf (← get).cwd))
    return 0

-- The entry at a place, and the place itself, without following a link at the end.
def entryAt (p : Process) (path : List Char) : Except DiskFault (Location × Entry) :=
  match p.disk.locate p.cwd (textOf path) false with
  | .error f => .error f
  | .ok l =>
    match p.disk.get? l with
    | some e => .ok (l, e)
    | none => .error .missing

def isDirectoryPath (p : Process) (path : List Char) : Bool :=
  p.disk.isDirectory p.cwd (textOf path)

-- A path with a name behind it.
def behind (dir name : List Char) : List Char :=
  if dir.getLast? = some '/' then dir ++ name else dir ++ '/' :: name

-- Runs something for each of some arguments; the status is that of the worst.
def worstOf (args : List (List Char)) (f : List Char → Action Nat) : Action Nat :=
  args.foldlM (fun worst a => do return max worst (← f a)) 0

-- Carries out a change to the disk; a fault is said to be something that cannot be done with a file.
def changing (c : Call) (what : String) (file : List Char) (f : Disk → Location → Except DiskFault Disk) :
    Action Nat := do
  match ← change f with
  | none => return 0
  | some e => do
    c.complainCannot what file e.message
    return 1

-- Makes a directory and those on the way to it.
def makeAll (c : Call) (path : List Char) : Action Nat := do
  for q in (Disk.ancestors (textOf path)).map rawOf do
    let p ← get
    if !isDirectoryPath p q then
      match ← change fun d cwd => d.makeDirectory cwd (textOf q) with
      | none => pure ()
      | some f => do
        let fault := if f = .present ∧ dropSlashes q ≠ dropSlashes path then DiskFault.notDirectory else f
        let shown := if fault ≠ .notDirectory then path
          else if (entryAt p q).toOption.isSome then q else parentPath q
        c.complainCannot "cannot create directory" shown fault.message
        return 1
  return 0

def mkdir (c : Call) : Action Nat :=
  let table : OptionTable := { letters := "m:p", names := [⟨"mode", 'm', .value⟩, ⟨"parents", 'p', .nothing⟩] }
  c.withOptions 1 table fun g => do
    if g.operands.isEmpty then return ← c.misused 1 (rawOf "missing operand")
    worstOf g.operands fun path =>
      if g.has 'p' ∧ path ≠ [] then makeAll c path
      else changing c "cannot create directory" path fun d cwd => d.makeDirectory cwd (textOf path)

def rmdir (c : Call) : Action Nat :=
  c.withOptions 1 { letters := "" } fun g => do
    if g.operands.isEmpty then return ← c.misused 1 (rawOf "missing operand")
    worstOf g.operands fun path => changing c "failed to remove" path fun d cwd => d.removeDirectory cwd (textOf path)

-- How files are removed.
structure Removal where
  deep : Bool
  directories : Bool
  force : Bool

-- Removes what lies at a path, with all that is below it.
def removeTree (c : Call) (r : Removal) : Nat → List Char → Action Nat
  | 0, _ => return 1
  | n + 1, path => do
    let p ← get
    let failed (f : DiskFault) : Action Nat := do
      c.complainCannot "cannot remove" path f.message
      return 1
    match entryAt p path with
    | .error f => if r.force ∧ (f = .missing ∨ f = .notDirectory) then return 0 else failed f
    | .ok (l, .directory) => do
      let names := p.disk.children l
      if !r.deep ∧ !r.directories then return ← failed .isDirectory
      if !r.deep ∧ !names.isEmpty then return ← failed .notEmpty
      let status ← worstOf (names.map fun m => behind path (rawOf m)) (removeTree c r n)
      return max status (← changing c "cannot remove" path fun d _ => d.removeDirectory [] (Disk.pathOf l))
    | .ok (l, _) => changing c "cannot remove" path fun d _ => d.removeFile [] (Disk.pathOf l)

-- How deep directories may be inside one another.
def maxDepth : Nat := 4096

def rm (c : Call) : Action Nat :=
  let table : OptionTable := {
    letters := "dfrR"
    names := [⟨"force", 'f', .nothing⟩, ⟨"recursive", 'r', .nothing⟩, ⟨"dir", 'd', .nothing⟩] }
  c.withOptions 1 table fun g => do
    if g.operands.isEmpty then
      if g.has 'f' then return 0 else return ← c.misused 1 (rawOf "missing operand")
    let r : Removal := ⟨g.has 'r' || g.has 'R', g.has 'd', g.has 'f'⟩
    worstOf g.operands fun path => do
      let name := lastName path
      if r.deep ∧ (name = ['.'] ∨ name = ['.', '.']) then
        c.complain (rawOf "refusing to remove '.' or '..' directory: skipping " ++ quoted path)
        return 1
      if r.deep ∧ path ≠ [] ∧ dropSlashes path = [] then
        c.complainText "it is dangerous to operate recursively on '/'"
        c.complainText "use --no-preserve-root to override this failsafe"
        return 1
      removeTree c r maxDepth path

def touch (c : Call) : Action Nat :=
  c.withOptions 1 { letters := "acm", names := [⟨"no-create", 'c', .nothing⟩] } fun g => do
    if g.operands.isEmpty then return ← c.misused 1 (rawOf "missing file operand")
    worstOf g.operands fun path => do
      match (← get).find path with
      | .ok _ => return 0
      | .error .missing =>
        if g.has 'c' then return 0
        if path.getLast? = some '/' then
          c.complainCannot "setting times of" path DiskFault.missing.message
          return 1
        changing c "cannot touch" path fun d cwd => d.write cwd (textOf path) []
      | .error f => do
        c.complainCannot "cannot touch" path f.message
        return 1

-- Whether a mode lets a file be run.
def modeRuns? (before : Bool) (mask : Nat) (mode : List Char) : Option Bool :=
  if mode ≠ [] ∧ mode.all Arithmetic.isOctal then
    some (Builtin.octalValue mode &&& 73 != 0)
  else
    let old := if before then 493 else 420
    -- Without a word on whom it is for, the mask keeps what new files do not get.
    let anyone := (mode.splitOn ',').all fun clause => !(clause.head?.any fun c => "+-=".toList.contains c)
    (Builtin.symbolic? old mode).map fun new =>
      (if anyone then new else new - (new &&& mask &&& (511 - old))) &&& 73 != 0

def chmod (c : Call) : Action Nat :=
  -- A mode such as `-x` looks like an option.
  let args := c.arguments.map fun a =>
    match a with
    | '-' :: d :: _ => if "rwx".toList.contains d then 'a' :: a else a
    | _ => a
  { c with arguments := args }.withOptions 1 { letters := "" } fun g =>
    match g.operands with
    | [] => c.misused 1 (rawOf "missing operand")
    | [mode] => c.misused 1 (rawOf "missing operand after " ++ quoted mode)
    | mode :: files => do
      if (modeRuns? false 0 mode).isNone then return ← c.misused 1 (rawOf "invalid mode: " ++ quoted mode)
      worstOf files fun path => do
        let p ← get
        match p.find path with
        | .error f => do
          c.complainCannot "cannot access" path f.message
          return 1
        | .ok (l, .file _ before) =>
          changing c "changing permissions of" path fun d _ =>
            d.setExecutable [] (Disk.pathOf l) ((modeRuns? before p.mask mode).getD before)
        | .ok _ => return 0

-- The sources of `cp`, `mv` and `ln`, each with the target that it goes to: all into one directory, or one to
-- a name of its own.
def transfers (c : Call) (g : Given) : Action (Except Nat (List (List Char × List Char))) := do
  let p ← get
  match g.operands.reverse with
  | [] => return .error (← c.misused 1 (rawOf "missing file operand"))
  | [a] => return .error (← c.misused 1 (rawOf "missing destination file operand after " ++ quoted a))
  | t :: sources =>
    if isDirectoryPath p t then return .ok (sources.reverse.map fun s => (s, behind t (lastName s)))
    else match sources with
      | [s] => return .ok [(s, t)]
      | _ => do
        let fault := if p.holds t then DiskFault.notDirectory else .missing
        c.complain (rawOf "target " ++ quoted t ++ rawOf (": " ++ fault.message))
        return .error 1

-- Carries out each of some transfers; the status is that of the worst.
def transferAll (c : Call) (g : Given) (f : List Char → List Char → Action Nat) : Action Nat := do
  match ← transfers c g with
  | .error status => return status
  | .ok ts => ts.foldlM (fun worst (s, t) => do return max worst (← f s t)) 0

-- What is said where one of a directory and another file is in the way of the other.
def complainMixed (c : Call) (source target : List Char) (isDirectory : Bool) : Action Nat := do
  c.complain (if isDirectory
    then rawOf "cannot overwrite non-directory " ++ quoted target ++ rawOf " with directory " ++ quoted source
    else rawOf "cannot overwrite directory " ++ quoted target ++ rawOf " with non-directory " ++ quoted source)
  return 1

-- Puts a copy of a file at a place.
def copyFile (c : Call) (source target : List Char) (e : Entry) : Action Nat := do
  let isNew := !(← get).holds target
  let (content, executable) : Octets × Bool := match e with
    | .file s x => (s, x)
    | .program _ => ([], true)
    | _ => ([], false)
  if isDirectoryPath (← get) target then return ← complainMixed c source target false
  if target.getLast? = some '/' ∧ isNew then
    c.complainCannot "cannot create regular file" target DiskFault.notDirectory.message
    return 1
  let status ← changing c "cannot create regular file" target fun d cwd => d.write cwd (textOf target) content
  if isNew ∧ status = 0 then
    changing c "preserving permissions for" target fun d cwd => d.setExecutable cwd (textOf target) executable
  else return status

-- Copies an entry, and below a directory all that is in it.
def copyTree (c : Call) (deep : Bool) : Nat → List Char → List Char → Action Nat
  | 0, _, _ => return 1
  | n + 1, source, target => do
    let p ← get
    match p.find source with
    | .error f => do
      c.complainCannot "cannot stat" source f.message
      return 1
    | .ok (l, .directory) => do
      if !deep then
        c.complain (rawOf "-r not specified; omitting directory " ++ quoted source)
        return 1
      if p.holds target ∧ !isDirectoryPath p target then return ← complainMixed c source target true
      let status ← if p.holds target then pure 0
        else changing c "cannot create directory" target fun d cwd => d.makeDirectory cwd (textOf target)
      if status ≠ 0 then return status
      worstOf ((p.disk.children l).map rawOf) fun m => copyTree c deep n (behind source m) (behind target m)
    | .ok (_, e) => do
      if p.sameEntry source target then
        c.complain (quoted source ++ rawOf " and " ++ quoted target ++ rawOf " are the same file")
        return 1
      copyFile c source target e

def cp (c : Call) : Action Nat :=
  let table : OptionTable := {
    letters := "afprR"
    names := [⟨"archive", 'a', .nothing⟩, ⟨"force", 'f', .nothing⟩, ⟨"recursive", 'r', .nothing⟩] }
  c.withOptions 1 table fun g => transferAll c g (copyTree c (g.has 'r' || g.has 'R' || g.has 'a') maxDepth)

-- Moves an entry.
def moveOne (c : Call) (source target : List Char) : Action Nat := do
  let p ← get
  match entryAt p source with
  | .error f => do
    c.complainCannot "cannot stat" source f.message
    return 1
  | .ok (l, e) => do
    let there := (entryAt p target).toOption
    if there.any fun t => t.1 = l then
      c.complain (quoted source ++ rawOf " and " ++ quoted target ++ rawOf " are the same file")
      return 1
    let inside : Bool := match p.disk.locate p.cwd (textOf target) true with
      | .ok m => l.isPrefixOf m && e == .directory
      | .error _ => false
    if inside then
      c.complain (rawOf "cannot move " ++ quoted source ++ rawOf " to a subdirectory of itself, " ++ quoted target)
      return 1
    if there.any fun t => (t.2 = .directory) ≠ (e = .directory) then
      return ← complainMixed c source target (e = .directory)
    match ← change fun d cwd => d.move cwd (textOf source) (textOf target) with
    | none => return 0
    | some f => do
      c.complain (rawOf "cannot move " ++ quoted source ++ rawOf " to " ++ quoted target ++ rawOf (": " ++ f.message))
      return 1

def mv (c : Call) : Action Nat :=
  c.withOptions 1 { letters := "f", names := [⟨"force", 'f', .nothing⟩] } fun g => transferAll c g (moveOne c)

-- Makes a symbolic link; what is in its place goes if that is asked for.
def linkOne (c : Call) (force : Bool) (source target : List Char) : Action Nat := do
  if force ∧ ((entryAt (← get) target).toOption.any fun t => t.2 ≠ .directory) then
    let _ ← change fun d cwd => d.removeFile cwd (textOf target)
  changing c "failed to create symbolic link" target fun d cwd => d.makeLink cwd (textOf target) (textOf source)

def ln (c : Call) : Action Nat :=
  let table : OptionTable := { letters := "fs", names := [⟨"symbolic", 's', .nothing⟩, ⟨"force", 'f', .nothing⟩] }
  c.withOptions 1 table fun g =>
    match g.operands with
    | [source] => linkOne c (g.has 'f') source (lastName source)
    | _ => transferAll c g (linkOne c (g.has 'f'))

-- A mark behind a name that tells what it is, if letters of options ask for it.
def markOf (g : Given) (e : Entry) : List Char :=
  match e, g.has 'F' with
  | .directory, all => if all || g.has 'p' then ['/'] else []
  | .link _, true => ['@']
  | .file _ true, true => ['*']
  | .program _, true => ['*']
  | _, _ => []

-- Names in order, one a line.
def shownNames (g : Given) (names : List (List Char × Entry)) : List Char :=
  let sorted := names.mergeSort fun a b => !precedes b.1 a.1
  unlines ((if g.has 'r' then sorted.reverse else sorted).map fun (n, e) => n ++ markOf g e)

-- The names in a directory with what they are.
def namesIn (g : Given) (p : Process) (l : Location) : List (List Char × Entry) :=
  let dots : List (List Char × Entry) := if g.has 'a' then [(['.'], .directory), (['.', '.'], .directory)] else []
  let inner := (p.disk.children l).filterMap fun n => (p.disk.get? (l ++ [n])).map fun e => (rawOf n, e)
  (dots ++ inner).filter fun (n, _) => g.has 'a' || g.has 'A' || n.head? != some '.'

def ls (c : Call) : Action Nat :=
  let table : OptionTable := {
    letters := "aAdFpr1"
    names := [⟨"all", 'a', .nothing⟩, ⟨"almost-all", 'A', .nothing⟩, ⟨"directory", 'd', .nothing⟩,
      ⟨"classify", 'F', .nothing⟩, ⟨"reverse", 'r', .nothing⟩] }
  c.withOptions 2 table fun g => do
    let p ← get
    let args := if g.operands.isEmpty then [['.']] else g.operands
    let mut status := 0
    let mut files : List (List Char × Entry) := []
    let mut directories : List (List Char × Location) := []
    for a in args do
      match p.find a with
      | .ok (l, .directory) =>
        if g.has 'd' then files := files ++ [(a, .directory)] else directories := directories ++ [(a, l)]
      | .ok (_, e) => files := files ++ [(a, e)]
      | .error f => do
        c.complainCannot "cannot access" a f.message
        status := 2
    emit (shownNames g files)
    let titled (a : List Char) : List Char := if 1 < args.length then a ++ [':', '\n'] else []
    let listings := (directories.mergeSort fun a b => !precedes b.1 a.1).map fun (a, l) =>
      titled a ++ shownNames g (namesIn g p l)
    emit (['\n'].intercalate ((if files.isEmpty then [] else [[]]) ++ listings))
    return status

end Scaffold.Shell.Utility
