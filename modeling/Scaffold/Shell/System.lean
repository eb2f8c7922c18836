import Scaffold.Shell.Eval
import Scaffold.Config.Basic

namespace Scaffold.Shell

open Text

-- The directories of a system, outer ones first.
def systemDirectories : List Location :=
  [["tmp"], ["root"], ["home"], ["etc"], ["dev"], ["dev", "fd"], ["var"], ["var", "tmp"], ["opt"], ["usr"],
    ["usr", "bin"], ["usr", "sbin"], ["usr", "lib"], ["usr", "share"], ["usr", "local"], ["usr", "local", "bin"],
    ["usr", "local", "sbin"]]

def systemDevices : List (Location × Device) :=
  [(["dev", "null"], .null), (["dev", "zero"], .zero), (["dev", "full"], .full),
    (["dev", "stdin"], .descriptor 0), (["dev", "stdout"], .descriptor 1), (["dev", "stderr"], .descriptor 2)] ++
    (List.range 10).map fun n => (["dev", "fd", toString n], .descriptor n)

-- The disk of a system on which nothing was done yet.
def system : Disk :=
  let d := systemDirectories.foldl (fun d l => d.put l .directory) Disk.empty
  let d := programNames.foldl (fun d n => d.put ["usr", "bin", n] (.program n)) d
  let d := systemDevices.foldl (fun d (l, kind) => d.put l (.device kind)) d
  let d := ((d.put ["bin"] (.link "usr/bin")).put ["sbin"] (.link "usr/sbin")).put ["lib"] (.link "usr/lib")
  d.put ["etc", "passwd"] (.file (octets "root:x:0:0:root:/root:/bin/bash\n") false)

def holdsZero (s : String) : Bool :=
  s.toList.contains '\x00'

def StartFault.launchMessage (f : StartFault) : String :=
  f.message ++ " (os error " ++ toString f.number ++ ")"

-- What programs find in the environment: what is given, and what no system is without.
def fullEnvironment (env : Environment) : List (List Char × List Char) :=
  let given := env.map fun (n, v) => (rawOf n, rawOf v)
  let standard := [("PATH".toList, standardSearch), ("HOME".toList, "/root".toList)]
  given ++ standard.filter fun e => (given.lookup e.1).isNone

-- What an invocation starts, and where.
def startInvocation (env : Environment) (cwd : Location) (i : Invocation) (d : Disk) :
    Except StartFault (Location × Start) :=
  match d.find cwd i.directory with
  | .error f => .error (.disk f)
  | .ok (l, .directory) => do
    let search := ((env.lookup "PATH").map rawOf).getD standardSearch
    let s ← startByName d l search (rawOf i.program) (i.arguments.map rawOf)
    if i.arguments.any fun a => maxArgument < a.utf8ByteSize then throw .tooLong
    return (l, s)
  | .ok _ => .error (.disk .notDirectory)

-- A process that has nothing to read, and whose output is kept.
def startProcess (d : Disk) (cwd : Location) (env : Environment) : Process where
  disk := d
  cwd := cwd
  channels := [(0, .source [] false), (1, .sink [] none), (2, .sink [] none)]
  descriptors := [(0, 0), (1, 1), (2, 2)]
  environment := fullEnvironment env

-- The tools of the system, for a program that works in `cwd` with the environment `env`.
def tool (cwd : Location) (env : Environment) : Tool := fun i d =>
  if (i.program :: i.directory :: i.arguments).any holdsZero then
    .failed "nul byte found in provided data"
  else
    match startInvocation env cwd i d with
    | .error f => .failed f.launchMessage
    | .ok (l, s) =>
      let (ending, p) := (launch maxLevels s).run (startProcess d l env)
      .ran ⟨ending, unraw (p.written 1), unraw (p.written 2), p.disk⟩

end Scaffold.Shell
