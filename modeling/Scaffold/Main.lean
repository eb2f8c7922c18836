import Scaffold.CommandLine.Run
import Scaffold.Disk.Edit
import Scaffold.Shell.System

namespace Scaffold.World

open Text

-- The variables that a run looks at.
def variableNames : List String :=
  ["PATH", "HOME", "RUST_LOG", "PROTOSMITH_ROOT", "PROTOSMITH_CODEGEN", "PROTOSMITH_BUILD_TOOL",
    "PROTOSMITH_HEALTH_URL", "PROTOSMITH_LOG_LEVEL", "PROTOSMITH_LOG_FORMAT",
    "PROTOSMITH_LOG_TARGET_FILTER", "PROTOSMITH_LOG_INCLUDE_LOCATION"]

def environment : IO Environment :=
  variableNames.filterMapM fun n => return (← IO.getEnv n).map fun v => (n, v)

-- A file can be run if its first line may name an interpreter.
def fileOf (content : Octets) : Entry :=
  .file content ((octets "#!").isPrefixOf content)

-- Takes an entry of the directory at `l` onto the disk, with all that is below it.
partial def take (l : Location) (d : Disk) (e : IO.FS.DirEntry) : IO Disk := do
  let l := l ++ [e.fileName]
  match (← e.path.symlinkMetadata).type with
  | .dir => (← e.path.readDir).foldlM (take l) (d.put l .directory)
  | .file => return d.put l (fileOf (← IO.FS.readBinFile e.path).toList)
  | .symlink => return d.put l (.link (toString (← IO.FS.realPath e.path)))
  | .other => return d

-- Takes the directory at a path onto the disk; a path that leads to none adds nothing.
def takeAll (d : Disk) (path : String) : IO Disk := do
  let directory ← IO.FS.realPath path
  if !(← directory.isDir) then return d
  let l := Path.names (toString directory)
  let d := (List.range l.length).foldl (fun d n => d.put (l.take (n + 1)) .directory) d
  (← directory.readDir).foldlM (take l) d

-- Writes back what is on the disk `after` and was not on the disk `before`, and removes what has gone.
def store (before after : Disk) : IO Unit := do
  let gone := before.entries.filter fun e => (after.get? e.1).isNone
  for (l, e) in gone.mergeSort fun a b => b.1.length ≤ a.1.length do
    if e = .directory then IO.FS.removeDir (Disk.pathOf l) else IO.FS.removeFile (Disk.pathOf l)
  for (l, e) in after.entries.filter fun e => before.get? e.1 ≠ some e.2 do
    match e with
    | .directory => IO.FS.createDirAll (Disk.pathOf l)
    | .file content executable =>
      IO.FS.createDirAll (Disk.pathOf l.dropLast)
      IO.FS.writeBinFile (Disk.pathOf l) (ByteArray.mk content.toArray)
      if executable then
        IO.setAccessRights (Disk.pathOf l)
          ⟨⟨true, true, true⟩, ⟨true, false, true⟩, ⟨true, false, true⟩⟩
    | _ => pure ()

-- Shows what a run has said.
def say (r : CommandLine.Execution) : IO Unit := do
  IO.print r.stdout
  for e in r.log do
    IO.eprintln (e.level.text ++ " " ++ e.target ++ ": " ++ e.message)
  IO.eprint r.stderr

end Scaffold.World

open Scaffold

-- A command line that is no use is answered with what is wrong with it, all others are run.
def main (args : List String) : IO UInt32 := do
  let cwd := toString (← IO.currentDir)
  let session : Session := ⟨Path.names cwd, ← World.environment⟩
  let root? := match CommandLine.parse args with
    | .ok c => c.root
    | .error _ => none
  let root := Path.join cwd (Config.rootOf session root?)
  let disk ← World.takeAll (← World.takeAll Shell.system cwd) root
  let world : World := ⟨Shell.tool session.cwd session.env, Probe.silent, Text.octets⟩
  let r := CommandLine.execute world session disk args
  World.store disk r.disk
  World.say r
  if let .error u := CommandLine.parse args then
    if u ≠ .version then IO.eprintln ("error: " ++ u.text)
  return r.exitCode.toUInt32
