import Scaffold.Shell.Syntax
import Scaffold.Disk.Edit

namespace Scaffold.Shell

open Text

-- What may be done with an open file.
structure Access where
  reads : Bool
  writes : Bool
  -- Whether each write goes to the end.
  appends : Bool
deriving DecidableEq, Repr

inductive Channel
  -- Text that can be read; `cut` says that its writer was stopped, so that there might be more.
  | source (rest : List Char) (cut : Bool)
  -- Text that was written, the last part first, and how much more may be.
  | sink (parts : List (List Char)) (room : Option Nat)
  | file (place : Location) (position : Nat) (access : Access)
  -- A file that has no place on the disk any more.
  | loose (content : Octets) (position : Nat) (access : Access)
  | directory
  | device (kind : Device)

-- Why nothing can be read from a descriptor or written to it.
inductive ChannelFault
  | badDescriptor
  | isDirectory
  | full
deriving DecidableEq, Repr

def ChannelFault.message : ChannelFault → String
  | badDescriptor => "Bad file descriptor"
  | isDirectory => "Is a directory"
  | full => "No space left on device"

structure Process where
  disk : Disk
  cwd : Location
  channels : List (Nat × Channel)
  -- The descriptors and the channels that they lead to.
  descriptors : List (Nat × Nat)
  environment : List (List Char × List Char) := []
  -- The permissions that new files do not get.
  mask : Nat := 18
  -- Whether something was written that nobody will read.
  broken : Bool := false
  -- The channels that had less to read than their writers had.
  starved : List Nat := []
  -- How long it slept, in milliseconds.
  slept : Nat := 0
  -- Until when it is watched, and whether it slept for longer.
  deadline : Option Nat := none
  late : Bool := false
  -- What stood against the output that it could not write.
  unwritten : Option ChannelFault := none
  -- The number that it goes by, and that of the process that started it.
  pid : Nat := 4711
  parent : Nat := 4710
  -- The number of the next process.
  nextPid : Nat := 4712
  -- Signals that were sent to processes that wait for this one.
  sent : List (Nat × Nat) := []

namespace Process

def channel? (p : Process) (descriptor : Nat) : Option (Nat × Channel) := do
  let id ← p.descriptors.lookup descriptor
  return (id, ← p.channels.lookup id)

def setChannel (p : Process) (id : Nat) (c : Channel) : Process :=
  { p with channels := p.channels.map fun e => if e.1 = id then (id, c) else e }

-- Adds a channel and gives its number.
def addChannel (p : Process) (c : Channel) : Nat × Process :=
  let id := p.channels.foldl (fun n e => max n (e.1 + 1)) 0
  (id, { p with channels := (id, c) :: p.channels })

def dropChannel (p : Process) (id : Nat) : Process :=
  { p with channels := p.channels.filter fun e => e.1 ≠ id }

-- Lets a descriptor lead to a channel.
def connect (p : Process) (descriptor id : Nat) : Process :=
  { p with descriptors := (descriptor, id) :: p.descriptors.filter fun d => d.1 ≠ descriptor }

def close (p : Process) (descriptor : Nat) : Process :=
  { p with descriptors := p.descriptors.filter fun d => d.1 ≠ descriptor }

-- All that was written to a channel.
def written (p : Process) (id : Nat) : List Char :=
  match p.channels.lookup id with
  | some (.sink parts _) => parts.reverse.flatten
  | _ => []

def find (p : Process) (path : List Char) : Except DiskFault (Location × Entry) :=
  p.disk.find p.cwd (textOf path)

-- Whether a path leads to something.
def holds (p : Process) (path : List Char) : Bool :=
  (p.find path).toOption.isSome

-- Whether two paths lead to one entry.
def sameEntry (p : Process) (a b : List Char) : Bool :=
  match p.find a, p.find b with
  | .ok (l, _), .ok (m, _) => l == m
  | _, _ => false

-- What a file holds, if something does lie at its place.
def content (d : Disk) (place : Location) : Octets :=
  match d.get? place with
  | some (.file s _) => s
  | _ => []

-- Puts octets at a position; what is missing in front of them is filled with zeros.
def patched (s : Octets) (position : Nat) (new : Octets) : Octets :=
  if s.length = position then s ++ new
  else s.take position ++ List.replicate (position - s.length) 0 ++ new ++ s.drop (position + new.length)

-- Changes the disk. Files that lose their place by that keep what they held while they are open.
def withDisk (p : Process) (d : Disk) : Process :=
  let moved (c : Channel) : Channel :=
    match c with
    | .file place position access =>
      if (d.get? place).any Entry.isFile then c else .loose (content p.disk place) position access
    | c => c
  { p with disk := d, channels := p.channels.map fun e => (e.1, moved e.2) }

-- Takes a file from its place, so that another one can take it.
def detach (p : Process) (place : Location) : Process :=
  let moved (c : Channel) : Channel :=
    match c with
    | .file l position access => if l = place then .loose (content p.disk l) position access else c
    | c => c
  { p with channels := p.channels.map fun e => (e.1, moved e.2) }

-- Writes to a channel.
def writeTo (p : Process) (id : Nat) (c : Channel) (text : List Char) : Except ChannelFault Process :=
  match c with
  | .sink parts none => .ok (p.setChannel id (.sink (text :: parts) none))
  | .sink parts (some room) =>
    -- Who writes more than there is room for is stopped.
    let p := p.setChannel id (.sink (text.take room :: parts) (some (room - text.length)))
    .ok (if room < text.length then { p with broken := true } else p)
  | .file place position access =>
    if !access.writes then .error .badDescriptor
    else match p.disk.get? place with
      | some (.file s executable) =>
        let start := if access.appends then s.length else position
        let d := p.disk.put place (.file (patched s start (unraw text)) executable)
        .ok ({ p with disk := d }.setChannel id (.file place (start + text.length) access))
      | _ => .ok p
  | .loose s position access =>
    if !access.writes then .error .badDescriptor
    else
      let start := if access.appends then s.length else position
      .ok (p.setChannel id (.loose (patched s start (unraw text)) (start + text.length) access))
  | .device .full => .error .full
  | .device _ => .ok p
  | _ => .error .badDescriptor

def write (p : Process) (descriptor : Nat) (text : List Char) : Except ChannelFault Process :=
  if text = [] then .ok p
  else match p.channel? descriptor with
    | some (id, c) => p.writeTo id c text
    | none => .error .badDescriptor

-- What can be read from a channel, and the channel after `count` characters of it were. Of what has no end
-- there are `limit` characters.
def readable (p : Process) (limit : Nat) (c : Channel) :
    Except ChannelFault (List Char × (Nat → Channel)) :=
  match c with
  | .source rest cut => .ok (rest, fun n => .source (rest.drop n) cut)
  | .file place position access =>
    if access.reads then
      .ok (raw ((content p.disk place).drop position), fun n => .file place (position + n) access)
    else .error .badDescriptor
  | .loose s position access =>
    if access.reads then .ok (raw (s.drop position), fun n => .loose s (position + n) access)
    else .error .badDescriptor
  | .directory => .error .isDirectory
  | .device .null => .ok ([], fun _ => c)
  | .device _ => .ok (List.replicate limit '\x00', fun _ => c)
  | .sink .. => .error .badDescriptor

-- Whether a channel ends before what its writer had to say.
def isCut (c : Channel) : Bool :=
  match c with
  | .source _ cut => cut
  | _ => false

-- Reads from a descriptor. Of what is there `take` makes a value; it says how many characters it used, and
-- whether it would have used more.
def readBy {α : Type} (p : Process) (descriptor limit : Nat) (take : List Char → α × Nat × Bool) :
    Except ChannelFault (α × Process) :=
  match p.channel? descriptor with
  | none => .error .badDescriptor
  | some (id, c) =>
    match p.readable limit c with
    | .error f => .error f
    | .ok (text, rest) =>
      let (a, n, more) := take text
      let p := p.setChannel id (rest n)
      .ok (a, if more && isCut c then { p with starved := id :: p.starved } else p)

-- The access that an opening asks for.
def accessOf (o : Opening) : Access :=
  match o with
  | .input => ⟨true, false, false⟩
  | .output => ⟨false, true, false⟩
  | .overwrite => ⟨false, true, false⟩
  | .append => ⟨false, true, true⟩
  | .both => ⟨true, true, false⟩

-- Whether an opening empties a file.
def empties (o : Opening) : Bool :=
  match o with
  | .output => true
  | .overwrite => true
  | _ => false

-- Opens what a path leads to and gives the number of the channel. Files are made where there are none,
-- unless they are to be read.
def openPath (p : Process) (path : List Char) (o : Opening) : Except DiskFault (Nat × Process) := do
  let l ← p.disk.locate p.cwd (textOf path) true
  match p.disk.get? l with
  | none =>
    if o = .input then throw .missing
    if path.getLast? = some '/' then throw .isDirectory
    return { p with disk := p.disk.put l (.file [] false) }.addChannel (.file l 0 (accessOf o))
  | some (.file _ executable) =>
    let d := if empties o then p.disk.put l (.file [] executable) else p.disk
    return { p with disk := d }.addChannel (.file l 0 (accessOf o))
  | some .directory => if o = .input then return p.addChannel .directory else throw .isDirectory
  | some (.device (.descriptor n)) =>
    match p.channel? n with
    | some (_, .file place _ _) =>
      let d := match p.disk.get? place with
        | some (.file _ executable) => if empties o then p.disk.put place (.file [] executable) else p.disk
        | _ => p.disk
      return ({ p with disk := d }.addChannel (.file place 0 (accessOf o)))
    | some (id, _) => return (id, p)
    | none => throw .missing
  | some (.device kind) => return p.addChannel (.device kind)
  | some (.program _) => if o = .input then return p.addChannel (.source [] false) else throw .busy
  | some (.link _) => throw .missing

end Process

abbrev Action :=
  StateM Process

-- Writes to a descriptor; says what stands against it.
def writeOn (descriptor : Nat) (text : List Char) : Action (Option ChannelFault) := do
  match (← get).write descriptor text with
  | .ok p =>
    set p
    return none
  | .error f => return some f

-- Writes to the output. That it could not be written is kept.
def emit (text : List Char) : Action Unit := do
  match ← writeOn 1 text with
  | some f => modify fun p => { p with unwritten := some f }
  | none => pure ()

def emitLine (text : List Char) : Action Unit :=
  emit (text ++ ['\n'])

def complain (text : List Char) : Action Unit := do
  let _ ← writeOn 2 (text ++ ['\n'])

-- Sleeps for so many milliseconds.
def sleepFor (n : Nat) : Action Unit :=
  modify fun p =>
    let slept := p.slept + n
    { p with slept := slept, late := p.late || p.deadline.any (· < slept) }

-- All that is left to read from a descriptor.
def readAll (descriptor limit : Nat) : Action (Except ChannelFault (List Char)) := do
  match (← get).readBy descriptor limit fun s => (s, s.length, true) with
  | .ok (s, p) =>
    set p
    return .ok s
  | .error f => return .error f

-- What is left of a process behind one that it started: what both share.
def Process.afterChild (before after : Process) : Process :=
  { before with
    disk := after.disk
    channels := after.channels
    nextPid := after.nextPid
    sent := after.sent
    starved := after.starved
    late := after.late
    slept := max before.slept after.slept }

-- Carries out a change to the disk, or says what stands against it.
def change (f : Disk → Location → Except DiskFault Disk) : Action (Option DiskFault) := do
  let p ← get
  match f p.disk p.cwd with
  | .ok d =>
    set (p.withDisk d)
    return none
  | .error e => return some e

end Scaffold.Shell
