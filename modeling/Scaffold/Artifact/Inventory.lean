import Scaffold.Config.Basic
import Scaffold.Disk.Walk
import Scaffold.Log.Event
import Scaffold.Text.Case

namespace Scaffold

open Text

inductive ArtifactClass
  | protocol
  | service
  | model
  | binding
deriving DecidableEq, Repr

-- What is there for one service.
structure ArtifactSet where
  name : String
  stem : String
  protocolPath : String
  servicePath : String
  modelPath : String
  hasProtocol : Bool
  hasService : Bool
  hasModel : Bool
deriving DecidableEq, Repr

def ArtifactSet.isComplete (s : ArtifactSet) : Bool :=
  s.hasProtocol && s.hasService && s.hasModel

def ArtifactSet.isAbsent (s : ArtifactSet) : Bool :=
  !(s.hasProtocol || s.hasService || s.hasModel)

structure Listing where
  services : List ArtifactSet
  -- Whether the protocol directory can be read.
  present : Bool
deriving DecidableEq, Repr

namespace Inventory

def stem (service : String) : String :=
  lower service

def fileName (stem extension : String) : String :=
  stem ++ "." ++ extension

def directory (c : Config) : ArtifactClass → String
  | .protocol => c.protoDir
  | .service => c.servicesDir
  | .model => c.modelsDir
  | .binding => c.bindingsDir

def extension (c : Config) : ArtifactClass → String
  | .protocol => c.layout.protoExtension
  | _ => c.layout.sourceExtension

-- Where the artifact of one class lies.
def path (c : Config) (k : ArtifactClass) (stem : String) : String :=
  Path.join (directory c k) (fileName stem (extension c k))

def probe (c : Config) (cwd : Location) (d : Disk) (name stem : String) : ArtifactSet where
  name := name
  stem := stem
  protocolPath := path c .protocol stem
  servicePath := path c .service stem
  modelPath := path c .model stem
  hasProtocol := d.isFile cwd (path c .protocol stem)
  hasService := d.isFile cwd (path c .service stem)
  hasModel := d.isFile cwd (path c .model stem)

-- The artifacts of the service of that name, in any letter case.
def find (c : Config) (cwd : Location) (d : Disk) (service : String) : ArtifactSet :=
  probe c cwd d service (stem service)

-- The stems of the regular files with an extension in a directory, links followed; `none` if the
-- directory cannot be read.
def stems? (cwd : Location) (d : Disk) (dir ext : String) : Option (List String) :=
  match d.list cwd dir with
  | .error _ => none
  | .ok names =>
    some ((names.filter fun n => d.isFile cwd (Path.join dir n) && Path.extension? n == some ext).map
      Path.stem)

-- The services that have a protocol definition, in the order of their stems.
def list (c : Config) (cwd : Location) (d : Disk) : Listing :=
  match stems? cwd d (directory c .protocol) (extension c .protocol) with
  | none => ⟨[], false⟩
  | some stems =>
    -- A reserved stem belongs to no service, whatever its file holds.
    let services := stems.filter fun s => !c.layout.reserved.contains s
    ⟨(services.mergeSort fun a b => !decide (b < a)).map fun s => probe c cwd d s s, true⟩

def count (c : Config) (cwd : Location) (d : Disk) (k : ArtifactClass) : Nat :=
  ((stems? cwd d (directory c k) (extension c k)).map List.length).getD 0

-- What a listing leaves in the log.
def events (l : Listing) : List Log.Event :=
  if l.present then []
  else [⟨.debug, "protosmith::inventory", "protocol directory not present", ["dir"]⟩]

end Inventory
end Scaffold
