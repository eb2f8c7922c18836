import Scaffold.Disk.Walk

namespace Scaffold

open Text

structure Invocation where
  program : String
  arguments : List String
  -- The directory it starts in.
  directory : String
deriving DecidableEq, Repr

-- How a run ends.
inductive Ending
  | exited (code : Int)
  | killed (signal : Nat)
deriving DecidableEq, Repr

def Ending.code? : Ending → Option Int
  | exited c => some c
  | killed _ => none

def Ending.isSuccess : Ending → Bool
  | exited c => c == 0
  | killed _ => false

structure Run where
  ending : Ending
  stdout : Octets
  stderr : Octets
  disk : Disk

inductive Launch
  | failed (message : String)
  | ran (run : Run)

abbrev Tool :=
  Invocation → Disk → Launch

-- The disk after a launch; one that failed changes nothing.
def Launch.disk (l : Launch) (d : Disk) : Disk :=
  match l with
  | failed _ => d
  | ran r => r.disk

end Scaffold
