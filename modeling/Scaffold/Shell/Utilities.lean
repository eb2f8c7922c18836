import Scaffold.Shell.Utility.Env
import Scaffold.Shell.Utility.Files
import Scaffold.Shell.Utility.Grep
import Scaffold.Shell.Utility.Lines
import Scaffold.Shell.Utility.Output
import Scaffold.Shell.Utility.Sed
import Scaffold.Shell.Utility.Whole

namespace Scaffold.Shell

open Utility

-- The programs of the system, the shell and `env` aside.
def utilities : List (String × Utility) :=
  [("true", fun _ => pure 0), ("false", fun _ => pure 1),
    -- output
    ("echo", echo), ("yes", yes), ("seq", seq), ("sleep", sleep),
    -- texts
    ("cat", cat), ("head", head), ("tail", tail), ("tee", tee), ("wc", wc), ("tr", tr), ("cut", cut),
    ("sort", sort), ("uniq", uniq), ("grep", grep), ("sed", sed),
    -- files
    ("basename", basename), ("dirname", dirname), ("pwd", pwd), ("mkdir", mkdir), ("rmdir", rmdir), ("rm", rm),
    ("touch", touch), ("chmod", chmod), ("cp", cp), ("mv", mv), ("ln", ln), ("ls", ls)]

-- The status of a utility that could not write its output.
def writeFailureOf (name : String) : Nat :=
  if ["ls", "sort", "grep"].contains name then 2 else if name = "sed" then 4 else 1

-- Runs a utility by its name.
def utilityNamed (name : String) : Starter := fun launcher c =>
  if name = "env" then env launcher c
  else match utilities.lookup name with
    | some u => u.run (writeFailureOf name) c
    | none => return .exited 127

def programNames : List String :=
  ["sh", "dash", "env"] ++ utilities.map Prod.fst

end Scaffold.Shell
