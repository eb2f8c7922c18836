import Scaffold.Shell.Builtin.Basic
import Scaffold.Shell.Format
import Scaffold.Shell.Question

namespace Scaffold.Shell.Builtin

open Text

-- Writes its arguments, with the escapes in them carried out.
def echo : Builtin := fun args => do
  let (newline, args) := match args with
    | ['-', 'n'] :: rest => (false, rest)
    | rest => (true, rest)
  let (text, stop) := unescaped ([' '].intercalate args)
  say (if newline ∧ !stop then text ++ ['\n'] else text)
  setStatus 0

def printf : Builtin := fun args => do
  match ← operands args with
  | [] => abortText "usage: printf format [arg ...]"
  | format :: args => do
    let f := formatted format args
    for (arg, fault) in f.complaints do warn (arg ++ rawOf (": " ++ fault))
    match f.broken with
    | some c => do
      warn c
      say f.output
      setStatus 2
      throw .fault
    | none => do
      say f.output
      setStatus (if f.complaints = [] then 0 else 1)

def test : Builtin := fun args => do
  match answer (← get).toProcess args with
  | .ok b => setStatus (if b then 0 else 1)
  | .error message => abort message

-- A question in brackets.
def bracket : Builtin := fun args => do
  if args.getLast? = some [']'] then test args.dropLast else abortText "missing ]"

end Scaffold.Shell.Builtin
