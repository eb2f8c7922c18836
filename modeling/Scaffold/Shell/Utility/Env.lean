import Scaffold.Shell.Program
import Scaffold.Shell.Utility.Options

namespace Scaffold.Shell.Utility

open Text

-- Splits a text into words as a shell does, with quotes and backslashes.
def splitWords : Nat → Option Char → Option (List Char) → List Char → List (List Char)
  | 0, _, word, _ => word.toList.map List.reverse
  | _, _, word, [] => word.toList.map List.reverse
  | n + 1, none, word, c :: s =>
    if c = '\'' ∨ c = '"' then splitWords n (some c) (some (word.getD [])) s
    else if c = ' ' ∨ c = '\t' ∨ c = '\n' then word.toList.map List.reverse ++ splitWords n none none s
    else if c = '\\' then
      match s with
      | d :: r => splitWords n none (some ((if d = '_' then ' ' else d) :: word.getD [])) r
      | [] => word.toList.map List.reverse
    else splitWords n none (some (c :: word.getD [])) s
  | n + 1, some q, word, c :: s =>
    if c = q then splitWords n none (some (word.getD [])) s
    else if c = '\\' then
      match s with
      | d :: r =>
        if d = q ∨ d = '\\' ∨ (q = '"' ∧ d = '$') then splitWords n (some q) (some (d :: word.getD [])) r
        else splitWords n (some q) (some (d :: c :: word.getD [])) r
      | [] => word.toList.map List.reverse
    else splitWords n (some q) (some (c :: word.getD [])) s

-- The arguments with those that are to be split in the place of the option that says so.
def splitOption : List (List Char) → List (List Char)
  | ['-', 'S'] :: t :: rest => splitWords (t.length + 1) none none t ++ rest
  | ('-' :: 'S' :: s) :: rest => splitWords (s.length + 1) none none s ++ rest
  | args => args

-- Puts a variable into an environment, at its place if it has one.
def putEntry (name value : List Char) (es : List (List Char × List Char)) : List (List Char × List Char) :=
  if es.any fun e => e.1 == name then es.map fun e => if e.1 = name then (name, value) else e
  else es ++ [(name, value)]

def envTable : OptionTable where
  letters := "iu:"
  names := [⟨"ignore-environment", 'i', .nothing⟩, ⟨"unset", 'u', .value⟩]
  mixed := false

-- The environment after some assignments, from nothing or without some variables.
def changedEnvironment (g : Given) (assigned : List (List Char)) (es : List (List Char × List Char)) :
    List (List Char × List Char) :=
  let kept := (if g.has 'i' then [] else es).filter fun e => !(g.values 'u').contains e.1
  (assigned.filterMap (Text.cut '=')).foldl (fun es a => putEntry a.1 a.2 es) kept

-- Starts a program with another environment in the place of the process, or shows the environment.
def env : Starter := fun launcher c => do
  match envTable.read (splitOption c.arguments) with
  | .error e => Utility.run (Call.misused · 125 e) 1 c
  | .ok g => do
    let assigned := g.operands.takeWhile fun a => (Text.cut '=' a).isSome
    let fields := g.operands.drop assigned.length
    modify fun p => { p with environment := changedEnvironment g assigned p.environment }
    match fields with
    | [] =>
      Utility.run (fun _ => do
        emit (unlines ((← get).environment.map fun (name, value) => name ++ '=' :: value))
        return 0) 1 c
    | name :: _ =>
      match ← launcher fields with
      | .ok e => return e
      | .error f => do
        c.complain (quoted name ++ rawOf (": " ++ f.message))
        if f.isMissing ∧ name.any (fun d => d == ' ' || d == '\t') then
          c.complainText "use -[v]S to pass options in shebang lines"
        return .exited (if f.isMissing then 127 else 126)

end Scaffold.Shell.Utility
