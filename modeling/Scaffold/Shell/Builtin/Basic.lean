import Scaffold.Shell.Expansion

namespace Scaffold.Shell

open Text

-- A command that is part of the shell, as a function of its arguments.
abbrev Builtin :=
  List (List Char) → Exec Unit

-- The letters of options at the front, with the values of those that a colon follows in `allowed`, and the
-- arguments behind them.
def options (allowed : String) : Nat → List (List Char) → Exec (List (Char × List Char) × List (List Char))
  | 0, args => return ([], args)
  | n + 1, args => do
    match args with
    | ['-', '-'] :: rest => return ([], rest)
    | ('-' :: c :: cs) :: rest =>
      match letter? allowed.toList c with
      | none => abort (rawOf "Illegal option -" ++ [c])
      | some false => do
        let (os, rest) ← options allowed n (if cs = [] then rest else ('-' :: cs) :: rest)
        return ((c, []) :: os, rest)
      | some true =>
        match cs, rest with
        | [], [] => abort (rawOf "No arg for -" ++ c :: rawOf " option")
        | [], v :: rest => do
          let (os, rest) ← options allowed n rest
          return ((c, v) :: os, rest)
        | v, rest => do
          let (os, rest) ← options allowed n rest
          return ((c, v) :: os, rest)
    | rest => return ([], rest)
where
  -- Whether a letter is allowed, and takes a value.
  letter? (allowed : List Char) (c : Char) : Option Bool :=
    match allowed with
    | [] => none
    | a :: rest => if a = c ∧ a ≠ ':' then some (rest.head? == some ':') else letter? rest c

def optionsOf (allowed : String) (args : List (List Char)) :
    Exec (List (Char × List Char) × List (List Char)) :=
  options allowed ((args.foldl (fun n a => n + a.length) 0) + args.length + 1) args

-- The arguments of a command that has no options.
def operands (args : List (List Char)) : Exec (List (List Char)) := do
  return (← optionsOf "" args).2

def countOf (a : List Char) : Exec Nat :=
  match Arithmetic.count? a with
  | some n => return n
  | none => abort (rawOf "Illegal number: " ++ a)

-- Writes output. If that fails, the command that runs has failed.
def say (text : List Char) : Exec Unit := do
  match ← act (writeOn 1 text) with
  | none => pure ()
  | some _ => modify fun s => { s with outputFailed := true }

def sayLine (text : List Char) : Exec Unit :=
  say (text ++ ['\n'])

-- A text in quotes, so that a shell reads it as it is.
def quotedText (s : List Char) : List Char :=
  go (s.length + 1) s
where
  go : Nat → List Char → List Char
    | 0, _ => []
    | n + 1, s =>
      let plain := s.takeWhile (· ≠ '\'')
      let rest := s.drop plain.length
      let quotes := rest.takeWhile (· = '\'')
      let front := '\'' :: plain ++ ['\'']
      if quotes = [] then front
      else
        let rest := rest.drop quotes.length
        front ++ '"' :: quotes ++ '"' :: if rest = [] then [] else go n rest

-- Runs a command of the shell. What it did to its output counts for its status.
def performed (name : List Char) (inner : Exec Unit) : Exec Unit := do
  modify fun s => { s with outputFailed := false, broken := false }
  inName name do
    inner
    let s ← get
    if s.broken then
      -- Nobody reads what was written; who does not care about that has an error instead.
      if s.traps.lookup 13 = some [] then set { s with outputFailed := true } else throw (.killed 13)
    if (← get).outputFailed then
      warn (name ++ rawOf ": I/O error")
      modify fun s => { s with status := s.status ||| 1, outputFailed := false }

end Scaffold.Shell
