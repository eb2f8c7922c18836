import Scaffold.Shell.Format
import Scaffold.Shell.Utility.Options

namespace Scaffold.Shell.Utility

open Text

-- Writes its arguments. Options count only as long as all their letters do.
def echo (c : Call) : Action Nat := do
  let isOption (a : List Char) : Bool :=
    match a with
    | '-' :: x :: xs => (x :: xs).all "neE".toList.contains
    | _ => false
  let options := (c.arguments.takeWhile isOption).flatten
  let text := [' '].intercalate (c.arguments.dropWhile isOption)
  let escapes := (options.filter fun o => o == 'e' || o == 'E').getLast? = some 'e'
  let (text, stop) := if escapes then unescaped text else (text, false)
  emit (if options.contains 'n' ∨ stop then text else text ++ ['\n'])
  return 0

-- How much is written to something that never has enough.
def endlessAmount : Nat := 65536

-- Writes a line again and again, as long as somebody reads it.
def yes (c : Call) : Action Nat := do
  let line := (if c.arguments.isEmpty then ['y'] else [' '].intercalate c.arguments) ++ ['\n']
  let room := match (← get).channel? 1 with
    | some (_, .sink _ (some n)) => n
    | _ => endlessAmount
  emit (List.replicate (room / line.length + 1) line).flatten
  modify fun p => { p with late := p.late || p.deadline.isSome }
  return 1

-- The numbers from one to another.
def series (first step last : Int) : List Int :=
  let count := if 0 < step then (last - first) / step + 1 else (first - last) / (-step) + 1
  (List.range count.toNat).map fun k => first + step * Int.ofNat k

-- Counts from one whole number to another.
def seq (c : Call) : Action Nat := do
  match c.arguments.find? fun a => (Arithmetic.integer? a).isNone with
  | some a => c.misused 1 (rawOf "invalid floating point argument: " ++ quoted a)
  | none => do
    let write (first step last : Int) : Action Nat := do
      emit (unlines ((series first step last).map fun n => (toString n).toList))
      return 0
    match c.arguments, c.arguments.filterMap Arithmetic.integer? with
    | _, [last] => write 1 1 last
    | _, [first, last] => write first 1 last
    | _ :: step :: _, [_, 0, _] => c.misused 1 (rawOf "invalid Zero increment value: " ++ quoted step)
    | _, [first, step, last] => write first step last
    | _ :: _ :: _ :: extra :: _, _ => c.misused 1 (rawOf "extra operand " ++ quoted extra)
    | _, _ => c.misused 1 (rawOf "missing operand")

-- A stretch of time in milliseconds: a number, with a letter for its unit.
def duration? (s : List Char) : Option Nat :=
  let (number, unit) := match s.getLast? with
    | some 's' => (s.dropLast, 1000)
    | some 'm' => (s.dropLast, 60000)
    | some 'h' => (s.dropLast, 3600000)
    | some 'd' => (s.dropLast, 86400000)
    | _ => (s, 1000)
  let (whole, fraction) := (Text.cut '.' number).getD (number, [])
  if whole ++ fraction = [] then none
  else (Arithmetic.count? (whole ++ fraction)).map fun n => n * unit / Nat.pow 10 fraction.length

def sleep (c : Call) : Action Nat :=
  c.withOptions 1 { letters := "" } fun g => do
    if g.operands.isEmpty then return ← c.misused 1 (rawOf "missing operand")
    let bad := g.operands.filter fun a => (duration? a).isNone
    for a in bad do c.complain (rawOf "invalid time interval " ++ quoted a)
    if !bad.isEmpty then
      c.hint
      return 1
    for a in g.operands do sleepFor ((duration? a).getD 0)
    return 0

end Scaffold.Shell.Utility
