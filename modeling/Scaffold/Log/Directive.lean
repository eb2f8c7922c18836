import Scaffold.Log.Event
import Scaffold.Log.ValuePattern
import Scaffold.Text.Blank
import Scaffold.Text.Case
import Scaffold.Text.Cut

namespace Scaffold.Log

open Text

-- What passes: nothing, or the events of a level and of the more severe ones.
inductive Threshold
  | off
  | upTo (l : Level)
deriving DecidableEq, Repr

def Threshold.passes : Threshold → Level → Bool
  | off, _ => false
  | upTo t, l => l.rank ≤ t.rank

def Threshold.names : List (String × Threshold) :=
  [("off", .off), ("error", .upTo .error), ("warn", .upTo .warn), ("info", .upTo .info),
    ("debug", .upTo .debug), ("trace", .upTo .trace)]

-- A number in decimal digits; a plus sign may stand in front.
def decimal? (s : List Char) : Option Nat :=
  let digits := match s with
    | '+' :: r => r
    | _ => s
  if !digits.isEmpty && digits.all Char.isDigit then
    some (digits.foldl (fun n c => n * 10 + (c.toNat - '0'.toNat)) 0)
  else none

-- A threshold by its name, in any letter case, or by its number from zero to five.
def Threshold.ofText? (s : List Char) : Option Threshold :=
  match decimal? s with
  | some n => (names[n]?).map Prod.snd
  | none => names.lookup (lower (String.ofList s))

-- Which events a directive is about.
structure Selector where
  target : Option String
  fields : List String
deriving DecidableEq, Repr

structure Directive where
  selector : Selector
  threshold : Threshold
  -- Whether it asks for a span or for values of fields, which no event has on its own.
  dynamic : Bool
deriving DecidableEq, Repr

-- The level at the end of a directive; nothing after the equals sign means every level.
def levelPart (s : List Char) : Option Threshold :=
  if s = [] then some (.upTo .trace) else Threshold.ofText? s

-- A field of a directive: its name, and whether a value is asked for. What follows a second equals sign
-- does not count.
def fieldPart (s : List Char) : Option (String × Bool) :=
  if s = [] then none
  else match cut '=' s with
    | some (name, value) =>
      if ValuePattern.isValid (before '=' value) then some (String.ofList name, true) else none
    | none => some (String.ofList s, false)

-- What stands in brackets, after the opening one: a span, or fields between braces, or both; and what
-- follows the closing bracket.
def spanPart (s : List Char) : Option ((Option String × List (String × Bool)) × List Char) :=
  let name := s.takeWhile fun c => c ≠ ']' ∧ c ≠ '{'
  match s.drop name.length with
  | ']' :: rest => some ((some (String.ofList name), []), rest)
  | '{' :: r =>
    let span? := if name = [] then none else some (String.ofList name)
    let inner := r.takeWhile (· ≠ '}')
    match r.drop inner.length with
    | '}' :: ']' :: rest => ((inner.splitOn ',').mapM fieldPart).map fun fs => ((span?, fs), rest)
    | _ => none
  | _ => none

-- Reads one directive. White space around it is not looked at while its shape is made out, but it belongs
-- to the target or the level that it stands at: such a target is that of no event, and such a level is none.
def Directive.parse? (text : List Char) : Option Directive :=
  let s := trim text
  let exact := s == text
  let word := s.takeWhile fun c => c ≠ '=' ∧ c ≠ '['
  let startsWell := word.head?.all fun c => c == '-' || c == ':' || c == '_' || isAlphanumeric c
  if s = [] ∨ !startsWell then none
  else match s.drop word.length with
    | [] =>
      match Threshold.ofText? text with
      | some t => some ⟨⟨none, []⟩, t, false⟩
      | none => some ⟨⟨some (String.ofList text), []⟩, .upTo .trace, false⟩
    | '[' :: r => do
      let ((span, fields), rest) ← spanPart r
      let threshold ← match rest with
        | [] => some (.upTo .trace)
        | '=' :: l => if exact then levelPart l else none
        | _ => none
      let target := if word = [] then none else some (String.ofList word)
      return ⟨⟨target, fields.map Prod.fst⟩, threshold, !exact || span.isSome || fields.any Prod.snd⟩
    | _ :: l => if word = [] ∨ !exact then none else do
      let threshold ← levelPart l
      return ⟨⟨some (String.ofList word), []⟩, threshold, false⟩

end Scaffold.Log
