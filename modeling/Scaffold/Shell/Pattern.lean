import Scaffold.Shell.Syntax

namespace Scaffold.Shell

-- One character of a pattern, and whether it stands for itself.
structure PatternChar where
  char : Char
  quoted : Bool
deriving DecidableEq, Repr

def PatternChar.is (c : PatternChar) (d : Char) : Bool :=
  !c.quoted && c.char == d

-- A part of a class in brackets.
inductive ClassItem
  | range (low high : Char)
  | named (name : List Char)
deriving DecidableEq, Repr

inductive Atom
  | char (c : Char)
  | any
  | star
  | oneOf (negated : Bool) (items : List ClassItem)
deriving DecidableEq, Repr

-- The ranges that a named class stands for, if there is one of that name.
def namedClass? (name : List Char) : Option (List (Char × Char)) :=
  [("upper", [('A', 'Z')]), ("lower", [('a', 'z')]), ("digit", [('0', '9')]), ("alpha", [('A', 'Z'), ('a', 'z')]),
    ("alnum", [('A', 'Z'), ('a', 'z'), ('0', '9')]), ("xdigit", [('0', '9'), ('A', 'F'), ('a', 'f')]),
    ("space", [('\t', '\r'), (' ', ' ')]), ("blank", [('\t', '\t'), (' ', ' ')]),
    ("punct", [('!', '/'), (':', '@'), ('[', '\x60'), ('\x7b', '~')]),
    ("cntrl", [('\x00', '\x1f'), ('\x7f', '\x7f')]), ("print", [(' ', '~')]),
    ("graph", [('!', '~')])].lookup (String.ofList name)

-- Octets beyond ASCII come before all others.
def signedCode (c : Char) : Int :=
  if c.toNat < 128 then c.toNat else Int.ofNat c.toNat - 256

def ClassItem.holds (c : Char) : ClassItem → Bool
  | range low high => signedCode low ≤ signedCode c && signedCode c ≤ signedCode high
  | named name => ((namedClass? name).getD []).any fun r => r.1 ≤ c && c ≤ r.2

-- Backslashes as quotes of what follows them.
def unslashed : List PatternChar → List PatternChar
  | [] => []
  | [c] => [c]
  | c :: d :: s => if c.is '\\' then ⟨d.char, true⟩ :: unslashed s else c :: unslashed (d :: s)

-- The name of a class that stands at the front, behind its opening bracket, and what follows it.
def classNameAtFront? (s : List PatternChar) : Option (List Char × List PatternChar) :=
  match s with
  | c :: s =>
    let name := s.takeWhile fun d => d.char.isAlpha && !d.quoted
    match s.drop name.length with
    | d :: e :: rest =>
      let name := name.map PatternChar.char
      if c.is ':' ∧ d.is ':' ∧ e.is ']' ∧ (namedClass? name).isSome then some (name, rest) else none
    | _ => none
  | [] => none

-- The parts of a class, from behind its opening bracket on; `none` if it is not closed. The first character
-- does not close it.
def classItems : Nat → Bool → List PatternChar → Option (List ClassItem × List PatternChar)
  | 0, _, _ => none
  | _, _, [] => none
  | n + 1, first, c :: s => do
    if c.is ']' && !first then return ([], s)
    let (item, rest) := match (if c.is '[' then classNameAtFront? s else none), s with
      | some (name, rest), _ => (.named name, rest)
      | none, d :: e :: rest =>
        if d.is '-' && !e.is ']' then (ClassItem.range c.char e.char, rest) else (.range c.char c.char, s)
      | none, s => (.range c.char c.char, s)
    let (items, rest) ← classItems n false rest
    return (item :: items, rest)

def atoms : Nat → List PatternChar → List Atom
  | 0, _ => []
  | _, [] => []
  | n + 1, c :: s =>
    if c.is '*' then .star :: atoms n s
    else if c.is '?' then .any :: atoms n s
    else if c.is '[' then
      let negated := s.head?.any fun d => d.is '!'
      let inner := if negated then s.drop 1 else s
      match classItems (inner.length + 1) true inner with
      | some (items, rest) => .oneOf negated items :: atoms n rest
      | none => .char '[' :: atoms n s
    else .char c.char :: atoms n s

def atomsOf (s : List PatternChar) : List Atom :=
  let s := unslashed s
  atoms (s.length + 1) s

def matchesAtoms : List Atom → List Char → Bool
  | [], s => s.isEmpty
  | .star :: as, [] => matchesAtoms as []
  | .star :: as, c :: s => matchesAtoms as (c :: s) || matchesAtoms (.star :: as) s
  | .any :: as, _ :: s => matchesAtoms as s
  | .char a :: as, c :: s => a == c && matchesAtoms as s
  | .oneOf negated items :: as, c :: s => (items.any (·.holds c) != negated) && matchesAtoms as s
  | _ :: _, [] => false
termination_by as s => (s.length, as.length)

def matchesPattern (p : List PatternChar) (s : List Char) : Bool :=
  matchesAtoms (atomsOf p) s

-- Whether a pattern may stand for something other than itself.
def isPattern (p : List PatternChar) : Bool :=
  (unslashed p).any fun c => c.is '*' || c.is '?' || c.is '['

-- What is left of a text without the shortest or longest match at its start.
def stripStart (longest : Bool) (p : List PatternChar) (s : List Char) : List Char :=
  let as := atomsOf p
  let lengths := (List.range (s.length + 1)).filter fun k => matchesAtoms as (s.take k)
  s.drop ((if longest then lengths.getLast? else lengths.head?).getD 0)

def stripEnd (longest : Bool) (p : List PatternChar) (s : List Char) : List Char :=
  let as := atomsOf p
  let lengths := (List.range (s.length + 1)).filter fun k => matchesAtoms as (s.drop (s.length - k))
  s.take (s.length - (if longest then lengths.getLast? else lengths.head?).getD 0)

end Scaffold.Shell
