import Scaffold.Shell.Syntax

namespace Scaffold.Shell

-- Where a script stops being one, and how that is said.
structure SyntaxFault where
  line : Nat
  text : String
deriving DecidableEq, Repr

inductive Token
  | word (w : Word)
  | keyword (k : String)
  -- An operator other than a redirection.
  | operator (o : String)
  -- A redirection, with the descriptor if a digit stands before it.
  | redirect (descriptor : Option Nat) (o : String)
  | newline
  | finish

-- A text that a redirection waits for.
structure Due where
  number : Nat
  mark : List Char
  quoted : Bool
  stripTabs : Bool

-- What the next token may be, other than it looks.
structure Wants where
  keyword : Bool := false
  aliases : Bool := false
  -- Line breaks before it do not count.
  breaks : Bool := false

-- The text of an alias while it is read: its name, how much of the script stands behind it, and whether it
-- ends with a blank.
structure Replacement where
  name : List Char
  left : Nat
  blank : Bool

structure Source where
  rest : List Char
  line : Nat := 1
  aliases : List (List Char × List Char) := []
  replacements : List Replacement := []
  wants : Wants := {}
  -- The token read last, and whether it is to be read again.
  token : Token := .newline
  again : Bool := false
  dues : List Due := []
  -- The texts found so far, by number.
  texts : List (Nat × Word) := []
  -- How many texts were asked for.
  count : Nat := 0

abbrev Reading :=
  StateT Source (Except SyntaxFault)

namespace Reading

def fault {α : Type} (text : String) : Reading α := do
  throw ⟨(← get).line, text⟩

def isContinued : List Char → Option (List Char)
  | '\\' :: '\n' :: s => some s
  | _ => none

-- Drops what joins a line to the next one.
def joinLines : Reading Unit := do
  let s ← get
  set (go s.rest.length s)
where
  go : Nat → Source → Source
    | 0, s => s
    | n + 1, s =>
      match isContinued s.rest with
      | some rest => go n { s with rest := rest, line := s.line + 1 }
      | none => s

-- The next character, which stays.
def peek : Reading (Option Char) := do
  return (← get).rest.head?

-- The next character that does not only join lines; it stays.
def peekJoined : Reading (Option Char) := do
  joinLines
  peek

-- Drops the next character.
def skip : Reading Unit :=
  modify fun s =>
    match s.rest with
    | '\n' :: rest => { s with rest := rest, line := s.line + 1 }
    | _ :: rest => { s with rest := rest }
    | [] => s

-- Drops the next character if it is the one given.
def skipIf (c : Char) : Reading Bool := do
  if (← peekJoined) = some c then
    skip
    return true
  return false

-- The longest stretch of characters for which `p` holds.
def takeWhile (p : Char → Bool) : Reading (List Char) := do
  let rec go : Nat → List Char → Reading (List Char)
    | 0, acc => return acc.reverse
    | n + 1, acc => do
      match ← peekJoined with
      | some c =>
        if p c then do
          skip
          go n (c :: acc)
        else return acc.reverse
      | none => return acc.reverse
  go (← get).rest.length []

end Reading

def isNameStart (c : Char) : Bool :=
  c.isAlpha || c == '_'

def isNameChar (c : Char) : Bool :=
  c.isAlphanum || c == '_'

def isName (s : List Char) : Bool :=
  match s with
  | [] => false
  | c :: cs => isNameStart c && cs.all isNameChar

-- Parameters that are no variables.
def isSpecial (c : Char) : Bool :=
  c.isDigit || "@*#?-$!".toList.contains c

-- Characters that end a word.
def isMeta (c : Char) : Bool :=
  " \t\n;&|()<>".toList.contains c

end Scaffold.Shell
