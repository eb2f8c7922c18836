import Scaffold.Text.Octets

namespace Scaffold.Shell

open Text

-- Octets as characters, one each.
def raw (s : Octets) : List Char :=
  s.map fun b => Char.ofNat b.toNat

def unraw (s : List Char) : Octets :=
  s.map fun c => UInt8.ofNat c.toNat

def rawOf (s : String) : List Char :=
  raw (octets s)

def textOf (s : List Char) : String :=
  ofOctets (unraw s)

-- What a redirection does with the file that it opens.
inductive Opening
  | input
  | output
  -- Output that may replace a file even where that is forbidden.
  | overwrite
  | append
  | both
deriving DecidableEq, Repr

mutual

-- A part of a word. What stands between quotes is neither split nor matched against files.
inductive Piece
  | text (quoted : Bool) (s : List Char)
  | parameter (quoted : Bool) (name : List Char) (use : Use)
  | command (quoted : Bool) (body : Command)
  | arithmetic (quoted : Bool) (expression : List Piece)

-- What is made of a parameter's value.
inductive Use
  | value
  | length
  -- `-`, `=`, `?` or `+`, with a word; `orEmpty` says that an empty value counts as unset.
  | instead (operator : Char) (orEmpty : Bool) (word : List Piece)
  -- Removes the shortest or longest match of a pattern at the start or the end.
  | strip (atStart longest : Bool) (pattern : List Piece)
  -- Nothing that has a meaning.
  | unknown

inductive Redirect
  | open (descriptor : Nat) (opening : Opening) (path : List Piece)
  | duplicate (descriptor : Nat) (source : List Piece)
  -- Input from the script itself, by the number of the text.
  | here (descriptor : Nat) (text : Nat)

-- Commands; those that can be at fault know the line they stand in.
inductive Command
  | skip
  | simple (line : Nat) (assignments : List (List Char × List Piece)) (words : List (List Piece))
      (redirects : List Redirect)
  | sequence (a b : Command)
  | both (a b : Command)
  | either (a b : Command)
  | negate (a : Command)
  | pipe (stages : List Command)
  | branch (condition yes no : Command)
  | loop (untilTrue : Bool) (condition body : Command)
  | each (line : Nat) (name : List Char) (words : Option (List (List Piece))) (body : Command)
  | choose (line : Nat) (subject : List Piece) (arms : List (List (List Piece) × Command))
  | define (name : List Char) (body : Command)
  | subshell (line : Nat) (body : Command) (redirects : List Redirect)
  -- Not waited for.
  | background (body : Command)
  | redirected (line : Nat) (body : Command) (redirects : List Redirect)

end

instance : Inhabited Command := ⟨.skip⟩

abbrev Word :=
  List Piece

-- The text of a word, if nothing in it is quoted or expanded.
def plainText? (w : Word) : Option (List Char) :=
  match w with
  | [.text false s] => some s
  | _ => none

end Scaffold.Shell
