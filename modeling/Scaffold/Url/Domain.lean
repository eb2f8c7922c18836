import Scaffold.Text.Bidi
import Scaffold.Text.Canonical
import Scaffold.Text.Joining
import Scaffold.Text.Marks
import Scaffold.Text.Punycode
import Scaffold.Url.Mapping

namespace Scaffold.Url

open Text

def isASCII (c : Char) : Bool :=
  c.toNat < 0x80

-- Characters that no label may hold: controls, space, capitals, and those with a meaning of their own in
-- a URL.
def isForbidden (c : Char) : Bool :=
  c.toNat ≤ 0x20 || c.toNat == 0x7F || c.isUpper || "%#/:<>?@[\\]^|".toList.contains c

-- Characters with their replacements, in composed form; `none` if one is refused.
def mapped? (s : List Char) : Option (List Char) := do
  let pieces ← s.mapM fun c =>
    match Treatment.of c with
    | .kept => some [c]
    | .replaced image => some image
    | .dropped => some []
    | .refused => none
  return Canonical.normalize pieces.flatten

-- Whether a joiner may stand between the two parts of a label: after a virama, and the one that keeps
-- letters apart also between letters that would join.
def mayJoin (joiner : Char) (before after : List Char) : Bool :=
  before.getLast?.any (fun c => Canonical.combiningClass c == 9) ||
    (joiner == '\u200C' && Joining.joinsForward before && Joining.joinsBackward after)

def joinersFit (before : List Char) : List Char → Bool
  | [] => true
  | c :: cs =>
    (!(c == '\u200C' || c == '\u200D') || mayJoin c before.reverse cs) && joinersFit (c :: before) cs

-- How long a label beyond ASCII, and how long a code, may be.
def longestLabel : Nat := 1000
def longestCode : Nat := 2000

-- Whether a label that is written as itself can be one.
def isLabel (l : List Char) : Bool :=
  joinersFit [] l && (l.all isASCII || l.length ≤ longestLabel)

def startsWithMark (l : List Char) : Bool :=
  l.head?.any isMark

-- The label that a code stands for. It is composed, and holds nothing that would be replaced.
def decoded? (code : List Char) : Option (List Char) := do
  if code = [] ∨ code.getLast? = some '-' ∨ longestCode < code.length then none
  let l ← Punycode.decode? code
  if l.all (fun c => Treatment.of c == .kept && !isForbidden c && c != '.') && Canonical.normalize l == l
      && !startsWithMark l && isLabel l then
    some l
  else none

-- What follows `xn--`, if a label starts with it.
def code? : List Char → Option (List Char)
  | 'x' :: 'n' :: '-' :: '-' :: code => some code
  | _ => none

-- The labels that a stretch between two written dots stands for: replacements may bring more dots. A mark
-- may follow the ASCII characters in front, but may not start a label after such a dot.
def stretchLabels? (s : List Char) : Option (List (List Char)) := do
  -- The last ASCII character of the front is composed with what follows it.
  let front := if s.all isASCII then s else (s.takeWhile isASCII).dropLast
  let head := front.map Char.toLower
  if head.any isForbidden then none
  let tail ← mapped? (s.drop front.length)
  if tail.any isForbidden then none
  match tail.splitOn '.' with
  | [] => none
  | first :: more =>
    ((head ++ first, head.isEmpty) :: more.map fun l => (l, true)).mapM fun (l, atStart) =>
      match code? l with
      | some code => if code.all isASCII then decoded? code else none
      | none => if (atStart && startsWithMark l) || !isLabel l then none else some l

-- The labels of a domain, `none` if it is no domain.
def labels? (s : List Char) : Option (List (List Char)) := do
  let labels := (← (s.splitOn '.').mapM stretchLabels?).flatten
  if bidiLabels labels then some labels else none

end Scaffold.Url
