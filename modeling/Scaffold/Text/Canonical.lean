import Scaffold.Text.Canonical.Decomposition
import Scaffold.Text.Canonical.Order

namespace Scaffold.Text.Canonical

-- A Hangul syllable as a leading consonant, a vowel and perhaps a trailing consonant.
def syllable? (c : Char) : Option (List Char) :=
  let n := c.toNat
  if 0xAC00 ≤ n ∧ n ≤ 0xD7A3 then
    let s := n - 0xAC00
    let front := [Char.ofNat (0x1100 + s / 588), Char.ofNat (0x1161 + s % 588 / 28)]
    some (if s % 28 = 0 then front else front ++ [Char.ofNat (0x11A7 + s % 28)])
  else none

-- No character takes more than four steps.
def decomposeChar : Nat → Char → List Char
  | 0, c => [c]
  | n + 1, c =>
    match decompositions.image? c with
    | some cs => cs.flatMap (decomposeChar n)
    | none => (syllable? c).getD [c]

-- Puts a character before the first one that must not come before it.
def insertMark (c : Char) : List Char → List Char
  | [] => [c]
  | d :: ds =>
    if combiningClass d < combiningClass c then d :: insertMark c ds else c :: d :: ds

-- Sorts each stretch of marks by class; equal ones stay in order.
def sortMarks : List Char → List Char
  | [] => []
  | c :: cs =>
    let rest := sortMarks cs
    if combiningClass c = 0 then c :: rest
    else
      let marks := rest.takeWhile fun d => combiningClass d ≠ 0
      insertMark c marks ++ rest.drop marks.length

def decompose (s : List Char) : List Char :=
  sortMarks (s.flatMap (decomposeChar 5))

def composeSyllable? (a b : Char) : Option Char :=
  let m := a.toNat
  let n := b.toNat
  if 0x1100 ≤ m ∧ m ≤ 0x1112 ∧ 0x1161 ≤ n ∧ n ≤ 0x1175 then
    some (Char.ofNat (0xAC00 + ((m - 0x1100) * 21 + (n - 0x1161)) * 28))
  else if 0xAC00 ≤ m ∧ m ≤ 0xD7A3 ∧ (m - 0xAC00) % 28 = 0 ∧ 0x11A8 ≤ n ∧ n ≤ 0x11C2 then
    some (Char.ofNat (m + (n - 0x11A7)))
  else none

-- The pairs of code points that compose, with what they compose to.
def compositions : Array Stretch :=
  decompositions.stretches.filter fun r =>
    r.stored.length = 2 ∧ !uncomposed.contains (Char.ofNat r.first)

def composePair? (a b : Char) : Option Char :=
  match composeSyllable? a b with
  | some c => some c
  | none =>
    (compositions.find? fun r => r.stored == [a.toNat, b.toNat]).map fun r => Char.ofNat r.first

-- Composes what follows a character that marks can be added to. Those that were not added wait in
-- `marks`, the last one first, and keep out others of their class.
def composeFrom (base : Char) (marks : List Char) : List Char → List Char
  | [] => base :: marks.reverse
  | c :: cs =>
    let reaches := marks.head?.all fun m => combiningClass m < combiningClass c
    match if reaches then composePair? base c else none with
    | some d => composeFrom d marks cs
    | none =>
      if combiningClass c = 0 then base :: marks.reverse ++ composeFrom c [] cs
      else composeFrom base (c :: marks) cs

def compose : List Char → List Char
  | [] => []
  | c :: cs => if combiningClass c = 0 then composeFrom c [] cs else c :: compose cs

-- The composed canonical form.
def normalize (s : List Char) : List Char :=
  compose (decompose s)

end Scaffold.Text.Canonical
