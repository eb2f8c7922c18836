import Scaffold.Shell.Utility.Characters

namespace Scaffold.Shell

open Text

-- A place in a text.
inductive Spot
  | lineStart
  | lineEnd
  | wordStart
  | wordEnd
  | wordEdge
  | noWordEdge
deriving DecidableEq, Repr

inductive Regex
  | empty
  -- A character in one of some ranges, or in none of them.
  | one (negated : Bool) (ranges : List (Char × Char))
  | any
  | spot (s : Spot)
  | seq (a b : Regex)
  | alt (a b : Regex)
  | times (a : Regex) (least : Nat) (most : Option Nat)
  | group (number : Nat) (a : Regex)
  -- What a group has matched.
  | back (number : Nat)
deriving Repr, Inhabited

namespace Regex

-- How texts are looked at.
structure View where
  text : Array Char
  -- Whether letters count as equal in both cases.
  fold : Bool := false

-- For each group the stretch that it matched last.
abbrev Groups :=
  List (Nat × Nat × Nat)

def isWordChar (c : Char) : Bool :=
  c.isAlphanum || c == '_'

def inRanges (ranges : List (Char × Char)) (c : Char) : Bool :=
  ranges.any fun (a, b) => a ≤ c && c ≤ b

namespace View

def wordAt (v : View) (i : Nat) : Bool :=
  (v.text[i]?).any isWordChar

def wordBefore (v : View) (i : Nat) : Bool :=
  0 < i && v.wordAt (i - 1)

-- Whether a place is one of a kind.
def isSpot (v : View) (s : Spot) (i : Nat) : Bool :=
  match s with
  | .lineStart => i == 0
  | .lineEnd => i == v.text.size
  | .wordStart => v.wordAt i && !v.wordBefore i
  | .wordEnd => !v.wordAt i && v.wordBefore i
  | .wordEdge => v.wordAt i != v.wordBefore i
  | .noWordEdge => v.wordAt i == v.wordBefore i

def holds (v : View) (negated : Bool) (ranges : List (Char × Char)) (c : Char) : Bool :=
  (inRanges ranges c || (v.fold && (inRanges ranges c.toLower || inRanges ranges c.toUpper))) != negated

def same (v : View) (a b : Char) : Bool :=
  a == b || (v.fold && a.toLower == b.toLower)

-- Whether the stretch of so many characters at `i` is the same as that at `j`.
def repeats (v : View) (i : Nat) : Nat → Nat → Bool
  | 0, _ => true
  | n + 1, j =>
    (match v.text[i]?, v.text[j]? with
      | some a, some b => v.same a b
      | _, _ => false) && v.repeats (i + 1) n (j + 1)

end View

-- Ends of matches with what the groups matched, the furthest first, each once.
abbrev Ends :=
  List (Nat × Groups)

-- Puts ends together; where both have one, that of the first counts.
def mergeEnds : Nat → Ends → Ends → Ends
  | 0, xs, _ => xs
  | _, [], ys => ys
  | _, xs, [] => xs
  | n + 1, x :: xs, y :: ys =>
    if x.1 = y.1 then x :: mergeEnds n xs ys
    else if y.1 < x.1 then x :: mergeEnds n xs (y :: ys)
    else y :: mergeEnds n (x :: xs) ys

def merge (xs ys : Ends) : Ends :=
  mergeEnds (xs.length + ys.length) xs ys

-- All ends that `next` gives behind some others.
def behindAll (next : Nat → Groups → Ends) (xs : Ends) : Ends :=
  match xs with
  | [(i, g)] => next i g
  | xs => xs.foldl (fun all (i, g) => merge all (next i g)) []

-- Ends behind any number of rounds, from those that wait, the nearest first.
def closure (next : Nat → Groups → Ends) : Nat → Ends → Ends → Ends
  | 0, _, found => found
  | _, [], found => found
  | n + 1, (i, g) :: waiting, found =>
    let more := ((next i g).filter fun e => i < e.1).reverse
    closure next n (mergeNear (waiting.length + more.length) waiting more) ((i, g) :: found)
where
  mergeNear : Nat → Ends → Ends → Ends
    | 0, xs, _ => xs
    | _, [], ys => ys
    | _, xs, [] => xs
    | n + 1, x :: xs, y :: ys =>
      if x.1 = y.1 then x :: mergeNear n xs ys
      else if x.1 < y.1 then x :: mergeNear n xs (y :: ys)
      else y :: mergeNear n (x :: xs) ys

-- Ends behind so many rounds.
def rounds (next : Nat → Groups → Ends) : Nat → Ends → Ends
  | 0, xs => xs
  | n + 1, xs => if xs.isEmpty then [] else rounds next n (behindAll next xs)

-- Ends behind at most so many rounds.
def upTo (next : Nat → Groups → Ends) : Nat → Ends → Ends
  | 0, xs => xs
  | n + 1, xs => if xs.isEmpty then [] else merge xs (upTo next n (behindAll next xs))

-- The ends of the matches that start at a place.
def ends (v : View) : Regex → Nat → Groups → Ends
  | .empty, i, g => [(i, g)]
  | .any, i, g => if i < v.text.size then [(i + 1, g)] else []
  | .one negated ranges, i, g =>
    match v.text[i]? with
    | some c => if v.holds negated ranges c then [(i + 1, g)] else []
    | none => []
  | .spot s, i, g => if v.isSpot s i then [(i, g)] else []
  | .seq a b, i, g => behindAll (ends v b) (ends v a i g)
  | .alt a b, i, g => merge (ends v a i g) (ends v b i g)
  | .times a least most, i, g =>
    let start := rounds (ends v a) least [(i, g)]
    match most with
    | none => closure (ends v a) (v.text.size + 2) start.reverse []
    | some n => upTo (ends v a) (n - least) start
  | .group number a, i, g =>
    (ends v a i g).map fun (j, h) => (j, (number, i, j) :: h.filter fun x => x.1 ≠ number)
  | .back number, i, g =>
    match g.lookup number with
    | some (a, b) => if v.repeats a (b - a) i then [(i + (b - a), g)] else []
    | none => []

-- A stretch that matches, and those that its groups match.
structure Found where
  start : Nat
  stop : Nat
  groups : Groups

-- The first stretch from a place on that matches, where `fits` holds of its ends.
def searchBy (v : View) (r : Regex) (fits : Nat → Nat → Bool) : Nat → Nat → Option Found
  | 0, _ => none
  | n + 1, i =>
    match (ends v r i []).find? fun e => fits i e.1 with
    | some (j, g) => some ⟨i, j, g⟩
    | none => searchBy v r fits n (i + 1)

-- The first stretch from a place on that matches.
def search (v : View) (r : Regex) (from' : Nat) : Option Found :=
  searchBy v r (fun _ _ => true) (v.text.size + 1 - from') from'

-- The form in which an expression is written.
structure Form where
  extended : Bool
  -- Whether there has to be something before a sign that says how often it may stand.
  strict : Bool
deriving DecidableEq

def Form.allowsLoose (f : Form) : Bool :=
  f.extended && !f.strict

def literal (c : Char) : Regex :=
  .one false [(c, c)]

def ofChars (cs : List Char) : List (Char × Char) :=
  cs.map fun c => (c, c)

def wordRanges : List (Char × Char) :=
  [('0', '9'), ('A', 'Z'), ('_', '_'), ('a', 'z')]

def spaceRanges : List (Char × Char) :=
  ofChars " \t\n\x0b\x0c\r".toList

-- One item of a bracket expression: a class such as `[:alpha:]`, or a character.
def bracketItem (s : List Char) : Except String ((List (Char × Char) ⊕ Char) × List Char) :=
  match s with
  | '[' :: ':' :: r =>
    let name := r.takeWhile (· ≠ ':')
    match r.drop name.length with
    | _ :: ']' :: rest =>
      match Utility.classChars? name with
      | some cs => .ok (.inl (ofChars cs), rest)
      | none => .error "Invalid character class name"
    | _ => .error "Unmatched [, [^, [:, [., or [="
  | c :: r => .ok (.inr c, r)
  | [] => .error "Unmatched [, [^, [:, [., or [="

-- The items of a bracket expression up to its end; a bracket in front is an item.
def bracketItems : Nat → Bool → List (Char × Char) → List Char → Except String (List (Char × Char) × List Char)
  | 0, _, _, _ => .error "Unmatched [, [^, [:, [., or [="
  | n + 1, first, acc, s =>
    match first, s with
    | false, ']' :: rest => .ok (acc, rest)
    | _, s => do
      let (item, rest) ← bracketItem s
      match item, rest with
      | .inr a, '-' :: more =>
        if more.head? = some ']' ∨ more = [] then bracketItems n false ((a, a) :: acc) rest
        else do
          let (last, rest) ← bracketItem more
          match last with
          | .inr b => if b < a then throw "Invalid range end" else bracketItems n false ((a, b) :: acc) rest
          | .inl _ => throw "Invalid range end"
      | .inr a, rest => bracketItems n false ((a, a) :: acc) rest
      | .inl rs, rest => bracketItems n false (rs ++ acc) rest

-- A bracket expression, behind its opening bracket.
def bracket (s : List Char) : Except String (Regex × List Char) := do
  let (negated, s) := match s with
    | '^' :: r => (true, r)
    | r => (false, r)
  let (ranges, rest) ← bracketItems (s.length + 1) true [] s
  return (.one negated ranges, rest)

-- How an expression starts that has been read so far.
structure Reader where
  rest : List Char
  -- How many groups have begun.
  groups : Nat := 0
  -- The groups that have ended.
  closed : List Nat := []
  -- How many groups are open.
  depth : Nat := 0

abbrev Reading :=
  StateT Reader (Except String)

-- A sign of an expression.
inductive Sign
  | open
  | close
  | bar
  | star
  | plus
  | ask
  | interval
  | other

-- The sign at the front, and what follows it.
def signOf (f : Form) (s : List Char) : Sign × List Char :=
  let named (c : Char) : Sign :=
    match c with
    | '(' => .open
    | ')' => .close
    | '|' => .bar
    | '+' => .plus
    | '?' => .ask
    | '\x7b' => .interval
    | _ => .other
  match s with
  | '*' :: r => (.star, r)
  | '\\' :: c :: r => if f.extended then (.other, s) else (named c, r)
  | c :: r => if f.extended then (named c, r) else (.other, s)
  | [] => (.other, [])

-- An interval such as `2,5`, behind its opening brace: the numbers, and what follows.
def interval? (f : Form) (s : List Char) : Option (Nat × Option Nat × List Char) := do
  let digits := s.takeWhile Char.isDigit
  let rest := s.drop digits.length
  let close (r : List Char) : Option (List Char) :=
    match f.extended, r with
    | true, '\x7d' :: r => some r
    | false, '\\' :: '\x7d' :: r => some r
    | _, _ => none
  match rest with
  | ',' :: r =>
    let upper := r.takeWhile Char.isDigit
    let rest ← close (r.drop upper.length)
    return (Arithmetic.natural digits, if upper = [] then none else some (Arithmetic.natural upper), rest)
  | r =>
    if digits = [] then none
    else
      let n := Arithmetic.natural digits
      return (n, some n, ← close r)

-- How often at most a part may be repeated.
def maxRepeats : Nat := 32767

-- Signs behind a part that say how often it may stand.
def repetitions (f : Form) : Nat → Regex → Reading Regex
  | 0, r => return r
  | n + 1, r => do
    let s ← get
    match signOf f s.rest with
    | (.star, rest) => do
      set { s with rest := rest }
      repetitions f n (.times r 0 none)
    | (.plus, rest) => do
      set { s with rest := rest }
      repetitions f n (.times r 1 none)
    | (.ask, rest) => do
      set { s with rest := rest }
      repetitions f n (.times r 0 (some 1))
    | (.interval, rest) => do
      match interval? f rest with
      | some (least, most, rest) => do
        if most.any (· < least) then throw "Invalid content of \\\x7b\\\x7d"
        if maxRepeats < least ∨ most.any (maxRepeats < ·) then throw "Regular expression too big"
        set { s with rest := rest }
        repetitions f n (.times r least most)
      | none =>
        if f.allowsLoose then return r
        else if rest.any (· = '\x7d') then throw "Invalid content of \\\x7b\\\x7d"
        else throw "Unmatched \\\x7b"
    | _ => return r

-- Whether an expression may end here: at the end of the text, of a group or of an alternative.
def endsHere (f : Form) (s : List Char) : Bool :=
  match s with
  | [] => true
  | s => match (signOf f s).1 with
    | .close => true
    | .bar => true
    | _ => false

-- What an escaped letter or digit stands for.
def escaped (c : Char) : Reading Regex := do
  match c with
  | 'w' => return .one false wordRanges
  | 'W' => return .one true wordRanges
  | 's' => return .one false spaceRanges
  | 'S' => return .one true spaceRanges
  | 'b' => return .spot .wordEdge
  | 'B' => return .spot .noWordEdge
  | '<' => return .spot .wordStart
  | '>' => return .spot .wordEnd
  | '\x60' => return .spot .lineStart
  | '\'' => return .spot .lineEnd
  | c =>
    if c.isDigit ∧ c ≠ '0' then
      let n := c.toNat - '0'.toNat
      if (← get).closed.contains n then return .back n else throw "Invalid back reference"
    else return literal c

-- A sign that says how often something may stand, without anything before it.
def unsupported (f : Form) (c : Char) : Reading Regex :=
  if !f.extended then return literal c
  else if f.strict then throw "Invalid preceding regular expression"
  else return .empty

mutual

-- Alternatives up to the end of the text or of a group.
def alternatives (f : Form) : Nat → Reading Regex
  | 0 => throw "Regular expression too big"
  | n + 1 => do
    let first ← sequence f n true .empty
    let s ← get
    match signOf f s.rest with
    | (.bar, rest) => do
      set { s with rest := rest }
      return .alt first (← alternatives f n)
    | _ => return first

-- Parts one after the other; `atStart` says that nothing stands before them.
def sequence (f : Form) : Nat → Bool → Regex → Reading Regex
  | 0, _, _ => throw "Regular expression too big"
  | n + 1, atStart, before => do
    let s ← get
    if s.rest = [] then return before
    match (signOf f s.rest).1, f.extended, s.depth with
    | .bar, _, _ => return before
    | .close, _, 0 => throw "Unmatched ) or \\)"
    | .close, _, _ => return before
    | _, _, _ => do
      let part ← part f n atStart
      let part ← match part with
        | .spot .lineStart => if f.allowsLoose then repetitions f s.rest.length part else pure part
        | part => repetitions f s.rest.length part
      let stillAtStart := match part with
        | .spot .lineStart => atStart
        | _ => false
      sequence f n stillAtStart (match before with
        | .empty => part
        | b => .seq b part)

-- One part, without what says how often it may stand.
def part (f : Form) : Nat → Bool → Reading Regex
  | 0, _ => throw "Regular expression too big"
  | n + 1, atStart => do
    let s ← get
    match signOf f s.rest, s.rest with
    | (.open, rest), _ => do
      let number := s.groups + 1
      set { s with rest := rest, groups := number, depth := s.depth + 1 }
      let inner ← alternatives f n
      let t ← get
      match signOf f t.rest with
      | (.close, rest) => do
        set { t with rest := rest, depth := s.depth, closed := number :: t.closed }
        return .group number inner
      | _ => throw "Unmatched ( or \\("
    | (.star, rest), _ => do
      set { s with rest := rest }
      unsupported f '*'
    | (.plus, rest), _ => do
      set { s with rest := rest }
      unsupported f '+'
    | (.ask, rest), _ => do
      set { s with rest := rest }
      unsupported f '?'
    | (.interval, rest), _ =>
      match f.allowsLoose, interval? f rest with
      | true, none => do
        set { s with rest := rest }
        return literal '\x7b'
      | _, _ => throw "Invalid preceding regular expression"
    | _, '[' :: rest => do
      let (r, rest) ← bracket rest
      set { s with rest := rest }
      return r
    | _, '.' :: rest => do
      set { s with rest := rest }
      return .any
    | _, '^' :: rest => do
      set { s with rest := rest }
      return if f.extended ∨ atStart then .spot .lineStart else literal '^'
    | _, '$' :: rest => do
      set { s with rest := rest }
      return if f.extended ∨ endsHere f rest then .spot .lineEnd else literal '$'
    | _, ['\\'] => throw "Trailing backslash"
    | _, '\\' :: c :: rest => do
      set { s with rest := rest }
      if f.extended ∧ !c.isAlphanum ∧ !"<>\x60'".toList.contains c then return literal c
      escaped c
    | _, c :: rest => do
      set { s with rest := rest }
      return literal c
    | _, [] => return .empty

end

def readAs (f : Form) (s : List Char) : Except String Regex := do
  let (r, _) ← (alternatives f (4 * s.length + 8)).run { rest := s }
  return r

-- Reads an expression, or says what is wrong with it.
def read (extended : Bool) (s : List Char) : Except String Regex :=
  readAs ⟨extended, false⟩ s

def readStrict (extended : Bool) (s : List Char) : Except String Regex :=
  readAs ⟨extended, true⟩ s

-- How many groups an expression has.
def groupCount : Regex → Nat
  | .seq a b => groupCount a + groupCount b
  | .alt a b => groupCount a + groupCount b
  | .times a _ _ => groupCount a
  | .group _ a => groupCount a + 1
  | _ => 0

-- An expression that matches a text and nothing else.
def ofText (s : List Char) : Regex :=
  s.foldr (fun c r => .seq (literal c) r) .empty

end Regex
end Scaffold.Shell
