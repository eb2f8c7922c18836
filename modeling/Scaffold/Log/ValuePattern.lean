import Scaffold.Text.Alphanumeric
import Scaffold.Text.Cut

namespace Scaffold.Log.ValuePattern

open Text

-- Settings that may change in the course of an expression.
structure Mode where
  -- White space and comments do not count.
  spaced : Bool
  -- Octets are matched in place of characters. What matches beyond ASCII would match parts of one.
  octets : Bool

def skipSpaced : Bool → List Char → List Char
  | _, [] => []
  | true, c :: s => skipSpaced (c != '\n') s
  | false, c :: s =>
    if isBlank c then skipSpaced false s else if c == '#' then skipSpaced true s else c :: s

def Mode.skip (m : Mode) (s : List Char) : List Char :=
  if m.spaced then skipSpaced false s else s

-- What stands for itself or for more than itself in an expression.
inductive Atom
  | character (c : Char)
  | octet (n : Nat)
  | set
  | position
deriving DecidableEq, Repr

def hexValue? (c : Char) : Option Nat :=
  if c.isDigit then some (c.toNat - '0'.toNat)
  else if 'a' ≤ c ∧ c ≤ 'f' then some (c.toNat - 'a'.toNat + 10)
  else if 'A' ≤ c ∧ c ≤ 'F' then some (c.toNat - 'A'.toNat + 10)
  else none

-- A number of `digits` hexadecimal digits.
def hexadecimal (m : Mode) : Nat → Nat → List Char → Option (Nat × List Char)
  | 0, n, s => some (n, s)
  | digits + 1, n, s =>
    match m.skip s with
    | [] => none
    | c :: s => (hexValue? c).bind fun d => hexadecimal m digits (16 * n + d) s

def codePoint (m : Mode) (digits : Nat) (s : List Char) : Option (Atom × List Char) := do
  let (n, s) ← hexadecimal m digits 0 s
  if n.isValidChar then
    if m.octets && digits == 2 && 0x80 ≤ n then some (.octet n, s) else some (.character (Char.ofNat n), s)
  else none

-- The general categories have these letters.
def categories : List Char := "CLMNPSZ".toList

-- What stands behind a backslash.
def escape (m : Mode) : List Char → Option (Atom × List Char)
  | [] => none
  | c :: s =>
    if c = 'x' then codePoint m 2 s
    else if c = 'u' then codePoint m 4 s
    else if c = 'U' then codePoint m 8 s
    else if c = 'p' ∨ c = 'P' then
      match m.skip s with
      | d :: s => if !m.octets && categories.contains d.toUpper then some (.set, m.skip s) else none
      | [] => none
    else if "dsw".toList.contains c then some (.set, s)
    else if "DSW".toList.contains c then if m.octets then none else some (.set, s)
    else if "aftnrv".toList.contains c then some (.character c, s)
    else if c = 'A' ∨ c = 'z' then some (.position, s)
    else if "bB<>".toList.contains c then if m.octets then some (.position, s) else none
    else if c.toNat < 0x80 ∧ !c.isAlphanum then some (.character c, s)
    else none

-- What is known of a set: how deep sets are nested in it, and which octets beyond ASCII it holds.
structure Members where
  depth : Nat
  holds : Nat → Bool

namespace Members

def empty : Members := ⟨0, fun _ => false⟩

def deepest (ds : List Nat) : Nat :=
  ds.foldl max 0

def union : List Members → Members
  | [] => empty
  | [x] => x
  | xs => ⟨1 + deepest (xs.map depth), fun n => xs.any fun x => x.holds n⟩

def combine (op : Char) (a b : Members) : Members where
  depth := 1 + max a.depth b.depth
  holds n :=
    if op = '&' then a.holds n && b.holds n
    else if op = '-' then a.holds n && !b.holds n
    else a.holds n != b.holds n

-- A set closed by its bracket; where octets are matched, it must be one within ASCII.
def close? (m : Mode) (negated : Bool) (x : Members) : Option Members :=
  if m.octets && (List.range 0x80).any fun n => x.holds (0x80 + n) != negated then none
  else some ⟨1 + x.depth, fun _ => false⟩

end Members

def classNames : List String :=
  ["alnum", "alpha", "ascii", "blank", "cntrl", "digit", "graph", "lower", "print", "punct", "space",
    "upper", "word", "xdigit"]

-- A class by its name, as in `[:alpha:]`, after the first bracket: whether it is negated, and what follows.
def namedClass? (s : List Char) : Option (Bool × List Char) :=
  match s with
  | ':' :: s =>
    let (negated, s) := match s with
      | '^' :: s => (true, s)
      | s => (false, s)
    match cut ':' s with
    | some (name, ']' :: rest) =>
      if classNames.contains (String.ofList name) then some (negated, rest) else none
    | _ => none
  | _ => none

def setAtom (m : Mode) : List Char → Option (Atom × List Char)
  | [] => none
  | '\\' :: s => escape m s
  | c :: s => some (.character c, s)

-- The place of a character among the characters, if it may stand in a set.
def setPlace? (m : Mode) : Atom → Option Nat
  | .character c => if m.octets && 0x80 ≤ c.toNat then none else some c.toNat
  | .octet n => some n
  | _ => none

-- The next character that counts.
def peekSpaced (m : Mode) (s : List Char) : Option Char :=
  if m.spaced then
    match s.dropWhile isBlank with
    | '#' :: r => (r.dropWhile isBlank).head?
    | r => r.head?
  else s.head?

-- One member of a set: a character, a range or a class.
def setItem (m : Mode) (s : List Char) : Option (Members × List Char) := do
  let (a, s) ← setAtom m s
  let after := m.skip s
  let isRange := after.head? = some '-' ∧
    !((peekSpaced m after.tail).any fun c => c == ']' || c == '-')
  if isRange then
    let (b, rest) ← setAtom m (m.skip after.tail)
    let first ← setPlace? m a
    let last ← setPlace? m b
    if last < first then none
    some (⟨0, fun n => first ≤ n && n ≤ last⟩, rest)
  else
    match a with
    | .set => some (.empty, s)
    | .position => none
    | a => (setPlace? m a).map fun k => (⟨0, fun n => n == k⟩, s)

-- What is read of a set so far: the members since the last operation, and what stands before it.
structure SetSoFar where
  items : List Members
  left? : Option (Char × Members)

def SetSoFar.value (x : SetSoFar) : Members :=
  let right := Members.union x.items
  match x.left? with
  | some (op, left) => .combine op left right
  | none => right

-- The opening of a set, after its bracket: whether it is negated, its first members, and the rest. Here
-- hyphens stand for themselves, and so does a closing bracket in front.
def openSet (m : Mode) (s : List Char) : Bool × List Members × List Char :=
  let s := m.skip s
  let (negated, s) := match s with
    | '^' :: s => (true, m.skip s)
    | s => (false, s)
  let (hyphens, s) := spanHyphens s.length s
  match hyphens, s with
  | [], ']' :: s => (negated, [.empty], m.skip s)
  | hyphens, s => (negated, hyphens, s)
where
  spanHyphens : Nat → List Char → List Members × List Char
    | n + 1, '-' :: s =>
      let (more, s) := spanHyphens n (m.skip s)
      (.empty :: more, s)
    | _, s => ([], s)

-- The rest of a set up to its closing bracket.
def setBody (m : Mode) : Nat → Bool → SetSoFar → List Char → Option (Members × List Char)
  | 0, _, _, _ => none
  | n + 1, negated, x, s =>
    match m.skip s with
    | [] => none
    | ']' :: s => (Members.close? m negated x.value).map fun r => (r, s)
    | '[' :: s =>
      match namedClass? s with
      | some (outside, s) =>
        if m.octets && outside then none
        else setBody m n negated { x with items := .empty :: x.items } s
      | none => do
        let (inner, items, s) := openSet m s
        let (r, s) ← setBody m n inner ⟨items, none⟩ s
        setBody m n negated { x with items := r :: x.items } s
    | c :: s => do
      if (c = '&' ∨ c = '-' ∨ c = '~') ∧ s.head? = some c then
        setBody m n negated ⟨[], some (c, x.value)⟩ s.tail
      else
        let (r, s) ← setItem m (c :: s)
        setBody m n negated { x with items := r :: x.items } s

-- Settings at the start of a group, from after the question mark up to a colon or the closing
-- parenthesis: the new ones, the letters that were there, and what follows from that character on.
def flags (m : Mode) (seen : List Char) (on : Bool) : List Char → Option (Mode × List Char × List Char)
  | [] => none
  | c :: s =>
    if c = ':' ∨ c = ')' then
      if seen.head? = some '-' then none else some (m, seen, c :: s)
    else if seen.contains c ∨ !"-imsUuRx".toList.contains c then none
    else
      let m := if c = 'x' then { m with spaced := on } else if c = 'u' then { m with octets := !on } else m
      flags m (c :: seen) (on && c != '-') s

-- The name of a group, up to a closing angle bracket.
def groupName? (s : List Char) : Option (String × List Char) := do
  let (name, rest) ← cut '>' s
  let first ← name.head?
  if (first == '_' || isAlphabetic first) && name.tail.all fun c =>
      c == '_' || c == '.' || c == '[' || c == ']' || isAlphanumeric c then
    some (String.ofList name, rest)
  else none

-- What opens a group, after its parenthesis.
inductive Opening
  | settings (m : Mode)
  | group (m : Mode) (name? : Option String)

def opening? (m : Mode) (s : List Char) : Option (Opening × List Char) :=
  match m.skip s with
  | '?' :: 'P' :: '<' :: s => (groupName? s).map fun (name, s) => (.group m (some name), s)
  | '?' :: '<' :: s =>
    if s.head? = some '=' ∨ s.head? = some '!' then none
    else (groupName? s).map fun (name, s) => (.group m (some name), s)
  | '?' :: s =>
    match flags m [] true s with
    | some (m, _, ':' :: s) => some (.group m none, s)
    | some (m, seen, ')' :: s) => if seen = [] then none else some (.settings m, s)
    | _ => none
  | s => some (.group m none, s)

-- How deep an expression may nest.
def deepestNesting : Nat := 250

-- What follows one another or is a choice, by the depths of its parts.
def nest : List Nat → Nat
  | [] => 0
  | [d] => d
  | ds => 1 + Members.deepest ds

-- What is read of a group so far. The parts are known by their depths; a change of settings is a part
-- that has none and cannot be repeated.
structure GroupSoFar where
  choices : List Nat
  parts : List (Option Nat)
  names : List String

namespace GroupSoFar

def sequence (g : GroupSoFar) : Nat :=
  nest (g.parts.map fun d => d.getD 0)

def depth (g : GroupSoFar) : Nat :=
  nest (g.sequence :: g.choices)

def add (g : GroupSoFar) (depth : Nat) : GroupSoFar :=
  { g with parts := some depth :: g.parts }

-- Repeats the last part.
def again? (g : GroupSoFar) : Option GroupSoFar :=
  match g.parts with
  | some d :: parts => some { g with parts := some (d + 1) :: parts }
  | _ => none

end GroupSoFar

-- Reads a group up to its closing parenthesis or the end of the text.
def groupBody : Nat → Mode → GroupSoFar → List Char → Option (GroupSoFar × List Char)
  | 0, _, _, _ => none
  | n + 1, m, g, s =>
    match m.skip s with
    | [] => some (g, [])
    | ')' :: s => some (g, ')' :: s)
    | '(' :: s => do
      match ← opening? m s with
      | (.settings m, s) => groupBody n m { g with parts := none :: g.parts } s
      | (.group inner name?, s) =>
        if name?.any g.names.contains then none
        let (r, s) ← groupBody n inner ⟨[], [], name?.toList ++ g.names⟩ s
        match s with
        | ')' :: s => groupBody n m { g.add (1 + r.depth) with names := r.names } s
        | _ => none
    | '|' :: s => groupBody n m ⟨g.sequence :: g.choices, [], g.names⟩ s
    | '[' :: s => do
      let (negated, items, s) := openSet m s
      let (r, s) ← setBody m n negated ⟨items, none⟩ s
      groupBody n m (g.add r.depth) s
    | '\\' :: s => do
      match ← escape m s with
      | (.octet _, _) => none
      | (_, s) => groupBody n m (g.add 0) s
    | '.' :: s => if m.octets then none else groupBody n m (g.add 0) s
    | c :: s =>
      if c = '?' ∨ c = '*' ∨ c = '+' then do
        let g ← g.again?
        groupBody n m g (if s.head? = some '?' then s.tail else s)
      else if c = '\x7b' then none
      else groupBody n m (g.add 0) s

-- Whether a text is a regular expression that can be decided octet by octet: it refers to nothing matched
-- before, and asks for no boundary of words that hold letters beyond ASCII. Counted repetition cannot occur,
-- since a closing brace ends the value.
def isExpression (s : List Char) : Bool :=
  match groupBody (s.length + 1) ⟨false, false⟩ ⟨[], [], []⟩ s with
  | some (g, rest) => rest.isEmpty && g.depth ≤ deepestNesting
  | none => false

-- Whether a text is a number with or without a fraction and an exponent, an infinity or no number.
def isNumber (s : List Char) : Bool :=
  let s := match s with
    | '+' :: s => s
    | '-' :: s => s
    | s => s
  let whole := s.takeWhile Char.isDigit
  let rest := s.drop whole.length
  let (fraction, rest) := match rest with
    | '.' :: r => (r.takeWhile Char.isDigit, r.dropWhile Char.isDigit)
    | r => ([], r)
  let isExponent := match rest with
    | [] => true
    | e :: '+' :: r => e.toLower == 'e' && !r.isEmpty && r.all Char.isDigit
    | e :: '-' :: r => e.toLower == 'e' && !r.isEmpty && r.all Char.isDigit
    | e :: r => e.toLower == 'e' && !r.isEmpty && r.all Char.isDigit
  ["inf", "infinity", "nan"].contains (String.ofList (s.map Char.toLower)) ||
    (!(whole.isEmpty && fraction.isEmpty) && isExponent)

-- Whether a directive may ask for this value.
def isValid (s : List Char) : Bool :=
  isNumber s || isExpression s

end Scaffold.Log.ValuePattern
