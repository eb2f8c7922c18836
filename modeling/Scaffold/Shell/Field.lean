import Scaffold.Shell.Pattern
import Scaffold.Shell.Process

namespace Scaffold.Shell

open Text

-- A part of an expanded word.
inductive Glyph
  | char (c : Char) (quoted : Bool)
  -- Quotes stood here, so that there is a field even if it is empty.
  | quotes
deriving DecidableEq, Repr

-- How a stretch of an expanded word is cut.
inductive Cutting
  | whole
  -- At separators.
  | split
  -- At zeros only; each part is a field, also an empty one.
  | each
deriving DecidableEq, Repr

structure Stretch where
  cutting : Cutting
  glyphs : List Glyph

abbrev Field :=
  List Glyph

namespace Field

def text (f : Field) : List Char :=
  f.filterMap fun
    | .char c _ => some c
    | .quotes => none

def pattern (f : Field) : List PatternChar :=
  f.filterMap fun
    | .char c q => some ⟨c, q⟩
    | .quotes => none

def ofText (quoted : Bool) (s : List Char) : Field :=
  s.map (.char · quoted)

end Field

-- Separators unless others are set.
def standardSeparators : List Char :=
  [' ', '\t', '\n']

-- A word while it is cut. The fields, and what belongs to the one that has begun, stand backwards.
structure Splitting where
  fields : List Field := []
  current : Field := []
  -- Whether white space has just ended a field.
  inSpace : Bool := false
  -- Whether the last stretch was cut at zeros.
  afterEach : Bool := false
  -- How many fields there may still be, if they are counted; the last one takes what is left.
  left : Option Nat := none
  -- The last field without the separators at its end.
  trimmed : Option Field := none

namespace Splitting

def push (b : Splitting) (g : Glyph) : Splitting :=
  { b with current := g :: b.current, inSpace := false }

-- What a character does to the last of the counted fields: separators at its end do not belong to it.
def pushLast (b : Splitting) (isSeparator isSpace : Bool) (g : Glyph) : Splitting :=
  let b' := { b with current := g :: b.current }
  if isSpace then { b' with trimmed := some (b.trimmed.getD b.current) }
  else { b' with trimmed := if isSeparator && b.inSpace then b.trimmed else none, inSpace := false }

-- A separator that ends a field, unless it is white space in front of one.
def separate (b : Splitting) (counts isSpace : Bool) (g : Glyph) : Splitting :=
  let b := if counts then { b with inSpace := isSpace } else b
  if b.current = [] ∧ b.inSpace then { b with inSpace := false }
  else match b.left with
    | some 1 => { b with current := g :: b.current, trimmed := some b.current, left := some 0 }
    | left => { b with fields := b.current.reverse :: b.fields, current := [], left := left.map (· - 1) }

-- Takes a character of a stretch that is cut. After white space one other separator does not count.
def step (cutting : Cutting) (separators : List Char) (b : Splitting) (g : Glyph) : Splitting :=
  match g with
  | .quotes => b.push g
  | .char c _ =>
    let isSeparator := c == '\x00' || (cutting == .split && separators.contains c)
    let isSpace := isSeparator && (c == '\x00' || standardSeparators.contains c)
    if b.left = some 0 then b.pushLast isSeparator isSpace g
    else if b.inSpace then
      let b := { b with current := [] }
      if isSpace then b
      else if isSeparator then { b with inSpace := false }
      else b.push g
    else if isSeparator then b.separate (!b.afterEach && cutting != .each) isSpace g
    else b.push g

def stretch (separators : List Char) (b : Splitting) (s : Stretch) : Splitting :=
  match s.cutting with
  | .whole => { b with current := s.glyphs.reverse ++ b.current }
  | cutting =>
    let after := s.glyphs.foldl (step cutting separators) { b with inSpace := false }
    { after with afterEach := cutting == .each }

def finish (b : Splitting) : List Field :=
  let last := b.trimmed.getD b.current
  (if last = [] ∧ !b.afterEach then b.fields else last.reverse :: b.fields).reverse

end Splitting

-- The fields of an expanded word, at most `limit` if there is one.
def fieldsOf (separators : List Char) (limit : Option Nat) (word : List Stretch) : List Field :=
  (word.foldl (Splitting.stretch separators) { left := limit }).finish

-- Whether one text comes before another, octet by octet.
def precedes (a b : List Char) : Bool :=
  decide (a < b)

-- Whether something lies at the end of a path; a link is something.
def liesAt (p : Process) (path : List Char) : Bool :=
  match p.disk.locate p.cwd (textOf path) false with
  | .ok l => (p.disk.get? l).isSome
  | .error _ => false

-- The names in a directory that a part of a pattern stands for. Names that start with a dot do so in the
-- pattern.
def matchingNames (p : Process) (dir : List Char) (part : List PatternChar) : List (List Char) :=
  let names := match p.disk.list p.cwd (textOf (if dir = [] then ['.'] else dir)) with
    | .ok ns => [['.'], ['.', '.']] ++ ns.map rawOf
    | .error _ => []
  let hidden := ((unslashed part).head?.map PatternChar.char) == some '.'
  let as := atomsOf part
  names.filter fun n => (n.head? != some '.' || hidden) && matchesAtoms as n

-- The files that a pattern stands for, part by part; `base` is what was found before.
def matchingPaths (p : Process) : List (List PatternChar) → List Char → List (List Char)
  | [], _ => []
  | part :: rest, base =>
    let names :=
      if isPattern part then matchingNames p base part else [(unslashed part).map PatternChar.char]
    let next := names.map fun n => base ++ n
    match rest with
    | [] => next.filter (liesAt p)
    | _ => next.flatMap fun q => matchingPaths p rest (q ++ ['/'])

-- A field as it is used: the files it stands for, in order, or itself.
def expandPaths (p : Process) (f : Field) : List (List Char) :=
  if !isPattern f.pattern then [f.text]
  else match matchingPaths p (f.pattern.splitOnP fun c => c.char == '/') [] with
    | [] => [f.text]
    | ps => ps.mergeSort fun a b => !precedes b a

end Scaffold.Shell
