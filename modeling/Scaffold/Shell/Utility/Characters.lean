import Scaffold.Shell.Utility.Options

namespace Scaffold.Shell.Utility

open Text

-- A part of a set: some characters in order, or all of a class.
inductive SetPart
  | chars (cs : List Char)
  | cls (name : List Char)

def octets : List Char :=
  (List.range 256).map Char.ofNat

-- The characters of a class, in order.
def classChars? (name : List Char) : Option (List Char) :=
  let table : List (String × (Char → Bool)) :=
    [("alnum", Char.isAlphanum), ("alpha", Char.isAlpha), ("blank", fun c => c == ' ' || c == '\t'),
      ("cntrl", fun c => c.toNat < 32 || c.toNat == 127), ("digit", Char.isDigit),
      ("graph", fun c => isPrintable c && c != ' '), ("lower", Char.isLower), ("print", isPrintable),
      ("punct", fun c => isPrintable c && c != ' ' && !c.isAlphanum),
      ("space", fun c => " \t\n\x0b\x0c\r".toList.contains c), ("upper", Char.isUpper),
      ("xdigit", fun c => c.isDigit || "abcdefABCDEF".toList.contains c)]
  (table.lookup (String.ofList name)).map octets.filter

-- The characters of a set as it is written, each with whether a backslash stood before it.
def unescapeSet : Nat → List Char → List (Char × Bool)
  | 0, _ => []
  | _, [] => []
  | n + 1, '\\' :: s =>
    match s with
    | [] => [('\\', false)]
    | c :: rest =>
      let controls : List (Char × Char) :=
        [('a', '\x07'), ('b', '\x08'), ('f', '\x0c'), ('n', '\n'), ('r', '\r'), ('t', '\t'), ('v', '\x0b')]
      if Arithmetic.isOctal c then
        let digits := (s.take 3).takeWhile Arithmetic.isOctal
        let value := digits.foldl (fun (n : Nat) (d : Char) => n * 8 + (d.toNat - '0'.toNat)) 0
        (Char.ofNat (value % 256), true) :: unescapeSet n (s.drop digits.length)
      else ((controls.lookup c).getD c, true) :: unescapeSet n rest
  | n + 1, c :: s => (c, false) :: unescapeSet n s

-- The name of a class in front, such as `[:alpha:]`, and what follows.
def className? (s : List (Char × Bool)) : Option (List Char × List (Char × Bool)) :=
  match s with
  | ('[', false) :: (':', false) :: rest =>
    let name := rest.takeWhile fun x => x.1 ≠ ':'
    match rest.drop name.length with
    | _ :: (']', false) :: more => some (name.map Prod.fst, more)
    | _ => none
  | _ => none

-- A character as it stands in a complaint about a range.
def rangeEnd (c : Char) : List Char :=
  if isPrintable c then [c] else escapedOctet c

def setParts : Nat → List (Char × Bool) → Except (List Char) (List SetPart)
  | 0, _ => .ok []
  | _, [] => .ok []
  | n + 1, s => do
    match className? s, s with
    | some (name, rest), _ => do
      if (classChars? name).isNone then throw (rawOf "invalid character class " ++ quoted name)
      return .cls name :: (← setParts n rest)
    | none, (a, _) :: ('-', false) :: (b, _) :: rest => do
      if b < a then
        throw (rawOf "range-endpoints of '" ++ rangeEnd a ++ '-' :: rangeEnd b ++
          rawOf "' are in reverse collating sequence order")
      let range := (List.range (b.toNat - a.toNat + 1)).map fun i => Char.ofNat (a.toNat + i)
      return .chars range :: (← setParts n rest)
    | none, (a, _) :: rest => return .chars [a] :: (← setParts n rest)
    | none, [] => return []

def readSet (s : List Char) : Except (List Char) (List SetPart) :=
  setParts (s.length + 1) (unescapeSet (s.length + 1) s)

def setChars (parts : List SetPart) : List Char :=
  parts.flatMap fun
    | .chars cs => cs
    | .cls name => (classChars? name).getD []

-- Leaves one of several characters of a set in a row.
def squeeze (isIn : Char → Bool) (s : List Char) : List Char :=
  (s.foldl (fun (acc : List Char) c => if isIn c && acc.head? == some c then acc else c :: acc) []).reverse

-- Which characters become which others.
def translation (sources : List Char) (into : List SetPart) : Except (List Char) (Char → Char) := do
  let isOdd (p : SetPart) : Bool := match p with
    | .cls n => n ≠ "lower".toList && n ≠ "upper".toList
    | .chars _ => false
  if into.any isOdd then
    throw (rawOf "when translating, the only character classes that may appear in\nstring2 are 'upper' and 'lower'")
  let targets := setChars into
  if targets = [] ∧ sources ≠ [] then throw (rawOf "when not truncating set1, string2 must be non-empty")
  let last := targets.getLast?.getD ' '
  let targets := targets ++ List.replicate (sources.length - targets.length) last
  let table := (sources.zip targets).foldl (fun (t : Array Char) (a, b) => t.setIfInBounds a.toNat b) octets.toArray
  return fun c => table[c.toNat]?.getD c

-- What becomes of a text by sets and the letters of options.
def trWork (g : Given) (first : List Char) (second : Option (List Char)) :
    Except (List Char) (List Char → List Char) := do
  let chars := setChars (← readSet first)
  let sources := if g.has 'c' then octets.filter fun c => !chars.contains c else chars
  let kept (s : List Char) : List Char := s.filter fun c => !sources.contains c
  match g.has 'd', second with
  | true, none => return kept
  | true, some t => do
    let squeezed := setChars (← readSet t)
    return fun s => squeeze squeezed.contains (kept s)
  | false, none => return squeeze sources.contains
  | false, some t => do
    let into ← readSet t
    let f ← translation sources into
    let squeezed := setChars into
    return fun s => if g.has 's' then squeeze squeezed.contains (s.map f) else s.map f

def tr (c : Call) : Action Nat :=
  let table : OptionTable := {
    letters := "cCds"
    names := [⟨"complement", 'c', .nothing⟩, ⟨"delete", 'd', .nothing⟩, ⟨"squeeze-repeats", 's', .nothing⟩]
    mixed := false }
  c.withOptions 1 table fun g => do
    let g := if g.has 'C' then g.add 'c' [] else g
    let deletes := g.has 'd'
    let squeezes := g.has 's'
    match g.operands with
    | [] => c.misused 1 (rawOf "missing operand")
    | first :: more =>
      if more = [] ∧ deletes = squeezes then
        c.complain (rawOf "missing operand after " ++ quoted first)
        complain (rawOf (if deletes then "Two strings must be given when both deleting and squeezing repeats."
          else "Two strings must be given when translating."))
        c.hint
        return 1
      match more.drop (if deletes && !squeezes then 0 else 1) with
      | extra :: _ => do
        c.complain (rawOf "extra operand " ++ quoted extra)
        if more.length = 1 then complain (rawOf "Only one string may be given when deleting without squeezing repeats.")
        c.hint
        return 1
      | [] =>
        match trWork g first more.head? with
        | .error e => do
          c.complain e
          return 1
        | .ok work => do
          match ← textOfFile 1048576 ['-'] with
          | .ok s => do
            emit (work s)
            return 0
          | .error e => do
            c.complainText ("read error: " ++ e)
            return 1

-- Numbers from one on to another, or to the end.
structure Span where
  first : Nat
  last : Option Nat

def Span.holds (s : Span) (n : Nat) : Bool :=
  s.first ≤ n && s.last.all (n ≤ ·)

-- The spans that a list such as `1,3-5,7-` gives.
def spansOf (fields : Bool) (s : List Char) : Except (List Char) (List Span) :=
  let fromOne := rawOf ((if fields then "fields" else "byte/character positions") ++ " are numbered from 1")
  let number (t : List Char) : Except (List Char) Nat :=
    if !t.all Char.isDigit then
      .error (rawOf (if fields then "invalid field value " else "invalid byte/character position ") ++ quoted t)
    else if Arithmetic.natural t = 0 then .error fromOne
    else .ok (Arithmetic.natural t)
  (s.splitOnP fun c => c == ',' || c == ' ' || c == '\t').mapM fun part => do
    match Text.cut '-' part with
    | none => do
      let n ← number part
      return ⟨n, some n⟩
    | some ([], []) => throw (rawOf "invalid range with no endpoint: -")
    | some (a, b) => do
      let first ← if a = [] then pure 1 else number a
      let last ← if b = [] then pure none else some <$> number b
      if last.any (· < first) then throw (rawOf "invalid decreasing range")
      return ⟨first, last⟩

-- The parts of a list whose numbers are in some spans.
def chosen {α : Type} (spans : List Span) (xs : List α) : List α :=
  (xs.zipIdx.filter fun (_, i) => spans.any fun s => s.holds (i + 1)).map Prod.fst

-- What is cut out of a line.
def cutLine (g : Given) (fields : Bool) (separator : Char) (spans : List Span) (line : List Char) :
    Option (List Char) :=
  if !fields then some (chosen spans line)
  else if line.contains separator then some ([separator].intercalate (chosen spans (line.splitOn separator)))
  else if g.has 's' then none
  else some line

def cut (c : Call) : Action Nat :=
  let table : OptionTable := {
    letters := "b:c:d:f:ns"
    names := [⟨"bytes", 'b', .value⟩, ⟨"characters", 'c', .value⟩, ⟨"fields", 'f', .value⟩,
      ⟨"delimiter", 'd', .value⟩, ⟨"only-delimited", 's', .nothing⟩] }
  c.withOptions 1 table fun g => do
    match g.options.filter fun o => o.1 == 'b' || o.1 == 'c' || o.1 == 'f' with
    | [] => c.misused 1 (rawOf "you must specify a list of bytes, characters, or fields")
    | _ :: _ :: _ => c.misused 1 (rawOf "only one list may be specified")
    | [(kind, list)] =>
      let fields := kind == 'f'
      let separator := (g.value? 'd').getD ['\t']
      if 1 < separator.length then return ← c.misused 1 (rawOf "the delimiter must be a single character")
      if !fields ∧ g.has 'd' then
        return ← c.misused 1 (rawOf "an input delimiter may be specified only when operating on fields")
      match spansOf fields list with
      | .error e => c.misused 1 e
      | .ok spans =>
        c.eachText 0 (orInput g.operands) fun _ s => do
          emit (unlines ((lines s).filterMap (cutLine g fields (separator.headD '\x00') spans)))
          return 0

end Scaffold.Shell.Utility
