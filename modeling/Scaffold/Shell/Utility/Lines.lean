import Scaffold.Shell.Utility.Options

namespace Scaffold.Shell.Utility

open Text

def isBlankChar (c : Char) : Bool :=
  c == ' ' || c == '\t' || c == '\n'

def dropBlanks (s : List Char) : List Char :=
  s.dropWhile isBlankChar

-- A number as it is written: its sign, its whole part and its digits behind the point.
structure Written where
  negative : Bool
  whole : List Char
  fraction : List Char

-- The number at the front of a text; where there is none, zero.
def writtenNumber (s : List Char) : Written :=
  let s := dropBlanks s
  let (negative, s) := match s with
    | '-' :: r => (true, r)
    | r => (false, r)
  let digits := s.takeWhile Char.isDigit
  let fraction := match s.drop digits.length with
    | '.' :: r => r.takeWhile Char.isDigit
    | _ => []
  let whole := digits.dropWhile (· = '0')
  let fraction := (fraction.reverse.dropWhile (· = '0')).reverse
  ⟨negative && !(whole.isEmpty && fraction.isEmpty), whole, fraction⟩

-- Compares numbers without their signs.
def Written.compareSizes (a b : Written) : Ordering :=
  ((compare a.whole.length b.whole.length).then (compareOfLessAndEq a.whole b.whole)).then
    (compareOfLessAndEq a.fraction b.fraction)

def Written.compare (a b : Written) : Ordering :=
  match a.negative, b.negative with
  | true, true => b.compareSizes a
  | true, false => .lt
  | false, true => .gt
  | false, false => a.compareSizes b

-- How a key is compared.
structure KeyOrder where
  numeric : Bool := false
  skipStart : Bool := false
  skipEnd : Bool := false
  fold : Bool := false
  reversed : Bool := false
deriving DecidableEq

def KeyOrder.add (o : KeyOrder) (atEnd : Bool) (c : Char) : KeyOrder :=
  match c with
  | 'b' => if atEnd then { o with skipEnd := true } else { o with skipStart := true }
  | 'f' => { o with fold := true }
  | 'r' => { o with reversed := true }
  | _ => { o with numeric := true }

-- A place in a line: behind so many fields, and then so many characters.
structure Key where
  startField : Nat := 0
  startChar : Nat := 0
  -- The number of the last field, and how many characters of it count; all for zero.
  stop : Option (Nat × Nat) := none
  order : KeyOrder := {}

def orderLetters : List Char :=
  "bfnr".toList

-- Drops some fields from the front of a line.
def dropFields (separator : Option Char) : Nat → List Char → List Char
  | 0, s => s
  | n + 1, s =>
    match separator with
    | some t => dropFields separator n ((s.dropWhile (· ≠ t)).drop 1)
    | none => dropFields separator n ((dropBlanks s).dropWhile fun c => !isBlankChar c)

-- How much of a line there is up to the end of a key.
def keyEnd (separator : Option Char) (skip : Bool) (line : List Char) (field count : Nat) : Nat :=
  let rest :=
    if count = 0 then
      match separator with
      | some t => (dropFields separator (field - 1) line).dropWhile (· ≠ t)
      | none => dropFields separator field line
    else
      let rest := dropFields separator (field - 1) line
      (if skip then dropBlanks rest else rest).drop count
  line.length - rest.length

-- The part of a line that a key stands for.
def Key.part (separator : Option Char) (k : Key) (line : List Char) : List Char :=
  let start := dropFields separator k.startField line
  let start := (if k.order.skipStart then dropBlanks start else start).drop k.startChar
  match k.stop with
  | none => start
  | some (field, count) =>
    start.take (keyEnd separator k.order.skipEnd line field count - (line.length - start.length))

def KeyOrder.compareParts (o : KeyOrder) (a b : List Char) : Ordering :=
  let view (s : List Char) : List Char := if o.fold then s.map Char.toUpper else s
  let result := if o.numeric then (writtenNumber a).compare (writtenNumber b)
    else compareOfLessAndEq (view a) (view b)
  if o.reversed then result.swap else result

-- A number at the front of a key's definition.
def keyNumber? (s : List Char) : Option (Nat × List Char) :=
  let digits := s.takeWhile Char.isDigit
  if digits = [] then none else some (Arithmetic.natural digits, s.drop digits.length)

-- A field and, behind a point, a character in it; `standard` where no character is given.
def readPosition (place : String) (standard : Nat) (text s : List Char) :
    Except (List Char) (Nat × Nat × List Char) := do
  let invalid (what : String) (s : List Char) : List Char :=
    rawOf ("invalid number " ++ what ++ ": invalid count at start of ") ++ quoted s
  match keyNumber? s with
  | none => throw (invalid place s)
  | some (0, _) => throw (rawOf "field number is zero: invalid field specification " ++ quoted text)
  | some (field, '.' :: r) =>
    match keyNumber? r with
    | none => throw (invalid "after '.'" r)
    | some (char, r) => return (field, char, r)
  | some (field, r) => return (field, standard, r)

-- A key as it is written, such as `2.3n,4`.
def readKey (text : List Char) : Except (List Char) Key := do
  let stray : List Char := rawOf "stray character in field spec: invalid field specification " ++ quoted text
  let (field, char, rest) ← readPosition "at field start" 1 text text
  if char = 0 then throw (rawOf "character offset is zero: invalid field specification " ++ quoted text)
  let letters := rest.takeWhile orderLetters.contains
  let order := letters.foldl (KeyOrder.add · false ·) {}
  match rest.drop letters.length with
  | [] => return ⟨field - 1, char - 1, none, order⟩
  | ',' :: r => do
    let (last, count, rest) ← readPosition "after ','" 0 text r
    if !rest.all orderLetters.contains then throw stray
    return ⟨field - 1, char - 1, some (last, count), rest.foldl (KeyOrder.add · true ·) order⟩
  | _ => throw stray

structure Sorting where
  keys : List Key
  separator : Option Char
  unique : Bool
  reversed : Bool

-- Compares lines by the keys alone.
def Sorting.compareKeys (t : Sorting) (a b : List Char) : Ordering :=
  t.keys.foldl (fun o k => o.then (k.order.compareParts (k.part t.separator a) (k.part t.separator b))) .eq

-- Compares lines; those that no key tells apart are compared whole.
def Sorting.compareLines (t : Sorting) (a b : List Char) : Ordering :=
  (t.compareKeys a b).then <|
    if t.unique then .eq else if t.reversed then compareOfLessAndEq b a else compareOfLessAndEq a b

def Sorting.sorted (t : Sorting) (ls : List (List Char)) : List (List Char) :=
  let all := ls.mergeSort fun a b => t.compareLines a b != .gt
  -- Of several lines that no key tells apart the first one stays.
  if t.unique then (all.splitBy fun a b => t.compareKeys a b == .eq).filterMap List.head? else all

-- The first line that is out of order, with its number.
def Sorting.disorder? (t : Sorting) : Nat → List (List Char) → Option (Nat × List Char)
  | n, a :: b :: rest =>
    let o := t.compareLines a b
    if o == .gt || (t.unique && o == .eq) then some (n + 1, b) else t.disorder? (n + 1) (b :: rest)
  | _, _ => none

def sortTable : OptionTable where
  letters := "bcCfk:nrt:u"
  names := [⟨"ignore-leading-blanks", 'b', .nothing⟩, ⟨"ignore-case", 'f', .nothing⟩,
    ⟨"numeric-sort", 'n', .nothing⟩, ⟨"reverse", 'r', .nothing⟩, ⟨"check", 'c', .nothing⟩, ⟨"key", 'k', .value⟩,
    ⟨"field-separator", 't', .value⟩, ⟨"unique", 'u', .nothing⟩]

-- The character between fields.
def separatorOf (g : Given) : Except (List Char) (Option Char) :=
  match g.value? 't' with
  | none => .ok none
  | some [] => .error (rawOf "empty tab")
  | some [c] => .ok (some c)
  | some ['\\', '0'] => .ok (some '\x00')
  | some s => .error (rawOf "multi-character tab " ++ quoted s)

def sortingOf (g : Given) : Except (List Char) Sorting := do
  -- The order that options give to all keys that say nothing of their own.
  let letters := (g.options.map Prod.fst).filter orderLetters.contains
  let common := letters.foldl (fun o c => (o.add false c).add true c) {}
  let keys ← (g.values 'k').mapM readKey
  let keys := if keys.isEmpty then [{ order := common }]
    else keys.map fun k => if k.order = {} then { k with order := common } else k
  return ⟨keys, ← separatorOf g, g.has 'u', g.has 'r'⟩

def sort (c : Call) : Action Nat :=
  c.withOptions 2 sortTable fun g =>
    match sortingOf g with
    | .error e => do
      c.complain e
      return 2
    | .ok t => do
      let mut ls : List (List Char) := []
      for file in orInput g.operands do
        match ← textOfFile 0 file with
        | .ok s => ls := ls ++ lines s
        | .error fault => do
          let what := if fault = DiskFault.isDirectory.message then "read failed: " else "cannot read: "
          c.complain (rawOf what ++ quotedIfNeeded file ++ rawOf (": " ++ fault))
          return 2
      if g.has 'c' || g.has 'C' then
        match t.disorder? 1 ls with
        | none => return 0
        | some (n, l) => do
          if !g.has 'C' then
            c.complain (quotedIfNeeded (g.operands.headD ['-']) ++ rawOf (":" ++ toString n ++ ": disorder: ") ++ l)
          return 1
      else
        emit (unlines (t.sorted ls))
        return 0

-- Shows each line that stands in a row only once.
def uniq (c : Call) : Action Nat :=
  let table : OptionTable := {
    letters := "cdiu"
    names := [⟨"count", 'c', .nothing⟩, ⟨"repeated", 'd', .nothing⟩, ⟨"ignore-case", 'i', .nothing⟩,
      ⟨"unique", 'u', .nothing⟩] }
  c.withOptions 1 table fun g =>
    match g.operands with
    | _ :: extra :: _ => c.misused 1 (rawOf "extra operand " ++ quoted extra)
    | operands => do
      let file := operands.headD ['-']
      match ← textOfFile 0 file with
      | .error e => do
        if e = DiskFault.isDirectory.message then c.complain (rawOf "error reading " ++ quoted file)
        else c.complainOf file e
        return 1
      | .ok s => do
        let view (l : List Char) : List Char := if g.has 'i' then l.map Char.toLower else l
        let groups := ((lines s).splitBy fun a b => view a == view b).filter fun group =>
          !(g.has 'd' && group.length = 1) && !(g.has 'u' && 1 < group.length)
        emit (unlines (groups.map fun group =>
          (if g.has 'c' then numberIn 7 group.length ++ [' '] else []) ++ group.headD []))
        return 0

end Scaffold.Shell.Utility
