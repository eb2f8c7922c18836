import Scaffold.Toml.Value
import Scaffold.Toml.Scalar

namespace Scaffold.Toml

def isSpace (c : Char) : Bool :=
  c == ' ' || c == '\t'

def isControl (c : Char) : Bool :=
  c.toNat < 0x20 || c.toNat == 0x7F

-- What may stand in comments and between quotes.
def isPlain (c : Char) : Bool :=
  c == '\t' || !isControl c

def skipSpaces (s : List Char) : List Char :=
  s.dropWhile isSpace

def newline? : List Char → Option (List Char)
  | '\n' :: s => some s
  | '\r' :: '\n' :: s => some s
  | _ => none

-- Skips a comment, if one starts here.
def skipComment : List Char → List Char
  | '#' :: s => s.dropWhile isPlain
  | s => s

-- The end of a line: a comment or nothing, then a line break or the end of the text.
def lineEnd? (s : List Char) : Option (List Char) :=
  match skipComment (skipSpaces s) with
  | [] => some []
  | s => newline? s

-- Skips spaces, comments and line breaks.
def skipLines : Nat → List Char → List Char
  | 0, s => s
  | n + 1, s =>
    let s := skipSpaces s
    match newline? (skipComment s) with
    | some s => skipLines n s
    | none => s

def hexValue (c : Char) : Nat :=
  if c.isDigit then c.toNat - '0'.toNat
  else if 'a' ≤ c then c.toNat - 'a'.toNat + 10
  else c.toNat - 'A'.toNat + 10

-- A character given by the `width` digits of its code point.
def codePoint (width : Nat) (s : List Char) : Option (Char × List Char) :=
  let digits := s.take width
  let n := digits.foldl (fun n c => n * 16 + hexValue c) 0
  if digits.length = width ∧ digits.all isHexDigit ∧ n.isValidChar then
    some (Char.ofNat n, s.drop width)
  else none

-- What stands behind a backslash.
def escape : List Char → Option (Char × List Char)
  | 'b' :: s => some ('\x08', s)
  | 't' :: s => some ('\t', s)
  | 'n' :: s => some ('\n', s)
  | 'f' :: s => some ('\x0c', s)
  | 'r' :: s => some ('\r', s)
  | 'e' :: s => some ('\x1b', s)
  | '"' :: s => some ('"', s)
  | '\\' :: s => some ('\\', s)
  | 'x' :: s => codePoint 2 s
  | 'u' :: s => codePoint 4 s
  | 'U' :: s => codePoint 8 s
  | _ => none

-- Skips spaces and line breaks.
def skipBlank : List Char → List Char
  | '\r' :: '\n' :: s => skipBlank s
  | c :: s => if isSpace c || c == '\n' then skipBlank s else c :: s
  | [] => []

-- A line break that a backslash takes away, with all white space after it.
def foldedBreak? (s : List Char) : Option (List Char) :=
  (newline? (skipSpaces s)).map skipBlank

-- The rest of a string up to its closing quote, which is `quote`.
def stringBody (quote : Char) : Nat → List Char → List Char → Option (String × List Char)
  | 0, _, _ => none
  | _, _, [] => none
  | n + 1, acc, c :: s =>
    if c = quote then some (String.ofList acc.reverse, s)
    else if c = '\\' ∧ quote = '"' then do
      let (e, s) ← escape s
      stringBody quote n (e :: acc) s
    else if isPlain c then stringBody quote n (c :: acc) s
    else none

-- The rest of a string up to three closing quotes. Up to two more may stand before them.
def longStringBody (quote : Char) : Nat → List Char → List Char → Option (String × List Char)
  | 0, _, _ => none
  | _, _, [] => none
  | n + 1, acc, c :: s =>
    if c = quote then
      -- Of up to five quotes in a row the last three close the string.
      let run := ((c :: s).take 5).takeWhile (· = quote)
      let rest := (c :: s).drop run.length
      if run.length < 3 then longStringBody quote n (run ++ acc) rest
      else some (String.ofList (run.drop 3 ++ acc).reverse, rest)
    else if c = '\\' ∧ quote = '"' then
      match foldedBreak? s with
      | some s => longStringBody quote n acc s
      | none => do
        let (e, s) ← escape s
        longStringBody quote n (e :: acc) s
    else match newline? (c :: s) with
      | some rest =>
        -- A line break is kept as it is written, in one character or two.
        let written := (c :: s).take (s.length + 1 - rest.length)
        longStringBody quote n (written.reverse ++ acc) rest
      | none => if isPlain c then longStringBody quote n (c :: acc) s else none

def dropBreak (s : List Char) : List Char :=
  (newline? s).getD s

-- A string of any of the four kinds.
def string (s : List Char) : Option (String × List Char) :=
  match s with
  | '"' :: '"' :: '"' :: r => longStringBody '"' (s.length + 1) [] (dropBreak r)
  | '\'' :: '\'' :: '\'' :: r => longStringBody '\'' (s.length + 1) [] (dropBreak r)
  | '"' :: r => stringBody '"' (s.length + 1) [] r
  | '\'' :: r => stringBody '\'' (s.length + 1) [] r
  | _ => none

def isBareChar (c : Char) : Bool :=
  c.isAlphanum || c == '-' || c == '_'

def simpleKey (s : List Char) : Option (String × List Char) :=
  match s with
  | '"' :: r => stringBody '"' (s.length + 1) [] r
  | '\'' :: r => stringBody '\'' (s.length + 1) [] r
  | _ =>
    let bare := s.takeWhile isBareChar
    if bare = [] then none else some (String.ofList bare, s.drop bare.length)

-- A key, with the keys behind its dots.
def dottedKey : Nat → List Char → Option (List String × List Char)
  | 0, _ => none
  | n + 1, s => do
    let (k, s) ← simpleKey (skipSpaces s)
    match skipSpaces s with
    | '.' :: s =>
      let (ks, s) ← dottedKey n s
      return (k :: ks, s)
    | s => return ([k], s)

def isScalarChar (c : Char) : Bool :=
  c.isAlphanum || c == '+' || c == '-' || c == '.' || c == '_' || c == ':'

-- A word that stands for a value; a date may be parted from a time by one space.
def word (s : List Char) : List Char × List Char :=
  let w := s.takeWhile isScalarChar
  match s.drop w.length with
  | ' ' :: c :: r =>
    if isDate w ∧ c.isDigit then
      let t := (c :: r).takeWhile isScalarChar
      (w ++ ' ' :: t, (c :: r).drop t.length)
    else (w, ' ' :: c :: r)
  | r => (w, r)

mutual

def value : Nat → List Char → Option (Value × List Char)
  | 0, _ => none
  | n + 1, s =>
    match s with
    | '[' :: r => (items n [] (skipLines n r)).map fun (vs, r) => (.array vs, r)
    | '{' :: r => (pairs n [] (skipLines n r)).map fun (t, r) => (.table .inline t, r)
    | '"' :: _ => (string s).map fun (t, r) => (.string t, r)
    | '\'' :: _ => (string s).map fun (t, r) => (.string t, r)
    | _ =>
      match word s with
      | (['t', 'r', 'u', 'e'], r) => some (.boolean true, r)
      | (['f', 'a', 'l', 's', 'e'], r) => some (.boolean false, r)
      | (w, r) => if isScalar w then some (.scalar (String.ofList w), r) else none

-- The rest of an array, where a value or the closing bracket is due.
def items : Nat → List Value → List Char → Option (List Value × List Char)
  | 0, _, _ => none
  | n + 1, acc, s =>
    match s with
    | ']' :: r => some (acc.reverse, r)
    | _ => do
      let (v, r) ← value n s
      match skipLines n r with
      | ',' :: r => items n (v :: acc) (skipLines n r)
      | ']' :: r => return ((v :: acc).reverse, r)
      | _ => none

-- The rest of an inline table, where a key or the closing brace is due.
def pairs : Nat → Table → List Char → Option (Table × List Char)
  | 0, _, _ => none
  | n + 1, acc, s =>
    match s with
    | '}' :: r => some (acc, r)
    | _ => do
      let (k, v, r) ← pair n s
      let acc ← acc.put v k
      match skipLines n r with
      | ',' :: r => pairs n acc (skipLines n r)
      | '}' :: r => return (acc, r)
      | _ => none

def pair : Nat → List Char → Option (List String × Value × List Char)
  | 0, _ => none
  | n + 1, s => do
    let (k, s) ← dottedKey (s.length + 1) s
    match skipSpaces s with
    | '=' :: s =>
      let (v, s) ← value n (skipSpaces s)
      return (k, v, s)
    | _ => none

end

-- A table's header, between single or doubled brackets.
def header (s : List Char) : Option (Bool × List String × List Char) := do
  let (doubled, s) := match s with
    | '[' :: '[' :: s => (true, s)
    | s => (false, s.drop 1)
  let (k, s) ← dottedKey (s.length + 1) s
  match doubled, s with
  | true, ']' :: ']' :: s => return (true, k, s)
  | false, ']' :: s => return (false, k, s)
  | _, _ => none

-- A header and the pairs under it; those before the first header have none.
structure Part where
  header : Option (Bool × List String)
  pairs : List (List String × Value)

-- The parts of a document, the last one first.
def parts : Nat → List Part → List Char → Option (List Part)
  | 0, _, _ => none
  | n + 1, acc, s =>
    match skipSpaces s with
    | [] => some acc
    | '[' :: r => do
      let (doubled, k, s) ← header ('[' :: r)
      parts n (⟨some (doubled, k), []⟩ :: acc) (← lineEnd? s)
    | c :: r =>
      match lineEnd? (c :: r) with
      | some s => parts n acc s
      | none => do
        let (k, v, s) ← pair n (c :: r)
        match acc with
        | [] => none
        | p :: ps => parts n ({ p with pairs := p.pairs ++ [(k, v)] } :: ps) (← lineEnd? s)

def Part.addTo (t : Table) (p : Part) : Option Table :=
  let fill (t : Table) : Option Table := p.pairs.foldlM (fun t (k, v) => t.put v k) t
  match p.header with
  | none => fill t
  | some (doubled, k) => t.enter doubled fill k

def dropMark : List Char → List Char
  | c :: s => if c.toNat = 0xFEFF then s else c :: s
  | [] => []

-- The table that a document holds, `none` if it is no TOML.
def parse? (text : String) : Option Table := do
  let s := dropMark text.toList
  let ps ← parts (4 * s.length + 16) [⟨none, []⟩] s
  ps.reverse.foldlM Part.addTo []

end Scaffold.Toml
