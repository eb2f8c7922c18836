import Scaffold.Shell.Arithmetic

namespace Scaffold.Shell

open Arithmetic (isOctal)

def octal (s : List Char) : Char :=
  Char.ofNat (s.foldl (fun n c => n * 8 + (c.toNat - '0'.toNat)) 0 % 256)

-- The character that a letter stands for behind a backslash.
def controlOf? (c : Char) : Option Char :=
  [('a', '\x07'), ('b', '\x08'), ('e', '\x1b'), ('f', '\x0c'), ('n', '\n'), ('r', '\r'), ('t', '\t'),
    ('v', '\x0b'), ('\\', '\\')].lookup c

-- The character that an escape stands for, from behind its backslash on: up to three octal digits, or a
-- letter. A backslash before anything else stands for itself.
def escape (s : List Char) : Char × List Char :=
  match s with
  | [] => ('\\', [])
  | c :: rest =>
    if isOctal c then
      let digits := (s.take 3).takeWhile isOctal
      (octal digits, s.drop digits.length)
    else match controlOf? c with
      | some d => (d, rest)
      | none => ('\\', s)

-- A text with its escapes carried out, and whether `\c` cut it short. A zero in front of octal digits does
-- not count.
def unescape : Nat → List Char → List Char → List Char × Bool
  | 0, acc, _ => (acc.reverse, false)
  | _, acc, [] => (acc.reverse, false)
  | n + 1, acc, '\\' :: s =>
    match s with
    | 'c' :: _ => (acc.reverse, true)
    | '0' :: d :: r =>
      let (c, rest) := escape (if isOctal d then d :: r else s)
      unescape n (c :: acc) rest
    | s =>
      let (c, rest) := escape s
      unescape n (c :: acc) rest
  | n + 1, acc, c :: s => unescape n (c :: acc) s

def unescaped (s : List Char) : List Char × Bool :=
  unescape (s.length + 1) [] s

-- Puts a text into a field of a width; `left` says at which side it stands.
def pad (left : Bool) (fillChar : Char) (width : Nat) (s : List Char) : List Char :=
  let gap := List.replicate (width - s.length) fillChar
  if left then s ++ gap else gap ++ s

-- A conversion in a format.
structure Conversion where
  flags : List Char
  width : Nat
  precision : Option Nat
  kind : Char

def Conversion.has (c : Conversion) (flag : Char) : Bool :=
  c.flags.contains flag

-- A number in its field: sign, leading zeros, digits.
def Conversion.field (c : Conversion) (zeros : Bool) (lead digits : List Char) : List Char :=
  if zeros && c.has '0' && !c.has '-' then lead ++ pad false '0' (c.width - lead.length) digits
  else pad (c.has '-') ' ' c.width (lead ++ digits)

def Conversion.text (c : Conversion) (s : List Char) : List Char :=
  pad (c.has '-') ' ' c.width ((c.precision.map s.take).getD s)

def Conversion.sign (c : Conversion) (negative : Bool) : List Char :=
  if negative then ['-'] else if c.has '+' then ['+'] else if c.has ' ' then [' '] else []

-- The digits of a whole number; zero has none if none are asked for.
def Conversion.digits (c : Conversion) (radix n : Nat) : List Char :=
  match c.precision with
  | some p => pad false '0' p (if n = 0 ∧ p = 0 then [] else Nat.toDigits radix n)
  | none => Nat.toDigits radix n

def Conversion.signed (c : Conversion) (n : Int) : List Char :=
  c.field c.precision.isNone (c.sign (n < 0)) (c.digits 10 n.natAbs)

def Conversion.unsigned (c : Conversion) (n : Nat) : List Char :=
  let zeros := c.precision.isNone
  match c.kind with
  | 'o' =>
    let digits := c.digits 8 n
    c.field zeros [] (if c.has '#' && digits.head? != some '0' then '0' :: digits else digits)
  | 'u' => c.field zeros [] (c.digits 10 n)
  | _ =>
    let s := c.field zeros (if c.has '#' && n != 0 then ['0', 'x'] else []) (c.digits 16 n)
    if c.kind = 'X' then s.map Char.toUpper else s

-- What is wrong with an argument that should be a number and of which `rest` is not part of one.
def leftOver (arg rest : List Char) (outOfRange : Bool) : Option String :=
  if rest ≠ [] then some (if rest = arg then "expected numeric value" else "not completely converted")
  else if outOfRange then some "Numerical result out of range"
  else none

-- The code of the character behind a quote.
def quotedCode? (arg : List Char) : Option Nat :=
  match arg with
  | q :: cs => if q = '\'' ∨ q = '"' then some (cs.headD '\x00').toNat else none
  | [] => none

-- The whole number at the front of an argument, with its sign, and what follows it.
def wholeNumber (arg : List Char) : Int × List Char :=
  let s := arg.dropWhile Arithmetic.isGap
  let (negative, body) := match s with
    | '-' :: r => (true, r)
    | '+' :: r => (false, r)
    | r => (false, r)
  match Arithmetic.numeral? body with
  | some (n, rest) => (if negative then -Int.ofNat n else Int.ofNat n, rest)
  | none => (0, arg)

-- An argument as a number with a sign, and what is wrong with it.
def signedOf (arg : List Char) : Int × Option String :=
  match quotedCode? arg with
  | some n => (Int.ofNat n, none)
  | none =>
    let (n, rest) := wholeNumber arg
    let m := max Arithmetic.smallest (min n Arithmetic.largest)
    (m, leftOver arg rest (m != n))

-- An argument as a number without a sign; a negative one is read as a word.
def unsignedOf (arg : List Char) : Nat × Option String :=
  match quotedCode? arg with
  | some n => (n, none)
  | none =>
    let (n, rest) := wholeNumber arg
    let fits := n.natAbs < Arithmetic.wordCount
    (if fits then Arithmetic.bits n else Arithmetic.wordCount - 1, leftOver arg rest !fits)

-- What a format made of arguments so far.
structure Formatted where
  -- The parts of the output, the last one first.
  parts : List (List Char) := []
  -- Arguments that no conversion took.
  rest : List (List Char)
  stopped : Bool := false
  -- What is said about arguments that should have been numbers.
  complaints : List (List Char × String) := []
  -- What is wrong with the format itself.
  broken : Option (List Char) := none

namespace Formatted

def output (f : Formatted) : List Char :=
  f.parts.reverse.flatten

def put (f : Formatted) (s : List Char) : Formatted :=
  { f with parts := s :: f.parts }

-- Takes the next argument. Where there is none, nothing is wrong with it.
def take {α : Type} (f : Formatted) (read : List Char → α × Option String) : α × Formatted :=
  let arg := f.rest.headD []
  let (a, fault) := read arg
  (a, { f with
    rest := f.rest.drop 1
    complaints := f.complaints ++ fault.toList.map fun t => (arg, t) })

end Formatted

-- A width or precision at the front: a number, or a star for an argument.
def amount (f : Formatted) (s : List Char) : Int × Formatted × List Char :=
  match s with
  | '*' :: r =>
    let (n, f) := f.take signedOf
    (n, f, r)
  | s =>
    let digits := s.takeWhile fun c => c.isDigit
    (Int.ofNat (Arithmetic.natural digits), f, s.drop digits.length)

-- The conversion behind a percent sign, and what follows its letter.
def conversion (f : Formatted) (s : List Char) : Formatted × Option (Conversion × List Char) :=
  let flags := s.takeWhile fun c => "-+ #0".toList.contains c
  let (width, f, s) := amount f (s.drop flags.length)
  let flags := if width < 0 then '-' :: flags else flags
  let (precision, f, s) := match s with
    | '.' :: r =>
      let (p, f, s) := amount f r
      (if p < 0 then none else some p.toNat, f, s)
    | s => (none, f, s)
  match s with
  | k :: rest => (f, some (⟨flags, width.natAbs, precision, k⟩, rest))
  | [] => (f, none)

-- Writes the next argument as a conversion says; `none` if there is no such conversion.
def convert (f : Formatted) (c : Conversion) : Option Formatted :=
  if c.kind = 's' then
    let (s, f) := f.take fun s => (s, none)
    some (f.put (c.text s))
  else if c.kind = 'b' then
    let ((s, stop), f) := f.take fun s => (unescaped s, none)
    some { f.put (c.text s) with stopped := stop }
  else if c.kind = 'c' then
    let (k, f) := f.take fun s => (s.headD '\x00', none)
    some (f.put (pad (c.has '-') ' ' c.width [k]))
  else if c.kind = 'd' ∨ c.kind = 'i' then
    let (n, f) := f.take signedOf
    some (f.put (c.signed n))
  else if "ouxX".toList.contains c.kind then
    let (n, f) := f.take unsignedOf
    some (f.put (c.unsigned n))
  else none

-- One pass over a format. Conversions with no argument left get an empty one.
def formatOnce : Nat → Formatted → List Char → Formatted
  | 0, f, _ => f
  | _, f, [] => f
  | n + 1, f, '%' :: '%' :: s => formatOnce n (f.put ['%']) s
  | n + 1, f, '%' :: s =>
    match conversion f s with
    | (f, none) => { f with broken := some "missing format character".toList }
    | (f, some (c, rest)) =>
      match convert f c with
      | none => { f with broken := some ('%' :: s.take (s.length - rest.length) ++ ": invalid directive".toList) }
      | some f => if f.stopped then f else formatOnce n f rest
  | n + 1, f, '\\' :: s =>
    let (c, rest) := escape s
    formatOnce n (f.put [c]) rest
  | n + 1, f, c :: s => formatOnce n (f.put [c]) s

-- Uses a format until no arguments are left, or it takes none.
def formatAll : Nat → Formatted → List Char → Formatted
  | 0, f, _ => f
  | n + 1, f, format =>
    let g := formatOnce (format.length + 1) f format
    if g.stopped ∨ g.broken.isSome ∨ g.rest = [] ∨ g.rest.length = f.rest.length then g
    else formatAll n g format

-- Arguments in a format.
def formatted (format : List Char) (args : List (List Char)) : Formatted :=
  formatAll (args.length + 1) { rest := args } format

end Scaffold.Shell
