import Scaffold.Text.Cut

namespace Scaffold.Toml

open Text

-- Digits of one kind, with single low lines between them.
def isDigits (digit : Char → Bool) (s : List Char) : Bool :=
  (s.splitOn '_').all fun part => !part.isEmpty && part.all digit

def isHexDigit (c : Char) : Bool :=
  c.isDigit || ('a' ≤ c && c ≤ 'f') || ('A' ≤ c && c ≤ 'F')

def dropSign : List Char → List Char
  | '+' :: s => s
  | '-' :: s => s
  | s => s

def isDecimal (s : List Char) : Bool :=
  s == ['0'] || (isDigits Char.isDigit s && s.head? != some '0')

def isInteger : List Char → Bool
  | '0' :: 'x' :: s => isDigits isHexDigit s
  | '0' :: 'o' :: s => isDigits (fun c => '0' ≤ c && c ≤ '7') s
  | '0' :: 'b' :: s => isDigits (fun c => c == '0' || c == '1') s
  | s => isDecimal (dropSign s)

def isExponent (s : List Char) : Bool :=
  isDigits Char.isDigit (dropSign s)

def isFloat (s : List Char) : Bool :=
  let s := dropSign s
  if s == "inf".toList || s == "nan".toList then true
  else
    let lower := s.map Char.toLower
    let (mantissa, exponent) := match cut 'e' lower with
      | some (m, e) => (m, some e)
      | none => (lower, none)
    let mantissaOk := match cut '.' mantissa with
      | some (whole, fraction) => isDecimal whole && isDigits Char.isDigit fraction
      | none => isDecimal mantissa && exponent.isSome
    mantissaOk && (exponent.map isExponent).getD true

def number? (s : List Char) : Option Nat :=
  if !s.isEmpty && s.all Char.isDigit then
    some (s.foldl (fun n c => n * 10 + (c.toNat - '0'.toNat)) 0)
  else none

-- A number of `width` digits within bounds.
def inRange (width low high : Nat) (s : List Char) : Bool :=
  s.length == width && (number? s).any fun n => low ≤ n && n ≤ high

def daysIn (year month : Nat) : Nat :=
  if month = 2 then
    if (year % 4 = 0 ∧ year % 100 ≠ 0) ∨ year % 400 = 0 then 29 else 28
  else if month = 4 ∨ month = 6 ∨ month = 9 ∨ month = 11 then 30 else 31

def isDate (s : List Char) : Bool :=
  match s.splitOn '-' with
  | [y, m, d] =>
    inRange 4 0 9999 y && inRange 2 1 12 m &&
      inRange 2 1 (daysIn ((number? y).getD 0) ((number? m).getD 1)) d
  | _ => false

-- Hours and minutes; seconds, with or without a fraction, may follow.
def isTime (s : List Char) : Bool :=
  match s.splitOn ':' with
  | [h, m] => inRange 2 0 23 h && inRange 2 0 59 m
  | [h, m, sec] =>
    inRange 2 0 23 h && inRange 2 0 59 m &&
      match cut '.' sec with
      | none => inRange 2 0 60 sec
      | some (whole, fraction) => inRange 2 0 60 whole && (number? fraction).isSome
  | _ => false

def isOffset (s : List Char) : Bool :=
  match s with
  | sign :: rest =>
    (sign == '+' || sign == '-') &&
      match rest.splitOn ':' with
      | [h, m] => inRange 2 0 23 h && inRange 2 0 59 m
      | _ => false
  | [] => false

-- A time of day, with or without an offset.
def isOffsetTime (s : List Char) : Bool :=
  let (time, offset) := s.span fun c => c.isDigit || c == ':' || c == '.'
  isTime time && (offset.isEmpty || offset == ['Z'] || offset == ['z'] || isOffset offset)

def isMoment (s : List Char) : Bool :=
  isTime s || isDate s ||
    (isDate (s.take 10) &&
      match s.drop 10 with
      | sep :: time => (sep == 'T' || sep == 't' || sep == ' ') && isOffsetTime time
      | [] => false)

def isScalar (s : List Char) : Bool :=
  isInteger s || isFloat s || isMoment s

end Scaffold.Toml
