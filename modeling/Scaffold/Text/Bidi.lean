import Scaffold.Text.Bidi.Table

namespace Scaffold.Text

inductive BidiClass
  | leftToRight
  | rightToLeft
  | arabicLetter
  | arabicNumber
  | europeanNumber
  | europeanSeparator
  | europeanTerminator
  | commonSeparator
  | nonspacingMark
  | boundaryNeutral
  | otherNeutral
deriving DecidableEq, Repr

namespace BidiClass

def table : List (BidiClass × CodePoints) :=
  [(rightToLeft, Bidi.rightToLefts), (arabicLetter, Bidi.arabicLetters),
    (nonspacingMark, Bidi.nonspacingMarks), (europeanNumber, Bidi.europeanNumbers),
    (arabicNumber, Bidi.arabicNumbers), (otherNeutral, Bidi.otherNeutrals),
    (europeanSeparator, Bidi.europeanSeparators), (europeanTerminator, Bidi.europeanTerminators),
    (commonSeparator, Bidi.commonSeparators), (boundaryNeutral, Bidi.boundaryNeutrals)]

def of (c : Char) : BidiClass :=
  ((table.find? fun e => e.2.contains c).map Prod.fst).getD leftToRight

-- Whether a character of the class makes a text one of both directions.
def isRightToLeft (b : BidiClass) : Bool :=
  b = rightToLeft || b = arabicLetter || b = arabicNumber

def isNeutral (b : BidiClass) : Bool :=
  [europeanNumber, europeanSeparator, commonSeparator, europeanTerminator, otherNeutral, boundaryNeutral,
    nonspacingMark].contains b

-- The rule for one label: the first character gives the direction, the last one that is no mark holds
-- it, and in between stands nothing of the other direction.
def isLabel : List BidiClass → Bool
  | [] => true
  | first :: rest =>
    let rest := (rest.reverse.dropWhile (· = nonspacingMark)).reverse
    if first = leftToRight then
      rest.getLast?.all (fun b => b = leftToRight || b = europeanNumber) &&
        rest.dropLast.all fun b => b = leftToRight || b.isNeutral
    else if first = rightToLeft ∨ first = arabicLetter then
      rest.getLast?.all (fun b => b.isRightToLeft || b = europeanNumber) &&
        rest.dropLast.all (fun b => b.isRightToLeft || b.isNeutral) &&
        !(rest.contains europeanNumber && rest.contains arabicNumber)
    else false

end BidiClass

-- Whether all labels keep their order where one of them has characters from right to left.
def bidiLabels (labels : List (List Char)) : Bool :=
  let classes := labels.map fun l => l.map BidiClass.of
  !(classes.any fun l => l.any BidiClass.isRightToLeft) || classes.all BidiClass.isLabel

end Scaffold.Text
