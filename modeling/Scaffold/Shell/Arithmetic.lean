import Scaffold.Shell.Source

namespace Scaffold.Shell.Arithmetic

-- Why an expression has no value.
inductive Fault
  -- The expression itself is at fault.
  | expression (text : String)
  -- A text should be a number and is none.
  | number (text : List Char)
deriving DecidableEq, Repr

def truth (b : Bool) : Int :=
  if b then 1 else 0

-- How many words of 64 bits there are.
def wordCount : Nat := Nat.pow 2 64

def largest : Int := Int.ofNat (Nat.pow 2 63) - 1

def smallest : Int := -Int.ofNat (Nat.pow 2 63)

def power (n : Nat) : Int :=
  Int.ofNat (Nat.pow 2 n)

-- The value as a word of 64 bits.
def wrap (n : Int) : Int :=
  n.bmod wordCount

-- A word as a natural number, for the operations on its bits.
def bits (n : Int) : Nat :=
  (n.emod wordCount).toNat

def natural (s : List Char) : Nat :=
  s.foldl (fun n c => n * 10 + (c.toNat - '0'.toNat)) 0

def isHexDigit (c : Char) : Bool :=
  c.isDigit || ('a' ≤ c.toLower && c.toLower ≤ 'f')

def hexValue (c : Char) : Nat :=
  if c.isDigit then c.toNat - '0'.toNat else c.toLower.toNat - 'a'.toNat + 10

def isOctal (c : Char) : Bool :=
  '0' ≤ c && c ≤ '7'

-- White space around numbers.
def isGap (c : Char) : Bool :=
  c == ' ' || ('\t' ≤ c && c ≤ '\r')

-- The number at the front of a text, hexadecimal after `0x`, octal after `0`, and what follows it; `none`
-- if no digit stands there.
def numeral? (s : List Char) : Option (Nat × List Char) :=
  match s with
  | '0' :: x :: r =>
    if (x = 'x' ∨ x = 'X') ∧ r.head?.any isHexDigit then
      let digits := r.takeWhile isHexDigit
      some (digits.foldl (fun n c => n * 16 + hexValue c) 0, r.drop digits.length)
    else
      let digits := s.takeWhile isOctal
      some (digits.foldl (fun n c => n * 8 + hexValue c) 0, s.drop digits.length)
  | _ =>
    let digits := s.takeWhile Char.isDigit
    if digits = [] then none else some (natural digits, s.drop digits.length)

-- A decimal number at the front, with what follows it.
def decimal? (s : List Char) : Option (Nat × List Char) :=
  let digits := s.takeWhile Char.isDigit
  if digits = [] then none else some (natural digits, s.drop digits.length)

-- A number with a sign and white space around it.
def signed? (read : List Char → Option (Nat × List Char)) (s : List Char) : Option (Int × List Char) :=
  let s := s.dropWhile isGap
  let (negative, digits) := match s with
    | '-' :: r => (true, r)
    | '+' :: r => (false, r)
    | r => (false, r)
  (read digits).map fun (n, rest) => (if negative then -Int.ofNat n else Int.ofNat n, rest.dropWhile isGap)

-- The decimal number that a text is, if it fits into a word.
def integer? (s : List Char) : Option Int :=
  match signed? decimal? s with
  | some (n, []) => if smallest ≤ n ∧ n ≤ largest then some n else none
  | _ => none

-- What a command's argument says as a number that is not negative.
def count? (s : List Char) : Option Nat :=
  (integer? s).bind fun n => if 0 ≤ n ∧ n ≤ 2147483647 then some n.toNat else none

-- What a variable holds, as a number. White space alone counts as zero.
def ofVariable (v : List Char) : Except Fault Int :=
  match signed? numeral? v with
  | some (n, []) => if smallest ≤ n ∧ n ≤ largest then .ok n else .error (.number v)
  | some _ => .error (.number v)
  | none => if v.all isGap then .ok 0 else .error (.number v)

inductive Token
  | number (n : Int)
  | name (s : List Char)
  | sign (s : String)
  | other
deriving DecidableEq, Repr

-- The signs, those that others start with behind them.
def signs : List String :=
  ["<<=", ">>=", "<<", ">>", "<=", ">=", "==", "!=", "&&", "||", "+=", "-=", "*=", "/=", "%=", "&=", "^=", "|=",
    "<", ">", "=", "!", "&", "|", "^", "+", "-", "*", "/", "%", "~", "?", ":", "(", ")"]

def tokens : Nat → List Char → List Token
  | 0, _ => []
  | _, [] => []
  | n + 1, c :: s =>
    if c = ' ' ∨ c = '\t' ∨ c = '\n' then tokens n s
    else match numeral? (c :: s) with
      | some (k, rest) => .number (min (Int.ofNat k) largest) :: tokens n rest
      | none =>
        if isNameStart c then
          let name := (c :: s).takeWhile isNameChar
          .name name :: tokens n ((c :: s).drop name.length)
        else match signs.find? fun o => o.toList.isPrefixOf (c :: s) with
          | some o => .sign o :: tokens n ((c :: s).drop o.length)
          | none => .other :: tokens n s

-- Binary operators and how tightly they bind, the tightest first.
def precedence? (o : String) : Option Nat :=
  [("*", 0), ("/", 0), ("%", 0), ("+", 1), ("-", 1), ("<<", 2), (">>", 2), ("<", 3), ("<=", 3), (">", 3), (">=", 3),
    ("==", 4), ("!=", 4), ("&", 5), ("^", 6), ("|", 7)].lookup o

def loosest : Nat := 8

def apply (o : String) (a b : Int) : Except Fault Int :=
  match o with
  | "*" => .ok (wrap (a * b))
  | "/" => if b = 0 then .error (.expression "division by zero") else .ok (wrap (a.tdiv b))
  | "%" => if b = 0 then .error (.expression "division by zero") else .ok (wrap (a.tmod b))
  | "+" => .ok (wrap (a + b))
  | "-" => .ok (wrap (a - b))
  | "<<" => .ok (wrap (a * power (bits b % 64)))
  | ">>" => .ok (a.fdiv (power (bits b % 64)))
  | "<" => .ok (truth (a < b))
  | "<=" => .ok (truth (a ≤ b))
  | ">" => .ok (truth (b < a))
  | ">=" => .ok (truth (b ≤ a))
  | "==" => .ok (truth (a == b))
  | "!=" => .ok (truth (a != b))
  | "&" => .ok (wrap (Int.ofNat (bits a &&& bits b)))
  | "^" => .ok (wrap (Int.ofNat (bits a ^^^ bits b)))
  | _ => .ok (wrap (Int.ofNat (bits a ||| bits b)))

-- The operator that an assignment applies before it stores, `some none` for a plain one.
def assigning? (t : Option Token) : Option (Option String) :=
  match t with
  | some (.sign "=") => some none
  | some (.sign o) =>
    [("+=", "+"), ("-=", "-"), ("*=", "*"), ("/=", "/"), ("%=", "%"), ("<<=", "<<"), (">>=", ">>"), ("&=", "&"),
      ("^=", "^"), ("|=", "|")].lookup o |>.map some
  | _ => none

-- While an expression is evaluated: the tokens that are left, and the variables that were assigned to.
structure Progress where
  left : List Token
  assigned : List (List Char × Int) := []

abbrev Evaluation :=
  StateT Progress (Except Fault)

def fault {α : Type} (text : String) : Evaluation α :=
  throw (.expression text)

def front : Evaluation (Option Token) :=
  return (← get).left.head?

def skip : Evaluation Unit :=
  modify fun p => { p with left := p.left.tail }

def skipSign (o : String) : Evaluation Bool := do
  if (← front) = some (.sign o) then
    skip
    return true
  return false

def valueOf (value : List Char → List Char) (name : List Char) : Evaluation Int := do
  match (← get).assigned.lookup name with
  | some n => return n
  | none => ofVariable (value name)

mutual

-- An assignment or what stands without one. With `needed` false nothing is looked up or stored.
def assignment (value : List Char → List Char) : Nat → Bool → Evaluation Int
  | 0, _ => fault "expecting primary"
  | n + 1, needed => do
    match (← get).left with
    | .name x :: rest =>
      match assigning? rest.head? with
      | none => choice value n needed
      | some o? => do
        modify fun p => { p with left := rest.tail }
        let b ← assignment value n needed
        if !needed then return b
        let v ← match o? with
          | none => pure b
          | some o => do
            let a ← valueOf value x
            apply o a b
        modify fun p => { p with assigned := (x, v) :: p.assigned }
        return v
    | _ => choice value n needed

-- A condition with two values to choose from, or what stands alone.
def choice (value : List Char → List Char) : Nat → Bool → Evaluation Int
  | 0, _ => fault "expecting primary"
  | n + 1, needed => do
    let c ← either value n needed
    if !(← skipSign "?") then return c
    let a ← assignment value n (needed && c != 0)
    if !(← skipSign ":") then fault "expecting ':'"
    let b ← choice value n (needed && c == 0)
    return if c = 0 then b else a

def either (value : List Char → List Char) : Nat → Bool → Evaluation Int
  | 0, _ => fault "expecting primary"
  | n + 1, needed => do
    let a ← both value n needed
    if !(← skipSign "||") then return a
    let b ← either value n (needed && a == 0)
    return truth (a != 0 || b != 0)

def both (value : List Char → List Char) : Nat → Bool → Evaluation Int
  | 0, _ => fault "expecting primary"
  | n + 1, needed => do
    let a ← binary value n needed loosest
    if !(← skipSign "&&") then return a
    let b ← both value n (needed && a != 0)
    return truth (a != 0 && b != 0)

-- Operands with binary operators that bind more tightly than `limit`.
def binary (value : List Char → List Char) : Nat → Bool → Nat → Evaluation Int
  | 0, _, _ => fault "expecting primary"
  | n + 1, needed, limit => do binaryFrom value n needed limit (← operand value n needed)

def binaryFrom (value : List Char → List Char) : Nat → Bool → Nat → Int → Evaluation Int
  | 0, _, _, _ => fault "expecting primary"
  | n + 1, needed, limit, a => do
    match ← front with
    | some (.sign o) =>
      match precedence? o with
      | some p =>
        if limit ≤ p then return a
        skip
        let b ← binary value n needed p
        let v ← if needed then apply o a b else pure b
        binaryFrom value n needed limit v
      | none => return a
    | _ => return a

-- A number, a variable, a sign and an operand, or an expression in parentheses.
def operand (value : List Char → List Char) : Nat → Bool → Evaluation Int
  | 0, _ => fault "expecting primary"
  | n + 1, needed => do
    let t ← front
    skip
    match t with
    | some (.number k) => return k
    | some (.name x) => if needed then valueOf value x else return 0
    | some (.sign "(") => do
      let v ← assignment value n needed
      if !(← skipSign ")") then fault "expecting ')'"
      return v
    | some (.sign "+") => operand value n needed
    | some (.sign "-") => return wrap (-(← operand value n needed))
    | some (.sign "!") => return truth ((← operand value n needed) == 0)
    | some (.sign "~") => return -(← operand value n needed) - 1
    | _ => fault "expecting primary"

end

-- The value of an expression, where `value` gives those of variables, and the variables that it assigns to,
-- the last one first.
def eval (value : List Char → List Char) (s : List Char) : Except Fault (Int × List (List Char × Int)) := do
  let ts := tokens (s.length + 1) s
  let (v, p) ← assignment value (16 * ts.length + 32) true { left := ts }
  if p.left.isEmpty then return (v, p.assigned) else throw (.expression "expecting EOF")

end Scaffold.Shell.Arithmetic
