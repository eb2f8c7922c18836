import Scaffold.Shell.Process
import Scaffold.Shell.Arithmetic

namespace Scaffold.Shell

open Text

-- What a word is in a question.
inductive Part
  | finish
  | operand
  -- Asks about one text, as in `-f path`.
  | unary (o : String)
  | binary (o : String)
  | negation
  | conjunction
  | disjunction
  | opening
  | closing
deriving DecidableEq, Repr

-- The operator that a word is, if it is one.
def Part.ofWord? (w : List Char) : Option Part :=
  let s := String.ofList w
  if ["-r", "-w", "-x", "-e", "-f", "-d", "-c", "-b", "-p", "-u", "-g", "-k", "-s", "-t", "-z", "-n", "-h", "-L",
    "-S", "-O", "-G"].contains s then some (.unary s)
  else if ["=", "!=", "<", ">", "-eq", "-ne", "-ge", "-gt", "-le", "-lt", "-nt", "-ot", "-ef"].contains s then
    some (.binary s)
  else [("!", negation), ("-a", conjunction), ("-o", disjunction), ("(", opening), (")", closing)].lookup s

def Part.isBinary : Option Part → Bool
  | some (binary _) => true
  | _ => false

-- What the first of some words is. One that could ask about a text is a text itself at the end, and before
-- a comparison.
def Part.atFront (ts : List (List Char)) : Part :=
  match ts with
  | [] => .finish
  | w :: rest =>
    match ofWord? w, rest with
    | none, _ => .operand
    | some (.unary _), [] => .operand
    | some (.unary o), v :: _ :: _ => if isBinary (ofWord? v) then .operand else .unary o
    | some .opening, [] => .operand
    | some p, _ => p

def isLinkAt (p : Process) (path : List Char) : Bool :=
  match p.disk.locate p.cwd (textOf path) false with
  | .ok l =>
    match p.disk.get? l with
    | some (.link _) => true
    | _ => false
  | .error _ => false

def isExecutable : Entry → Bool
  | .file _ executable => executable
  | .directory => true
  | .program _ => true
  | _ => false

def hasContent : Entry → Bool
  | .file content _ => content ≠ []
  | .directory => true
  | .program _ => true
  | _ => false

def isDevice : Entry → Bool
  | .device _ => true
  | _ => false

def answerUnary (p : Process) (o : String) (a : List Char) : Bool :=
  let entry := (p.find a).toOption.map Prod.snd
  match o with
  | "-n" => a ≠ []
  | "-z" => a = []
  | "-e" => entry.isSome
  | "-f" => entry.any Entry.isFile
  | "-d" => entry == some .directory
  | "-r" => entry.isSome
  | "-w" => entry.isSome
  | "-O" => entry.isSome
  | "-G" => entry.isSome
  | "-x" => entry.any isExecutable
  | "-s" => entry.any hasContent
  | "-c" => entry.any isDevice
  | "-L" => isLinkAt p a
  | "-h" => isLinkAt p a
  | _ => false

-- Whether both paths lead to something, and the first was written after the second.
def isNewer (p : Process) (a b : List Char) : Bool :=
  match p.find a, p.find b with
  | .ok (l, _), .ok (m, _) =>
    -- What was written last comes first on a disk.
    let order := p.disk.entries.map Prod.fst
    l != m && decide (order.idxOf l < order.idxOf m)
  | _, _ => false

-- A comparison; the text that should have been a number, if it is none.
def answerBinary (p : Process) (a : List Char) (o : String) (b : List Char) : Except (List Char) Bool :=
  let numbers (f : Int → Int → Bool) : Except (List Char) Bool :=
    match Arithmetic.integer? a, Arithmetic.integer? b with
    | some x, some y => .ok (f x y)
    | none, _ => .error (rawOf "Illegal number: " ++ a)
    | _, none => .error (rawOf "Illegal number: " ++ b)
  match o with
  | "=" => .ok (a == b)
  | "!=" => .ok (a != b)
  | "<" => .ok (decide (a < b))
  | ">" => .ok (decide (b < a))
  | "-eq" => numbers (· == ·)
  | "-ne" => numbers (· != ·)
  | "-lt" => numbers fun x y => decide (x < y)
  | "-le" => numbers fun x y => decide (x ≤ y)
  | "-gt" => numbers fun x y => decide (y < x)
  | "-ge" => numbers fun x y => decide (y ≤ x)
  | "-ef" => .ok (p.sameEntry a b)
  | "-nt" => .ok (isNewer p a b)
  | "-ot" => .ok (isNewer p b a)
  | _ => .ok false

mutual

-- The answer to the question at the front. With it come the words from the last one that was used.
def disjunction (p : Process) : Nat → List (List Char) → Except (List Char) (Bool × List (List Char))
  | 0, ts => .ok (false, ts)
  | n + 1, ts => do
    let (a, ts) ← conjunction p n ts
    if Part.atFront (ts.drop 1) = .disjunction then
      let (b, ts) ← disjunction p n (ts.drop 2)
      return (a || b, ts)
    return (a, ts)

def conjunction (p : Process) : Nat → List (List Char) → Except (List Char) (Bool × List (List Char))
  | 0, ts => .ok (false, ts)
  | n + 1, ts => do
    let (a, ts) ← negation p n ts
    if Part.atFront (ts.drop 1) = .conjunction then
      let (b, ts) ← conjunction p n (ts.drop 2)
      return (a && b, ts)
    return (a, ts)

def negation (p : Process) : Nat → List (List Char) → Except (List Char) (Bool × List (List Char))
  | 0, ts => .ok (false, ts)
  | n + 1, ts =>
    if Part.atFront ts = .negation then (negation p n (ts.drop 1)).map fun (a, ts) => (!a, ts)
    else primary p n ts

def primary (p : Process) : Nat → List (List Char) → Except (List Char) (Bool × List (List Char))
  | 0, ts => .ok (false, ts)
  | n + 1, ts =>
    match Part.atFront ts, ts with
    | .finish, _ => .ok (false, [])
    | .opening, _ => do
      if Part.atFront (ts.drop 1) = .closing then return (false, ts.drop 1)
      let (a, ts) ← disjunction p n (ts.drop 1)
      if Part.atFront (ts.drop 1) = .closing then return (a, ts.drop 1)
      throw (rawOf "closing paren expected")
    | .unary o, _ =>
      match ts.drop 1 with
      | [] => .error (rawOf (o ++ ": argument expected"))
      | a :: rest =>
        if o = "-t" ∧ (Arithmetic.integer? a).isNone then .error (rawOf "Illegal number: " ++ a)
        else .ok (answerUnary p o a, a :: rest)
    | _, a :: rest =>
      match Part.atFront rest, rest.drop 1 with
      | .binary o, [] => .error (rawOf (o ++ ": argument expected"))
      | .binary o, b :: rest => (answerBinary p a o b).map fun v => (v, b :: rest)
      | _, _ => .ok (a ≠ [], a :: rest)
    | _, [] => .ok (false, [])

end

-- The answer to a whole question. What stands between two words that are a comparison's operands is its
-- operator, whatever the words are; up to four words may stand in brackets or behind a negation.
def answer (p : Process) (args : List (List Char)) : Except (List Char) Bool := do
  let whole (ts : List (List Char)) : Except (List Char) Bool := do
    let (a, rest) ← disjunction p (4 * ts.length + 4) ts
    match rest with
    | w :: _ :: _ => throw (w ++ rawOf ": unexpected operator")
    | _ => return a
  let short (ts : List (List Char)) : Except (List Char) Bool :=
    match ts with
    | [] => .ok false
    | [a, o, b] =>
      match Part.ofWord? o with
      | some (.binary o) => answerBinary p a o b
      | _ => if a = ['('] ∧ b = [')'] then whole [o] else whole ts
    | [a, b, c, d] => if a = ['('] ∧ d = [')'] then whole [b, c] else whole ts
    | ts => whole ts
  match args with
  | [['!'], a, b] =>
    if Part.isBinary (Part.ofWord? a) then short args else (short [a, b]).map (!·)
  | [['!'], a, b, c] => (short [a, b, c]).map (!·)
  | args => short args

end Scaffold.Shell
