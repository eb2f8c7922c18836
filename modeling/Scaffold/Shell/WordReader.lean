import Scaffold.Shell.Source

namespace Scaffold.Shell.WordReader

open Reading

-- A word while it is read: the pieces and the texts in them stand backwards.
abbrev Draft :=
  List Piece

def addChar (quoted : Bool) (c : Char) (w : Draft) : Draft :=
  match w with
  | .text q s :: ps => if q = quoted then .text q (c :: s) :: ps else .text quoted [c] :: w
  | _ => .text quoted [c] :: w

def addText (quoted : Bool) (s : List Char) (w : Draft) : Draft :=
  match w, s with
  | .text true t :: ps, s => if quoted then .text true (s.reverse ++ t) :: ps else .text quoted s.reverse :: w
  | _, s => .text quoted s.reverse :: w

-- The finished word.
def finished (w : Draft) : Word :=
  (w.map fun
    | .text q s => .text q s.reverse
    | p => p).reverse

-- How what is read is quoted.
inductive Quoting
  | plain
  -- Between double quotes.
  | double
  -- A text from the script, where quotes are ordinary.
  | here
  -- An arithmetic expression.
  | sum
deriving DecidableEq

-- Whether a backslash protects a character between double quotes.
def isProtected (inBraces : Bool) (q : Quoting) (c : Char) : Bool :=
  c == '\\' || c == '\x60' || c == '$' || (c == '"' && (q != .here || inBraces)) || (c == '\x7d' && inBraces)

-- The rest of a text between single quotes.
def single : Reading (List Char) := do
  let s ← get
  let inner := s.rest.takeWhile (· ≠ '\'')
  let line := s.line + (inner.filter (· = '\n')).length
  match s.rest.drop inner.length with
  | _ :: rest =>
    set { s with rest := rest, line := line }
    return inner
  | [] =>
    set { s with rest := [], line := line }
    fault "Unterminated quoted string"

-- The commands between backquotes, where a backslash protects only a few characters.
def backquoted (q : Quoting) (acc : List Char) : Nat → Reading (List Char)
  | 0 => fault "EOF in backquote substitution"
  | n + 1 => do
    match ← peekJoined with
    | none => fault "EOF in backquote substitution"
    | some '\x60' => do
      skip
      return acc.reverse
    | some '\\' => do
      skip
      match ← peek with
      | none => fault "EOF in backquote substitution"
      | some c => do
        skip
        if c = '\\' ∨ c = '\x60' ∨ c = '$' ∨ (c = '"' ∧ q ≠ .plain) then backquoted q (c :: acc) n
        else backquoted q (c :: '\\' :: acc) n
    | some c => do
      skip
      backquoted q (c :: acc) n

-- Reads a text of its own with the same aliases.
def within (text : List Char) (inner : Reading Command) : Reading Command := do
  let s ← get
  match inner { rest := text, aliases := s.aliases, count := s.count, texts := s.texts } with
  | .ok (c, t) =>
    set { s with count := t.count, texts := t.texts }
    return c
  | .error f => throw f

def backquote (script : Bool → Reading Command) (q : Quoting) : Reading Piece := do
  let text ← backquoted q [] ((← get).rest.length + 1)
  return .command (q ≠ .plain) (← within text (script false))

-- Commands up to a closing parenthesis. Texts that are due outside wait; those still due inside are
-- empty.
def parenthesized (script : Bool → Reading Command) (q : Quoting) : Reading Piece := do
  let s ← get
  set { s with dues := [], again := false }
  let body ← script true
  modify fun t => { t with
    dues := s.dues
    texts := t.texts ++ t.dues.map fun (d : Due) => (d.number, []) }
  return .command (q ≠ .plain) body

-- The operator after a parameter's name in braces.
inductive Operator
  | done
  | instead (o : Char) (orEmpty : Bool)
  | strip (atStart longest : Bool)
  | length
  | unknown

def operator : Reading Operator := do
  match ← peekJoined with
  | some '\x7d' => do
    skip
    return .done
  | some ':' => do
    skip
    match ← peekJoined with
    | some c => do
      skip
      return if "-=?+".toList.contains c then .instead c true else .unknown
    | none => return .unknown
  | some '%' => do
    skip
    return .strip false (← skipIf '%')
  | some '#' => do
    skip
    return .strip true (← skipIf '#')
  | some c => do
    -- A line break here is not counted.
    modify fun s => { s with rest := s.rest.drop 1 }
    return if "-=?+".toList.contains c then .instead c false else .unknown
  | none => return .unknown

-- The name of a parameter in braces, and what is asked of it.
def bracedName : Reading (List Char × Operator) := do
  match ← peekJoined with
  | none => return ([], .unknown)
  | some '\x7d' => return ([], .unknown)
  | some c =>
    if isNameStart c then do
      let name ← takeWhile isNameChar
      return (name, ← operator)
    else if c.isDigit then do
      let name ← takeWhile Char.isDigit
      return (name, ← operator)
    else do
      skip
      if c = '#' then
        match ← peekJoined with
        | none => return (['#'], ← operator)
        | some d =>
          if isNameChar d then do
            let name ← takeWhile (if d.isDigit then Char.isDigit else isNameChar)
            if (← peekJoined) = some '\x7d' then return (name, .length) else return (name, .unknown)
          else
            let s ← get
            let behind := s.rest.drop 1
            if d = '\x7d' ∨ behind.head? ≠ some '\x7d' then return (['#'], ← operator)
            else do
              skip
              if isSpecial d then return ([d], .length) else return ([], .unknown)
      else if isSpecial c then return ([c], ← operator)
      else return ([], .unknown)

mutual

-- What stands after a dollar sign.
def dollar (script : Bool → Reading Command) (literal : Bool) (q : Quoting) : Nat → Draft → Reading Draft
  | 0, w => return w
  | n + 1, w => do
    let quoted := q ≠ .plain
    match ← peekJoined with
    | none => return addChar quoted '$' w
    | some c =>
      if literal then return addChar quoted '$' w
      else if c = '(' then do
        skip
        if ← skipIf '(' then
          let inner ← sum script n 0 []
          return .arithmetic quoted (finished inner) :: w
        else return (← parenthesized script q) :: w
      else if c = '\x7b' then do
        skip
        return (← braced script q n) :: w
      else if isNameStart c then return .parameter quoted (← takeWhile isNameChar) .value :: w
      else if isSpecial c then do
        skip
        return .parameter quoted [c] .value :: w
      else return addChar quoted '$' w

-- A parameter in braces, after the opening one.
def braced (script : Bool → Reading Command) (q : Quoting) : Nat → Reading Piece
  | 0 => fault "Missing '\x7d'"
  | n + 1 => do
    let quoted := q ≠ .plain
    let (name, o) ← bracedName
    let word (q : Quoting) : Reading Word := do
      return finished (← if q = .plain then plainInBraces script n [] else doubleInBraces script q n false [])
    match o with
    | .done => return .parameter quoted name .value
    | .length => do
      skip
      return .parameter quoted name .length
    | .instead o orEmpty => return .parameter quoted name (.instead o orEmpty (← word q))
    | .strip atStart longest => return .parameter quoted name (.strip atStart longest (← word .plain))
    | .unknown => do
      let _ ← word q
      return .parameter quoted name .unknown

-- The rest of a text between double quotes.
def double (script : Bool → Reading Command) (inBraces : Bool) : Nat → Draft → Reading Draft
  | 0, _ => fault "Unterminated quoted string"
  | n + 1, w => do
    match ← peekJoined with
    | none => fault "Unterminated quoted string"
    | some c => do
      skip
      if c = '"' then return w
      else if c = '\\' then do double script inBraces n (← escaped inBraces .double w)
      else if c = '$' then do double script inBraces n (← dollar script false .double n w)
      else if c = '\x60' then do double script inBraces n ((← backquote script .double) :: w)
      else double script inBraces n (addChar true c w)

-- The character after a backslash between double quotes, with the backslash unless it is protected.
def escaped (inBraces : Bool) (q : Quoting) (w : Draft) : Reading Draft := do
  match ← peek with
  | none => return addChar true '\\' w
  | some c => do
    skip
    return addChar true c (if isProtected inBraces q c then w else addChar true '\\' w)

-- The word after an operator in braces, outside of quotes.
def plainInBraces (script : Bool → Reading Command) : Nat → Draft → Reading Draft
  | 0, _ => fault "Missing '\x7d'"
  | n + 1, w => do
    match ← peekJoined with
    | none => fault "Missing '\x7d'"
    | some c => do
      skip
      if c = '\x7d' then return w
      else do plainInBraces script n (← plainPart script true false n c w)

-- The word after an operator in braces, between quotes. Further quotes take the meaning from closing
-- braces.
def doubleInBraces (script : Bool → Reading Command) (q : Quoting) : Nat → Bool → Draft → Reading Draft
  | 0, _, _ => fault "Missing '\x7d'"
  | n + 1, inner, w => do
    match ← peekJoined with
    | none => fault (if q = .here then "Missing '\x7d'" else "Unterminated quoted string")
    | some c => do
      skip
      if c = '\x7d' ∧ !inner then return w
      else if c = '"' then doubleInBraces script q n (!inner) (addText true [] w)
      else if c = '\\' then do doubleInBraces script q n inner (← escaped true q w)
      else if c = '$' then do doubleInBraces script q n inner (← dollar script false q n w)
      else if c = '\x60' then do doubleInBraces script q n inner ((← backquote script q) :: w)
      else doubleInBraces script q n inner (addChar true c w)

-- What a character outside of quotes starts.
def plainPart (script : Bool → Reading Command) (inBraces literal : Bool) : Nat → Char → Draft → Reading Draft
  | 0, _, w => return w
  | n + 1, c, w => do
    if c = '\\' then
      match ← peek with
      | none => return addChar true '\\' w
      | some d => do
        skip
        return addChar true d w
    else if c = '\'' then return addText true (← single) w
    else if c = '"' then do
      let inner ← double script inBraces n []
      match inner with
      | [.parameter true ['@'] .value] => return inner ++ w
      | _ => return inner ++ addText true [] w
    else if c = '$' then dollar script literal .plain n w
    else if c = '\x60' ∧ !literal then return (← backquote script .plain) :: w
    else return addChar false c w

-- An arithmetic expression up to two closing parentheses.
def sum (script : Bool → Reading Command) : Nat → Nat → Draft → Reading Draft
  | 0, _, _ => fault "Missing '))'"
  | n + 1, level, w => do
    match ← peekJoined with
    | none => fault "Missing '))'"
    | some c => do
      skip
      if c = '(' then sum script n (level + 1) (addChar true c w)
      else if c = ')' then
        if 0 < level then sum script n (level - 1) (addChar true c w)
        else if ← skipIf ')' then return w
        else sum script n 0 (addChar true c w)
      else if c = '\\' then do sum script n level (← escaped false .sum w)
      else if c = '$' then do sum script n level (← dollar script false .sum n w)
      else if c = '\x60' then do sum script n level ((← backquote script .sum) :: w)
      else sum script n level (addChar true c w)

end

-- The rest of a word outside of braces. In the mark of a text, dollar signs and backquotes are ordinary.
def word (script : Bool → Reading Command) (literal : Bool) : Nat → Draft → Reading Draft
  | 0, w => return w
  | n + 1, w => do
    match ← peekJoined with
    | none => return w
    | some c =>
      if isMeta c then return w
      else do
        skip
        word script literal n (← plainPart script false literal n c w)

-- Whether the line at the front is the mark of a text.
def isMark (mark s : List Char) : Bool :=
  mark.isPrefixOf s && ((s.drop mark.length).head?.all (· = '\n'))

-- The text that a redirection waits for, up to its mark or the end.
def hereText (script : Bool → Reading Command) (d : Due) : Nat → Bool → Draft → Reading Draft
  | 0, _, w => return w
  | n + 1, atStart, w => do
    if atStart ∧ d.stripTabs then
      modify fun s => { s with rest := s.rest.dropWhile (· = '\t') }
    let s ← get
    if atStart ∧ isMark d.mark s.rest then do
      set { s with rest := s.rest.drop d.mark.length }
      skip
      return w
    if !d.quoted then joinLines
    match ← peek with
    | none => return w
    | some c => do
      skip
      if c = '\n' ∨ d.quoted then hereText script d n (c = '\n') (addChar true c w)
      else if c = '\\' then do hereText script d n false (← escaped false .here w)
      else if c = '$' then do hereText script d n false (← dollar script false .here n w)
      else if c = '\x60' then do hereText script d n false ((← backquote script .here) :: w)
      else hereText script d n false (addChar true c w)

end Scaffold.Shell.WordReader
