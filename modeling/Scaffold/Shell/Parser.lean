import Scaffold.Shell.WordReader
import Scaffold.Text.Cut

namespace Scaffold.Shell

open Reading

def keywords : List String :=
  ["!", "case", "do", "done", "elif", "else", "esac", "fi", "for", "if", "in", "then", "until", "while", "\x7b",
    "\x7d"]

-- Keywords before which a list of commands ends.
def closingKeywords : List String :=
  ["do", "done", "elif", "else", "esac", "fi", "then", "\x7d"]

-- Commands that are part of the language: faults in them end the script, and no function can have their
-- names.
def specialBuiltins : List String :=
  [".", ":", "break", "continue", "eval", "exec", "exit", "export", "local", "readonly", "return", "set", "shift",
    "times", "trap", "unset"]

def inQuotes (s : String) : String :=
  "\"" ++ s ++ "\""

def Token.describe : Token → String
  | .word _ => "word"
  | .keyword k => inQuotes k
  | .operator o => inQuotes o
  | .redirect .. => "redirection"
  | .newline => "newline"
  | .finish => "end of file"

def Token.isKeyword (t : Token) (k : String) : Bool :=
  match t with
  | .keyword l => k == l
  | _ => false

def Token.isOperator (t : Token) (o : String) : Bool :=
  match t with
  | .operator p => o == p
  | _ => false

def Token.endsList : Token → Bool
  | .finish => true
  | .operator o => o == ")" || o == ";;"
  | .keyword k => closingKeywords.contains k
  | _ => false

namespace Parser

abbrev Scripts :=
  Bool → Reading Command

def skipBlanks : Reading Unit := do
  let rec go : Nat → Reading Unit
    | 0 => return
    | n + 1 => do
      match ← peekJoined with
      | some c =>
        if c = ' ' ∨ c = '\t' then do
          skip
          go n
        else if c = '#' then do
          modify fun s => { s with rest := s.rest.dropWhile (· ≠ '\n') }
          go n
      | none => return
  go ((← get).rest.length + 1)

-- The rest of a redirection's operator.
def redirectOperator : Reading String := do
  if ← skipIf '<' then
    if ← skipIf '<' then return if ← skipIf '-' then "<<-" else "<<"
    else if ← skipIf '&' then return "<&"
    else if ← skipIf '>' then return "<>"
    else return "<"
  else
    skip
    if ← skipIf '>' then return ">>"
    else if ← skipIf '|' then return ">|"
    else if ← skipIf '&' then return ">&"
    else return ">"

-- The descriptor that what stands before a redirection is, if it is one.
def descriptor? (w : WordReader.Draft) : Option (Option Nat) :=
  match w with
  | [] => some none
  | [.text false [c]] => if c.isDigit then some (some (c.toNat - '0'.toNat)) else none
  | _ => none

-- The next token as it looks.
def fetch (script : Scripts) (literal : Bool) : Reading Token := do
  skipBlanks
  match ← peek with
  | none => return .finish
  | some c =>
    let operator (once twice : String) : Reading Token := do
      skip
      return .operator (if ← skipIf c then twice else once)
    if c = '\n' then do
      skip
      return .newline
    else if c = '&' then operator "&" "&&"
    else if c = '|' then operator "|" "||"
    else if c = ';' then operator ";" ";;"
    else if c = '(' then do
      skip
      return .operator "("
    else if c = ')' then do
      skip
      return .operator ")"
    else do
      let w ← WordReader.word script literal (4 * (← get).rest.length + 16) []
      let next ← peek
      match descriptor? w, next with
      | some d, some '<' => return .redirect d (← redirectOperator)
      | some d, some '>' => return .redirect d (← redirectOperator)
      | _, _ => return .word (WordReader.finished w)

-- Takes the texts that redirections wait for, in order.
def takeTexts (script : Scripts) : Reading Unit := do
  let dues := (← get).dues
  modify fun s => { s with dues := [] }
  for d in dues do
    let w ← WordReader.hereText script d (4 * (← get).rest.length + 16) true []
    modify fun s => { s with texts := s.texts ++ [(d.number, WordReader.finished w)] }

-- Forgets the aliases whose texts are used up; says whether one of them ended with a blank.
def dropReplacements : Reading Bool := do
  let s ← get
  if s.replacements.isEmpty then return false
  skipBlanks
  let s ← get
  let length := s.rest.length
  set { s with replacements := s.replacements.filter fun r => r.left < length }
  return s.replacements.any fun r => r.left ≥ length && r.blank

-- The next token, other than it looks if `wants` says so.
def tokenFrom (script : Scripts) (literal : Bool) (wants : Wants) : Nat → Option Token → Reading Token
  | 0, _ => return .finish
  | n + 1, known => do
    match known with
    | some .newline =>
      if wants.breaks then do
        takeTexts script
        tokenFrom script literal wants n none
      else return .newline
    | some t => return t
    | none => do
      let afterBlank ← dropReplacements
      let inUse := (← get).replacements.map Replacement.name
      let t ← fetch script literal
      match t with
      | .word w =>
        match plainText? w with
        | some s =>
          let k := String.ofList s
          if wants.keyword ∧ keywords.contains k then return .keyword k
          else if (wants.aliases ∨ afterBlank) ∧ !inUse.contains s then
            match (← get).aliases.lookup s with
            | some text => do
              modify fun u => { u with
                rest := text ++ u.rest
                replacements :=
                  ⟨s, u.rest.length, text.getLast?.any fun c => c = ' ' || c = '\t'⟩ :: u.replacements }
              tokenFrom script literal wants n none
            | none => return t
          else return t
        | none => return t
      | .newline => tokenFrom script literal wants n (some .newline)
      | t => return t

-- The next token.
def next (script : Scripts) (literal : Bool) : Reading Token := do
  let s ← get
  set { s with wants := {}, again := false }
  let fuel := s.rest.length + s.aliases.length * s.aliases.length + 2
  let t ← tokenFrom script literal s.wants fuel (if s.again then some s.token else none)
  modify fun s => { s with token := t }
  return t

-- Makes the last token the next one.
def back : Reading Unit :=
  modify fun s => { s with again := true }

def want (w : Wants) : Reading Unit :=
  modify fun s => { s with wants := w }

-- The last token is out of place.
def unexpected {α : Type} (expecting : Option String) : Reading α := do
  fault ((← get).token.describe ++ " unexpected" ++
    ((expecting.map fun e => " (expecting " ++ e ++ ")").getD ""))

def expectKeyword (script : Scripts) (k : String) : Reading Unit := do
  if !(← next script false).isKeyword k then unexpected (some (inQuotes k))

def expectOperator (script : Scripts) (o : String) : Reading Unit := do
  if !(← next script false).isOperator o then unexpected (some (inQuotes o))

def beforeCommand : Wants :=
  { keyword := true, aliases := true, breaks := true }

-- The text of a word without its quotes, and whether it has some.
def unquoted (w : Word) : List Char × Bool :=
  w.foldl (fun (acc : List Char × Bool) p =>
    match p with
    | .text q s => (acc.1 ++ s, acc.2 || q)
    | _ => acc) ([], false)

def opening? (o : String) : Option (Nat × Opening) :=
  [("<", 0, Opening.input), ("<>", 0, .both), (">", 1, .output), (">|", 1, .overwrite),
    (">>", 1, .append)].lookup o

-- What a redirection's operator is followed by.
def redirectTo (script : Scripts) (descriptor : Option Nat) (o : String) : Reading Redirect := do
  let isHere := o = "<<" ∨ o = "<<-"
  match ← next script isHere with
  | .word w =>
    if isHere then
      let (mark, quoted) := unquoted w
      let s ← get
      set { s with dues := s.dues ++ [(⟨s.count, mark, quoted, o == "<<-"⟩ : Due)], count := s.count + 1 }
      return .here (descriptor.getD 0) s.count
    else
      match opening? o with
      | some (standard, opening) => return .open (descriptor.getD standard) opening w
      | none => return .duplicate (descriptor.getD (if o = ">&" then 1 else 0)) w
  | _ => unexpected none

-- A name and a value, if a word assigns.
def assignment? (w : Word) : Option (List Char × Word) :=
  match w with
  | .text false s :: ps =>
    match Text.cut '=' s with
    | some (name, value) =>
      if isName name then some (name, if value = [] then ps else .text false value :: ps) else none
    | none => none
  | _ => none

-- Redirections behind a command in brackets.
def redirectsFrom (script : Scripts) : Nat → Reading (List Redirect)
  | 0 => return []
  | n + 1 => do
    want { keyword := true, aliases := true }
    match ← next script false with
    | .redirect d o => do
      let r ← redirectTo script d o
      return r :: (← redirectsFrom script n)
    | _ => do
      back
      return []

-- The words up to something else.
def wordsFrom (script : Scripts) : Nat → Reading (List Word)
  | 0 => return []
  | n + 1 => do
    match ← next script false with
    | .word w => return w :: (← wordsFrom script n)
    | _ => return []

-- The last token as a pattern.
def patternHere : Reading Word := do
  match (← get).token with
  | .word w => return w
  | .keyword k => return [.text false k.toList]
  | _ => return []

-- Patterns with bars between them, from the last token on up to a closing parenthesis.
def patterns (script : Scripts) : Nat → Reading (List Word)
  | 0 => return []
  | n + 1 => do
    let p ← patternHere
    let t ← next script false
    if t.isOperator "|" then
      let _ ← next script false
      return p :: (← patterns script n)
    else if t.isOperator ")" then return [p]
    else unexpected (some (inQuotes ")"))

-- What a simple command has so far.
structure SimpleSoFar where
  assignments : List (List Char × Word) := []
  words : List Word := []
  redirects : List Redirect := []

-- The rest of a simple command. A lone word with an opening parenthesis behind it is a function's name and
-- is given as it is.
def simpleFrom (script : Scripts) (line : Nat) : Nat → SimpleSoFar → Reading (Word ⊕ Command)
  | 0, _ => unexpected none
  | n + 1, c => do
    want { aliases := c.words.isEmpty }
    match ← next script false with
    | .word w =>
      match c.words, assignment? w with
      | [], some a => simpleFrom script line n { c with assignments := c.assignments ++ [a] }
      | _, _ => simpleFrom script line n { c with words := c.words ++ [w] }
    | .redirect d o => do
      let r ← redirectTo script d o
      simpleFrom script line n { c with redirects := c.redirects ++ [r] }
    | t =>
      match c.assignments, c.words, c.redirects, t.isOperator "(" with
      | [], [w], [], true => do
        expectOperator script ")"
        return .inl w
      | _, _, _, _ => do
        back
        return .inr (.simple line c.assignments c.words c.redirects)

-- A list that has begun ends before a closing word or sign; a line ends with its line break.
inductive ListKind
  | line
  | fresh
  | begun
deriving DecidableEq

def joined (a : Option Command) (b : Command) : Command :=
  match a with
  | some a => .sequence a b
  | none => b

mutual

-- A list of commands, behind those in `acc`.
def list : Nat → ListKind → Option Command → Reading (Option Command)
  | 0, _, _ => unexpected none
  | n + 1, kind, acc => do
    want { beforeCommand with breaks := kind ≠ .line }
    match ← next (script n) false with
    | .newline => do
      takeTexts (script n)
      return acc
    | .finish => do
      takeTexts (script n)
      back
      return acc
    | t => do
      back
      if kind = .begun ∧ t.endsList then return acc
      let c ← andOr n
      let t ← next (script n) false
      let acc := joined acc (if t.isOperator "&" then .background c else c)
      let kind := if kind = .line then kind else .begun
      match t with
      | .finish => do
        takeTexts (script n)
        back
        return some acc
      | .newline => do
        back
        list n kind (some acc)
      | t =>
        if t.isOperator "&" ∨ t.isOperator ";" then list n kind (some acc)
        else if kind = .line then unexpected none
        else do
          back
          return some acc

-- Commands that may be none; a closing parenthesis has to follow if `closed` says so.
def script : Nat → Bool → Reading Command
  | 0, _ => unexpected none
  | n + 1, closed => do
    let c ← list n .begun none
    if closed then expectOperator (script n) ")"
    return c.getD .skip

-- At least one command.
def commands : Nat → Reading Command
  | 0 => unexpected none
  | n + 1 => return (← list n .fresh none).getD .skip

def andOr : Nat → Reading Command
  | 0 => unexpected none
  | n + 1 => do andOrFrom n (← pipeline n)

def andOrFrom : Nat → Command → Reading Command
  | 0, _ => unexpected none
  | n + 1, a => do
    let t ← next (script n) false
    if t.isOperator "&&" then
      want beforeCommand
      andOrFrom n (.both a (← pipeline n))
    else if t.isOperator "||" then
      want beforeCommand
      andOrFrom n (.either a (← pipeline n))
    else
      back
      return a

def pipeline : Nat → Reading Command
  | 0 => unexpected none
  | n + 1 => do
    let negated := (← next (script n) false).isKeyword "!"
    if negated then want { keyword := true, aliases := true } else back
    let first ← command n
    let more ← stages n
    let c := if more.isEmpty then first else .pipe (first :: more)
    return if negated then .negate c else c

-- The commands behind bars.
def stages : Nat → Reading (List Command)
  | 0 => unexpected none
  | n + 1 => do
    if (← next (script n) false).isOperator "|" then
      want beforeCommand
      let c ← command n
      return c :: (← stages n)
    else
      back
      return []

def command : Nat → Reading Command
  | 0 => unexpected none
  | n + 1 => do
    let line := (← get).line
    match ← next (script n) false with
    | .word _ => do
      back
      simple n
    | .redirect _ _ => do
      back
      simple n
    | .operator "(" => do
      let body ← commands n
      expectOperator (script n) ")"
      return .subshell line body (← redirectsFrom (script n) n)
    | .keyword k => do
      let c ← compound n line k
      match ← redirectsFrom (script n) n with
      | [] => return c
      | rs => return .redirected line c rs
    | _ => unexpected none

-- A command that starts with a keyword.
def compound : Nat → Nat → String → Reading Command
  | 0, _, _ => unexpected none
  | n + 1, line, k => do
    match k with
    | "if" => branches n
    | "while" => loopFrom n false
    | "until" => loopFrom n true
    | "for" => forLoop n line
    | "case" => do
      match ← next (script n) false with
      | .word subject => do
        want beforeCommand
        expectKeyword (script n) "in"
        return .choose line subject (← arms n)
      | _ => unexpected (some "word")
    | "\x7b" => do
      let c ← commands n
      expectKeyword (script n) "\x7d"
      return c
    | _ => unexpected none

def loopFrom : Nat → Bool → Reading Command
  | 0, _ => unexpected none
  | n + 1, untilTrue => do
    let condition ← commands n
    expectKeyword (script n) "do"
    let body ← commands n
    expectKeyword (script n) "done"
    return .loop untilTrue condition body

def forLoop : Nat → Nat → Reading Command
  | 0, _ => unexpected none
  | n + 1, line => do
    let name ← match ← next (script n) false with
      | .word w =>
        match plainText? w with
        | some s => if isName s then pure s else fault "Bad for loop variable"
        | none => fault "Bad for loop variable"
      | _ => fault "Bad for loop variable"
    want beforeCommand
    let t ← next (script n) false
    let words? ← if t.isKeyword "in" then do
        let ws ← wordsFrom (script n) (4 * (← get).rest.length + 16)
        match (← get).token with
        | .newline => pure (some ws)
        | t => if t.isOperator ";" then pure (some ws) else unexpected none
      else do
        if !t.isOperator ";" then back
        pure none
    want beforeCommand
    expectKeyword (script n) "do"
    let body ← commands n
    expectKeyword (script n) "done"
    return .each line name words? body

-- The rest of a conditional, from its condition on.
def branches : Nat → Reading Command
  | 0 => unexpected none
  | n + 1 => do
    let condition ← commands n
    expectKeyword (script n) "then"
    let yes ← commands n
    let t ← next (script n) false
    if t.isKeyword "elif" then return .branch condition yes (← branches n)
    else if t.isKeyword "else" then
      let no ← commands n
      expectKeyword (script n) "fi"
      return .branch condition yes no
    else
      back
      expectKeyword (script n) "fi"
      return .branch condition yes .skip

-- The arms of a choice, up to its end.
def arms : Nat → Reading (List (List Word × Command))
  | 0 => unexpected none
  | n + 1 => do
    want { keyword := true, breaks := true }
    let t ← next (script n) false
    if t.isKeyword "esac" then return []
    if t.isOperator "(" then
      let _ ← next (script n) false
    let ps ← patterns (script n) (4 * (← get).rest.length + 16)
    let body := (← list n .begun none).getD .skip
    want { keyword := true, breaks := true }
    let t ← next (script n) false
    if t.isKeyword "esac" then return [(ps, body)]
    else if t.isOperator ";;" then return (ps, body) :: (← arms n)
    else unexpected (some (inQuotes ";;"))

-- A simple command or the definition of a function.
def simple : Nat → Reading Command
  | 0 => unexpected none
  | n + 1 => do
    let line := (← get).line
    match ← simpleFrom (script n) line (4 * (← get).rest.length + 16) {} with
    | .inr c => return c
    | .inl w =>
      match plainText? w with
      | some name =>
        if isName name ∧ !specialBuiltins.contains (String.ofList name) then
          want beforeCommand
          return .define name (← command n)
        else fault "Bad function name"
      | none => fault "Bad function name"

end

end Parser

-- The commands up to the next line break, `none` at the end of the script, and what is left of it.
def nextLine (s : Source) : Except SyntaxFault (Option Command × Source) := do
  let size := s.aliases.foldl (fun n a => n + a.2.length) s.rest.length
  let (c, t) ← Parser.list (8 * size + 64) .line none { s with again := false, wants := {}, dues := [] }
  match c, t.token, t.again with
  | none, .finish, true => return (none, t)
  | c, _, _ => return (some (c.getD .skip), t)

end Scaffold.Shell
