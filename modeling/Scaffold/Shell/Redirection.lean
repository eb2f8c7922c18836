import Scaffold.Shell.Control

namespace Scaffold.Shell

open Text

-- A redirection with its words expanded.
inductive Prepared
  | path (descriptor : Nat) (opening : Opening) (path : List Char)
  | duplicate (descriptor source : Nat)
  | close (descriptor : Nat)
  | here (descriptor : Nat) (text : Nat)

def Prepared.descriptor : Prepared → Nat
  | path d _ _ => d
  | duplicate d _ => d
  | close d => d
  | here d _ => d

-- What a text says about the descriptor to share.
def source? (d : Nat) (s : List Char) : Option Prepared :=
  match s with
  | ['-'] => some (.close d)
  | [c] => if c.isDigit then some (.duplicate d (c.toNat - '0'.toNat)) else none
  | _ => none

-- Expands the words of redirections, before any of them takes effect.
def prepare (capture : Capture) : List Redirect → Exec (List Prepared)
  | [] => return []
  | r :: rs => do
    let first ← match r with
      | .open d o w => do pure (Prepared.path d o (← wordText capture w))
      | .here d n => pure (.here d n)
      | .duplicate d w => do
        match source? d ((← wordFields capture w).headD []) with
        | some p => pure p
        | none => do
          modify fun s => { s with line := s.reached }
          abortText "Syntax error: Bad fd number"
    return first :: (← prepare capture rs)

def openFault (f : DiskFault) : List Char :=
  rawOf (if f = .missing ∨ f = .notDirectory then "No such file" else f.message)

def createFault (f : DiskFault) : List Char :=
  rawOf (if f = .missing ∨ f = .notDirectory then "Directory nonexistent" else f.message)

-- Whether a file stands in the way of an opening that must not replace one.
def isKept (s : State) (o : Opening) (path : List Char) : Bool :=
  o == .output && s.hasOption 'C' && match s.find path with
    | .ok (_, .file ..) => true
    | _ => false

-- Lets a redirection take effect.
def apply (capture : Capture) (r : Prepared) : Exec Unit := do
  let s ← get
  match r with
  | .path d o path => do
    let opened := if isKept s o path then .error .present else s.openPath path o
    match opened with
    | .ok (id, p) => set { s with toProcess := p.connect d id }
    | .error f =>
      if o = .input then abort (rawOf "cannot open " ++ path ++ [':', ' '] ++ openFault f)
      else abort (rawOf "cannot create " ++ path ++ [':', ' '] ++ createFault f)
  | .duplicate d n =>
    match s.descriptors.lookup n with
    | some id => set { s with toProcess := s.connect d id }
    | none => abort (numberText n ++ rawOf ": Bad file descriptor")
  | .close d => set { s with toProcess := s.close d }
  | .here d n => do
    let text ← hereText capture ((s.texts.lookup n).getD [])
    modify fun s =>
      let (id, p) := s.addChannel (.source text false)
      { s with toProcess := p.connect d id }

def applyAll (capture : Capture) (rs : List Prepared) : Exec Unit :=
  for r in rs do apply capture r

-- Lets the descriptors of redirections lead to where they led in `before`.
def restoreDescriptors (before : State) (rs : List Prepared) : Exec Unit :=
  modify fun s =>
    let p := (rs.map Prepared.descriptor).foldl (fun p d =>
      match before.descriptors.lookup d with
      | some id => p.connect d id
      | none => p.close d) s.toProcess
    -- Channels that came with the redirections are gone, unless something in the background holds them.
    let opened (id : Nat) : Bool :=
      (before.channels.lookup id).isSome || p.descriptors.any fun d => d.2 == id
    let p := if s.jobs.isEmpty then { p with channels := p.channels.filter fun c => opened c.1 } else p
    { s with toProcess := p }

-- Runs something under redirections; says whether all of them took effect. The status tells if not.
def underRedirects (capture : Capture) (rs : List Redirect) (inner : Exec Unit) : Exec Bool := do
  let prepared ← prepare capture rs
  let before ← get
  match ← caught (applyAll capture prepared) with
  | none => do
    afterwards inner (restoreDescriptors before prepared)
    return true
  | some .fault => do
    restoreDescriptors before prepared
    setStatus 2
    return false
  | some f => throw f

end Scaffold.Shell
