import Scaffold.Log.Config
import Scaffold.Log.Directive

namespace Scaffold.Log

open Text

namespace Selector

def matchesTarget (s : Selector) (e : Event) : Bool :=
  s.target.all fun t => t.toList.isPrefixOf e.target.toList

def selects (s : Selector) (e : Event) : Bool :=
  s.matchesTarget e && s.fields.all fun f => f == "message" || e.fields.contains f

-- A longer target comes first, then more fields.
def precedes (a b : Selector) : Bool :=
  let size (s : Selector) : Nat := (s.target.map fun t => t.utf8ByteSize + 1).getD 0
  size b < size a || (size a == size b &&
    (b.fields.length < a.fields.length ||
      (a.fields.length == b.fields.length && !decide (a.fields < b.fields))))

end Selector

-- Selectors with their thresholds.
abbrev Filter :=
  List (Selector × Threshold)

namespace Filter

-- Adds a directive in the place of the one with its selector. One that asks for spans or values is about
-- no event by itself and adds nothing.
def add (f : Filter) (d : Directive) : Filter :=
  if d.dynamic then f else (d.selector, d.threshold) :: f.filter fun e => e.1 ≠ d.selector

-- The directive that decides on an event.
def decisive? (f : Filter) (e : Event) : Option (Selector × Threshold) :=
  (f.filter fun d => d.1.selects e).foldl (fun best d =>
    -- A selector is in a filter once, so that no two of them tie.
    match best with
    | none => some d
    | some b => if b.1.precedes d.1 then some b else some d) none

def passes (f : Filter) (e : Event) : Bool :=
  (f.decisive? e).any fun d => d.2.passes e.level

def ofLevel (t : Threshold) : Filter :=
  [(⟨none, []⟩, t)]

-- A filter by a list of directives; one with no directive in it lets errors pass.
def parse? (text : String) : Option Filter := do
  let ds ← ((text.toList.splitOn ',').filter (· ≠ [])).mapM Directive.parse?
  if ds = [] then return ofLevel (.upTo .error)
  return ds.foldl add []

-- The directives that a configuration adds for single targets, and texts that are none.
def directives (targets : Option String) : List (String × Option Directive) :=
  match targets with
  | none => []
  | some t =>
    (((t.toList.splitOn ',').map trim).filter (· ≠ [])).map fun s =>
      (String.ofList s, Directive.parse? s)

-- The filter of a configuration: what `RUST_LOG` says if that can be read, else the level, and then the
-- directives for single targets.
def ofConfig (env : Environment) (c : Config) : Filter :=
  let base := ((env.lookup "RUST_LOG").bind parse?).getD (ofLevel (.upTo (.ofText c.level)))
  ((directives c.targets).filterMap Prod.snd).foldl add base

-- What is said about directives that cannot be read.
def warnings (c : Config) : String :=
  String.join ((directives c.targets).filterMap fun (s, d) =>
    if d.isNone then some ("Warning: Invalid log filter directive: " ++ s ++ "\n") else none)

end Filter
end Scaffold.Log
