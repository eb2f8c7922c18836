import Scaffold.Text.Cut

namespace Scaffold.Path

def isAbsolute (p : String) : Bool :=
  p.toList.head? == some '/'

def endsOpen (p : String) : Bool :=
  p.toList.getLast? == some '/'

-- `q` as seen from the directory `p`; an absolute `q` stands for itself. A slash is put between the
-- two unless `p` is empty or brings one, also when `q` is empty.
def join (p q : String) : String :=
  if isAbsolute q then q
  else if p = "" ∨ endsOpen p then p ++ q
  else p ++ "/" ++ q

theorem join_of_isAbsolute {p q : String} (h : isAbsolute q = true) : join p q = q := by
  simp [join, h]

theorem isAbsolute_append {p : String} (h : isAbsolute p = true) (q : String) :
    isAbsolute (p ++ q) = true := by
  simp only [isAbsolute, String.toList_append] at h ⊢
  cases hp : p.toList <;> simp_all

theorem isAbsolute_join {p : String} (h : isAbsolute p = true) (q : String) :
    isAbsolute (join p q) = true := by
  unfold join
  split
  · assumption
  · split
    · exact isAbsolute_append h q
    · exact isAbsolute_append (isAbsolute_append h _) q

-- The names on the way, without empty ones and without `.`, which stand for no step.
def names (p : String) : List String :=
  ((p.toList.splitOn '/').filter fun n => n ≠ [] ∧ n ≠ ['.']).map String.ofList

-- Where an absolute form of `p` starts: exactly two slashes in front are a root of their own.
def start (cwd p : String) : String :=
  match p.toList with
  | '/' :: '/' :: '/' :: _ => "/"
  | '/' :: '/' :: _ => "//"
  | '/' :: _ => "/"
  | _ => cwd

-- The absolute form of `p`, seen from `cwd`. Dots and doubled slashes go; `..` stays, and so does a
-- slash at the end. The empty path has none.
def absolute? (cwd p : String) : Option String :=
  if p = "" then none
  else
    let q := (names p).foldl join (start cwd p)
    -- Joining nothing puts the slash at the end back.
    some (if endsOpen p then join q "" else q)

theorem isAbsolute_start {cwd : String} (h : isAbsolute cwd = true) (p : String) :
    isAbsolute (start cwd p) = true := by
  unfold start
  split <;> first | rfl | exact h

theorem isAbsolute_foldl_join (ns : List String) {p : String} (h : isAbsolute p = true) :
    isAbsolute (ns.foldl join p) = true := by
  induction ns generalizing p with
  | nil => exact h
  | cons n ns ih => exact ih (isAbsolute_join h n)

theorem isAbsolute_of_absolute? {cwd p q : String} (h : isAbsolute cwd = true)
    (hq : absolute? cwd p = some q) : isAbsolute q = true := by
  simp only [absolute?] at hq
  split at hq
  · exact absurd hq (by simp)
  · have hs := isAbsolute_foldl_join (names p) (isAbsolute_start h p)
    simp only [Option.some.injEq] at hq
    subst hq
    split
    · exact isAbsolute_join hs ""
    · exact hs

-- A file name's stem and extension: what stands before and after its last dot. A name with no dot, or
-- with its only dot in front, is all stem.
def stemAndExtension (name : List Char) : List Char × Option (List Char) :=
  match Text.cut '.' name.reverse with
  | some (ext, c :: stem) => if name = ['.', '.'] then (name, none) else ((c :: stem).reverse, some ext.reverse)
  | _ => (name, none)

def stem (name : String) : String :=
  String.ofList (stemAndExtension name.toList).1

def extension? (name : String) : Option String :=
  (stemAndExtension name.toList).2.map String.ofList

end Scaffold.Path
