import Scaffold.Text.Blank

namespace Scaffold.Text

-- Code points at equal steps, and what is stored with them.
structure Stretch where
  first : Nat
  last : Nat
  step : Nat
  stored : List Nat
deriving DecidableEq, Repr, Inhabited

namespace Stretch

def holds (r : Stretch) (n : Nat) : Bool :=
  r.first ≤ n && n ≤ r.last && (n - r.first) % r.step == 0

def hexadecimal (s : List Char) : Nat :=
  s.foldl (fun n c => 16 * n + if c.isDigit then c.toNat - '0'.toNat else c.toNat - 'A'.toNat + 10) 0

def ofText (s : List Char) : Stretch :=
  let ends := s.takeWhile (· ≠ ':')
  let stored := s.drop (ends.length + 1)
  let first := ends.takeWhile fun c => c ≠ '-' ∧ c ≠ '/'
  let last := match ends.drop (first.length + 1) with
    | [] => first
    | last => last
  { first := hexadecimal first
    last := hexadecimal last
    step := if ends.contains '/' then 2 else 1
    stored := if stored = [] then [] else (stored.splitOn '.').map hexadecimal }

end Stretch

-- Stretches in ascending order, none of them within another.
structure CodePoints where
  stretches : Array Stretch

namespace CodePoints

def ofText (s : String) : CodePoints :=
  ⟨((words s.toList).map Stretch.ofText).toArray⟩

-- The stretch that holds a code point, among those from `lo` on and before `hi`.
def search (t : Array Stretch) (n lo hi : Nat) : Option Stretch :=
  if lo < hi then
    let mid := (lo + hi) / 2
    match t[mid]? with
    | none => none
    | some r =>
      if n < r.first then search t n lo mid
      else if r.last < n then search t n (mid + 1) hi
      else if r.holds n then some r
      else none
  else none
termination_by hi - lo

def get? (t : CodePoints) (c : Char) : Option Stretch :=
  search t.stretches c.toNat 0 t.stretches.size

def contains (t : CodePoints) (c : Char) : Bool :=
  (t.get? c).isSome

-- The number stored with a character.
def value? (t : CodePoints) (c : Char) : Option Nat :=
  (t.get? c).bind fun r => r.stored.head?

-- The characters stored with a character. A stretch with one of them is mapped to as long a stretch.
def image? (t : CodePoints) (c : Char) : Option (List Char) :=
  (t.get? c).map fun r =>
    match r.stored with
    | [n] => [Char.ofNat (n + (c.toNat - r.first))]
    | ns => ns.map Char.ofNat

theorem holds_of_search {t : Array Stretch} {n lo hi : Nat} {r : Stretch}
    (h : search t n lo hi = some r) : r.holds n = true := by
  fun_induction search t n lo hi <;> simp_all

end CodePoints
end Scaffold.Text
