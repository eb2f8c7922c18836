import Scaffold.Text.Cut

namespace Scaffold.Text.Punycode

def reduce (delta k : Nat) : Nat :=
  if 455 < delta then reduce (delta / 35) (k + 36) else k + 36 * delta / (delta + 38)
termination_by delta
decreasing_by exact Nat.div_lt_self (by omega) (by omega)

-- The next bias, after `count` characters and a step of `delta`.
def adapt (delta count : Nat) (first : Bool) : Nat :=
  let delta := if first then delta / 700 else delta / 2
  reduce (delta + delta / count) 0

def digit? (c : Char) : Option Nat :=
  if c.isDigit then some (c.toNat - '0'.toNat + 26)
  else if 'a' ≤ c ∧ c ≤ 'z' then some (c.toNat - 'a'.toNat)
  else if 'A' ≤ c ∧ c ≤ 'Z' then some (c.toNat - 'A'.toNat)
  else none

def threshold (k bias : Nat) : Nat :=
  if k ≤ bias then 1 else if bias + 26 ≤ k then 26 else k - bias

-- The largest number that is read.
def limit : Nat := 0xFFFFFFFF

-- One number of variable length, added to `i`, and what follows it.
def number? (bias k weight i : Nat) : List Char → Option (Nat × List Char)
  | [] => none
  | c :: cs => do
    let d ← digit? c
    let i := i + d * weight
    if limit < i then none
    else if d < threshold k bias then some (i, cs)
    else
      let weight := weight * (36 - threshold k bias)
      if limit < weight then none else number? bias (k + 36) weight i cs

theorem length_lt_of_number? {bias k weight i j : Nat} {s rest : List Char}
    (h : number? bias k weight i s = some (j, rest)) : rest.length < s.length := by
  induction s generalizing k weight i with
  | nil => simp [number?] at h
  | cons c cs ih =>
    simp only [number?, bind, Option.bind_eq_some_iff] at h
    obtain ⟨d, _, h⟩ := h
    split at h
    · simp at h
    · split at h
      · simp only [Option.some.injEq, Prod.mk.injEq] at h
        simp [h.2]
      · split at h
        · simp at h
        · exact Nat.lt_succ_of_lt (ih h)

-- Puts the characters that the numbers stand for between those that are there.
def insertAll (n i bias : Nat) (out s : List Char) : Option (List Char) :=
  if s = [] then some out
  else match _h : number? bias 36 1 i s with
    | none => none
    | some (j, rest) =>
      let count := out.length + 1
      let m := n + j / count
      if m.isValidChar then
        let place := j % count
        let bias := adapt (j - i) count (i == 0)
        insertAll m (place + 1) bias (out.take place ++ Char.ofNat m :: out.drop place) rest
      else none
termination_by s.length
decreasing_by exact length_lt_of_number? _h

-- The text that a code stands for. A hyphen with nothing before it is part of the numbers.
def decode? (s : List Char) : Option (List Char) :=
  match cut '-' s.reverse with
  | some (_, []) => insertAll 128 0 72 [] s
  | some (tail, basic) => insertAll 128 0 72 basic.reverse tail.reverse
  | none => insertAll 128 0 72 [] s

end Scaffold.Text.Punycode
