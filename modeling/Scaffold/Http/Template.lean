import Scaffold.Spec.Error
import Scaffold.Text.Blank
import Scaffold.Text.Cut

namespace Scaffold.Template

open Text

inductive Part
  | literal (text : List Char)
  | placeholder (inner : List Char)
deriving DecidableEq, Repr

def isBrace (c : Char) : Bool :=
  c == '{' || c == '}'

def Part.text : Part → List Char
  | literal t => t
  | placeholder b => '{' :: b ++ ['}']

-- The characters up to the next brace, and what comes from there on.
def upToBrace (s : List Char) : List Char × List Char :=
  (s.takeWhile (fun c => !isBrace c), s.dropWhile (fun c => !isBrace c))

theorem length_dropWhile_le {p : Char → Bool} (s : List Char) :
    (s.dropWhile p).length ≤ s.length := by
  induction s with
  | nil => simp
  | cons c cs ih => rw [List.dropWhile_cons]; split <;> simp_all; omega

-- The parts of a path, `none` if a brace in it has no partner. Every placeholder is followed by a
-- literal, and one stands in front, empty where nothing is between two placeholders.
def parts? (s : List Char) : Option (List Part) :=
  match _h : upToBrace s with
  | (t, []) => some [.literal t]
  | (_, '}' :: _) => none
  | (t, '{' :: rest) =>
    match _h' : upToBrace rest with
    | (b, '}' :: rest') => (parts? rest').map fun ps => .literal t :: .placeholder b :: ps
    | _ => none
  | (_, _ :: _) => none
termination_by s.length
decreasing_by
  have h₁ : '{' :: rest = s.dropWhile (fun c => !isBrace c) := (congrArg Prod.snd _h).symm
  have h₂ : '}' :: rest' = rest.dropWhile (fun c => !isBrace c) := (congrArg Prod.snd _h').symm
  have l₁ := h₁ ▸ length_dropWhile_le (p := fun c => !isBrace c) s
  have l₂ := h₂ ▸ length_dropWhile_le (p := fun c => !isBrace c) rest
  simp only [List.length_cons] at l₁ l₂
  omega

def placeholders (ps : List Part) : List (List Char) :=
  ps.filterMap fun
    | .literal _ => none
    | .placeholder b => some b

-- The field path that a placeholder names.
def fieldPath (inner : List Char) : List Char :=
  trim (before '=' inner)

-- The field paths that the placeholders name, in order of appearance.
def parameters (path : String) : Except SpecError (List String) :=
  match parts? path.toList with
  | none => .error (.invalidMapping path .unbalanced)
  | some ps =>
    (placeholders ps).mapM fun b =>
      if fieldPath b = [] then .error (.invalidMapping path .emptyPlaceholder)
      else .ok (String.ofList (fieldPath b))

end Scaffold.Template
