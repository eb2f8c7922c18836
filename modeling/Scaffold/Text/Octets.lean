namespace Scaffold.Text

abbrev Octets :=
  List UInt8

def octets (s : String) : Octets :=
  s.toUTF8.toList

-- What the first octet of a character says: its own bits, the bounds of the next octet, and how many
-- octets follow.
structure Lead where
  bits : Nat
  low : UInt8
  high : UInt8
  more : Nat

-- The bounds leave out overlong forms (E0, F0), surrogates (ED) and what lies beyond U+10FFFF (F4).
def Lead.of? (b : UInt8) : Option Lead :=
  if b < 0x80 then some ⟨b.toNat, 0x80, 0xBF, 0⟩
  else if b < 0xC2 then none
  else if b < 0xE0 then some ⟨b.toNat - 0xC0, 0x80, 0xBF, 1⟩
  else if b == 0xE0 then some ⟨0, 0xA0, 0xBF, 2⟩
  else if b == 0xED then some ⟨0xD, 0x80, 0x9F, 2⟩
  else if b < 0xF0 then some ⟨b.toNat - 0xE0, 0x80, 0xBF, 2⟩
  else if b == 0xF0 then some ⟨0, 0x90, 0xBF, 3⟩
  else if b < 0xF4 then some ⟨b.toNat - 0xF0, 0x80, 0xBF, 3⟩
  else if b == 0xF4 then some ⟨4, 0x80, 0x8F, 3⟩
  else none

-- Takes up to `more` following octets; `none` stands for a character that breaks off.
def follow (low high : UInt8) : Nat → Nat → Octets → Option Nat × Octets
  | 0, bits, rest => (some bits, rest)
  | _ + 1, _, [] => (none, [])
  | more + 1, bits, b :: rest =>
    if low ≤ b ∧ b ≤ high then follow 0x80 0xBF more (bits * 64 + (b.toNat - 0x80)) rest
    else (none, b :: rest)

theorem follow_length_le (low high : UInt8) (more bits : Nat) (rest : Octets) :
    (follow low high more bits rest).2.length ≤ rest.length := by
  induction more generalizing low high bits rest with
  | zero => simp [follow]
  | succ more ih =>
    cases rest with
    | nil => simp [follow]
    | cons b rest =>
      simp only [follow]
      split
      · exact Nat.le_succ_of_le (ih ..)
      · exact Nat.le_refl _

-- The characters in order, `none` for each stretch that is not one.
def characters (acc : List (Option Char)) : Octets → List (Option Char)
  | [] => acc.reverse
  | b :: rest =>
    match Lead.of? b with
    | none => characters (none :: acc) rest
    | some l =>
      let r := follow l.low l.high l.more l.bits rest
      characters (r.1.map Char.ofNat :: acc) r.2
termination_by s => s.length
decreasing_by
  all_goals simp only [List.length_cons]
  · omega
  · exact Nat.lt_succ_of_le (follow_length_le ..)

def ofOctets (s : Octets) : String :=
  String.ofList ((characters [] s).map fun c => c.getD (Char.ofNat 0xFFFD))

def ofOctets? (s : Octets) : Option String :=
  let cs := characters [] s
  if cs.all Option.isSome then some (String.ofList (cs.filterMap id)) else none

end Scaffold.Text
