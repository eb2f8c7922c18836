namespace Scaffold.Text

-- What stands before and after the first `d`, if there is one.
def cut (d : Char) : List Char → Option (List Char × List Char)
  | [] => none
  | c :: cs => if c = d then some ([], cs) else (cut d cs).map fun (a, b) => (c :: a, b)

theorem cut_eq_none_iff {d : Char} {s : List Char} : cut d s = none ↔ d ∉ s := by
  induction s with
  | nil => simp [cut]
  | cons c cs ih =>
    by_cases h : c = d
    · simp [cut, h]
    · simp [cut, h, ih, Ne.symm h]

theorem cut_eq_some_iff {d : Char} {s a b : List Char} :
    cut d s = some (a, b) ↔ s = a ++ d :: b ∧ d ∉ a := by
  induction s generalizing a with
  | nil => simp [cut]
  | cons c cs ih =>
    by_cases h : c = d
    · subst h
      cases a <;> simp [cut]
      rintro rfl _ h
      exact absurd rfl h
    · cases a with
      | nil => simp [cut, h]
      | cons x xs =>
        simp only [cut, if_neg h, Option.map_eq_some_iff, Prod.mk.injEq, List.cons.injEq,
          Prod.exists, List.cons_append, List.mem_cons, not_or]
        constructor
        · rintro ⟨u, v, huv, ⟨rfl, rfl⟩, rfl⟩
          obtain ⟨rfl, hu⟩ := ih.1 huv
          exact ⟨⟨rfl, rfl⟩, Ne.symm h, hu⟩
        · rintro ⟨⟨rfl, rfl⟩, _, hu⟩
          exact ⟨xs, b, ih.2 ⟨rfl, hu⟩, ⟨rfl, rfl⟩, rfl⟩

-- What stands before the first `d`, or all of the text.
def before (d : Char) (s : List Char) : List Char :=
  s.takeWhile (· ≠ d)

theorem before_cons_of_ne {c d : Char} (h : c ≠ d) (s : List Char) : before d (c :: s) = c :: before d s := by
  simp [before, h]

theorem before_of_not_mem {d : Char} {s : List Char} (h : d ∉ s) : before d s = s := by
  induction s with
  | nil => rfl
  | cons c cs ih =>
    obtain ⟨hc, hcs⟩ := not_or.mp (mt List.mem_cons.mpr h)
    rw [before_cons_of_ne (Ne.symm hc), ih hcs]

theorem before_append_cons {d : Char} {a b : List Char} (h : d ∉ a) : before d (a ++ d :: b) = a := by
  induction a with
  | nil => simp [before]
  | cons c cs ih =>
    obtain ⟨hc, hcs⟩ := not_or.mp (mt List.mem_cons.mpr h)
    rw [List.cons_append, before_cons_of_ne (Ne.symm hc), ih hcs]

-- Either the text goes on with a `d`, or it holds none.
theorem before_eq_iff {d : Char} {s a : List Char} :
    before d s = a ↔ d ∉ a ∧ (s = a ∨ ∃ b, s = a ++ d :: b) := by
  constructor
  · rintro rfl
    cases h : cut d s with
    | none =>
      have hs := cut_eq_none_iff.mp h
      exact (before_of_not_mem hs).symm ▸ ⟨hs, .inl rfl⟩
    | some p =>
      obtain ⟨rfl, ha⟩ := (cut_eq_some_iff (a := p.1) (b := p.2)).mp h
      exact (before_append_cons ha).symm ▸ ⟨ha, .inr ⟨_, rfl⟩⟩
  · rintro ⟨ha, rfl | ⟨b, rfl⟩⟩
    · exact before_of_not_mem ha
    · exact before_append_cons ha

end Scaffold.Text
