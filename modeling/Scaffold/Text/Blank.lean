namespace Scaffold.Text

-- The characters of `White_Space`; ASCII brings tab, line feed, vertical tab, form feed, carriage
-- return and space.
def isBlank (c : Char) : Bool :=
  let n := c.toNat
  (9 ≤ n && n ≤ 13) || n == 0x20 || n == 0x85 || n == 0xA0 || n == 0x1680 ||
    (0x2000 ≤ n && n ≤ 0x200A) || n == 0x2028 || n == 0x2029 || n == 0x202F || n == 0x205F ||
    n == 0x3000

theorem isBlank_of_isWhitespace {c : Char} (h : c.isWhitespace = true) : isBlank c = true := by
  simp only [Char.isWhitespace, Bool.or_eq_true, decide_eq_true_eq] at h
  rcases h with ((rfl | rfl) | rfl) | rfl <;> decide

def trimStart (s : List Char) : List Char :=
  s.dropWhile isBlank

def trimEnd (s : List Char) : List Char :=
  (s.reverse.dropWhile isBlank).reverse

def trim (s : List Char) : List Char :=
  trimEnd (trimStart s)

def AllBlank (s : List Char) : Prop :=
  ∀ c ∈ s, isBlank c = true

instance (s : List Char) : Decidable (AllBlank s) :=
  decidable_of_iff (s.all isBlank = true) List.all_eq_true

theorem trimStart_eq_nil_iff {s : List Char} : trimStart s = [] ↔ AllBlank s := by
  induction s with
  | nil => simp [trimStart, AllBlank]
  | cons c cs ih =>
    simp only [trimStart, AllBlank, List.dropWhile_cons, List.forall_mem_cons] at ih ⊢
    split <;> simp_all

theorem trimEnd_eq_nil_iff {s : List Char} : trimEnd s = [] ↔ AllBlank s := by
  have h := trimStart_eq_nil_iff (s := s.reverse)
  simp only [trimStart] at h
  simp [trimEnd, h, AllBlank]

theorem allBlank_trimStart_iff {s : List Char} : AllBlank (trimStart s) ↔ AllBlank s := by
  induction s with
  | nil => simp [trimStart]
  | cons c cs ih =>
    simp only [trimStart, AllBlank, List.dropWhile_cons, List.forall_mem_cons] at ih ⊢
    split <;> simp_all

theorem trim_eq_nil_iff {s : List Char} : trim s = [] ↔ AllBlank s := by
  rw [trim, trimEnd_eq_nil_iff, allBlank_trimStart_iff]

-- The longest stretches without white space, in order.
def words (s : List Char) : List (List Char) :=
  (s.splitOnP isBlank).filter (fun w => !w.isEmpty)

end Scaffold.Text
