import Mathlib.Data.List.Forall2

namespace Scaffold

variable {ε α β : Type}

@[simp]
theorem ok_bind (a : α) (f : α → Except ε β) : (.ok a >>= f) = f a :=
  rfl

@[simp]
theorem error_bind (e : ε) (f : α → Except ε β) : (.error e >>= f) = .error e :=
  rfl

theorem bind_eq_ok_iff {x : Except ε α} {f : α → Except ε β} {b : β} :
    (x >>= f) = .ok b ↔ ∃ a, x = .ok a ∧ f a = .ok b := by
  cases x <;> simp

theorem bind_eq_error_iff {x : Except ε α} {f : α → Except ε β} {e : ε} :
    (x >>= f) = .error e ↔ x = .error e ∨ ∃ a, x = .ok a ∧ f a = .error e := by
  cases x <;> simp

-- A check that gives nothing to what follows it.
theorem check_bind_eq_ok_iff {x : Except ε Unit} {a b : α} :
    (do x; return a) = (.ok b : Except ε α) ↔ x = .ok () ∧ a = b := by
  cases x <;> simp [pure, Except.pure]

theorem check_bind_eq_error_iff {x : Except ε Unit} {a : α} {e : ε} :
    (do x; return a) = (.error e : Except ε α) ↔ x = .error e := by
  cases x <;> simp [pure, Except.pure]

theorem mapM_eq_ok_iff {f : α → Except ε β} {xs : List α} {ys : List β} :
    xs.mapM f = .ok ys ↔ List.Forall₂ (fun x y => f x = .ok y) xs ys := by
  induction xs generalizing ys
  case nil =>
    simp only [List.mapM_nil, pure, Except.pure, Except.ok.injEq]
    exact ⟨(· ▸ .nil), fun | .nil => rfl⟩
  case cons x xs ih =>
    simp only [List.mapM_cons, bind_eq_ok_iff, pure, Except.pure, Except.ok.injEq]
    constructor
    · rintro ⟨y, hy, ys', hys, rfl⟩
      exact .cons hy <| ih.mp hys
    · rintro (_ | ⟨hy, hys⟩)
      exact ⟨_, hy, _, ih.mpr hys, rfl⟩

theorem exists_forall₂_iff {R : α → β → Prop} {xs : List α} :
    (∃ ys, List.Forall₂ R xs ys) ↔ ∀ x ∈ xs, ∃ y, R x y := by
  induction xs
  case nil => exact ⟨fun _ _ hx => (nomatch hx), fun _ => ⟨[], .nil⟩⟩
  case cons x xs ih =>
    rw [List.forall_mem_cons, ←ih]
    constructor
    · rintro ⟨_, _ | ⟨hy, hys⟩⟩
      exact ⟨⟨_, hy⟩, _, hys⟩
    · rintro ⟨⟨y, hy⟩, ys, hys⟩
      exact ⟨y :: ys, .cons hy hys⟩

theorem exists_mapM_eq_ok_iff {f : α → Except ε β} {xs : List α} :
    (∃ ys, xs.mapM f = .ok ys) ↔ ∀ x ∈ xs, ∃ y, f x = .ok y := by
  simp only [mapM_eq_ok_iff, exists_forall₂_iff]

theorem exists_mem_of_mapM {f : α → Except ε β} {xs : List α} {ys : List β} {y : β}
    (h : xs.mapM f = .ok ys) (hy : y ∈ ys) : ∃ x ∈ xs, f x = .ok y := by
  have hs := mapM_eq_ok_iff.mp h
  clear h
  induction hs
  case nil => contradiction
  case cons x y' xs ys hx _ ih =>
    cases hy
    case head => exact ⟨x, List.mem_cons_self, hx⟩
    case tail hy =>
      obtain ⟨x', hx', h⟩ := ih hy
      exact ⟨x', List.mem_cons_of_mem _ hx', h⟩

-- The first check that fails decides; those before it have passed.
theorem mapM_eq_error_iff {f : α → Except ε β} {xs : List α} {e : ε} :
    xs.mapM f = .error e ↔
      ∃ pre x post, xs = pre ++ x :: post ∧ (∀ y ∈ pre, ∃ b, f y = .ok b) ∧ f x = .error e := by
  constructor
  case mp =>
    intro h
    induction xs
    case nil => cases h
    case cons x xs ih =>
      cases hx : f x
      case error e' =>
        rw [List.mapM_cons, hx, error_bind] at h
        cases h
        exact ⟨[], x, xs, rfl, by simp, hx⟩
      case ok y =>
        rw [List.mapM_cons, hx, ok_bind] at h
        cases hxs : xs.mapM f
        case ok ys =>
          rw [hxs, ok_bind] at h
          cases h
        case error e' =>
          rw [hxs, error_bind] at h
          cases h
          obtain ⟨pre, x', post, rfl, hpre, hx'⟩ := ih hxs
          exact ⟨x :: pre, x', post, rfl, List.forall_mem_cons.mpr ⟨⟨y, hx⟩, hpre⟩, hx'⟩
  case mpr =>
    rintro ⟨pre, x, post, rfl, hpre, hx⟩
    obtain ⟨ys, hys⟩ := exists_mapM_eq_ok_iff.mpr hpre
    rw [List.mapM_append, hys, ok_bind, List.mapM_cons, hx, error_bind, error_bind]

-- Checks that look at results one by one may as well wait until all results are there.
theorem mapM_check_of_mapM {g : α → Except ε β} {k : β → Except ε Unit} {xs : List α} {ys : List β}
    (h : xs.mapM g = .ok ys) :
    xs.mapM (fun x => do let y ← g x; k y; return y) = (do ys.forM k; return ys) := by
  have hs := mapM_eq_ok_iff.mp h
  clear h
  induction hs
  case nil => rfl
  case cons x y xs ys hx _ ih =>
    rw [List.mapM_cons, hx, ok_bind, ih, List.forM_eq_forM, List.forM_cons]
    cases k y
    case error => rfl
    case ok    => simp

-- Checks that give one and the same error.
theorem mapM_ite_error {p : α → Prop} [DecidablePred p] {f : α → β} {e : ε} (xs : List α) :
    (xs.mapM fun x => (if p x then .error e else .ok (f x) : Except ε β)) =
      if ∃ x ∈ xs, p x then .error e else .ok (xs.map f) := by
  induction xs
  case nil => rfl
  case cons x xs ih =>
    rw [List.mapM_cons, ih]
    by_cases hx : p x
    case pos => simp [hx]
    case neg =>
      simp only [List.exists_mem_cons_iff, hx, false_or, if_false, ok_bind, List.map_cons]
      split <;> rfl

theorem forM_eq_ok_iff {f : α → Except ε Unit} {xs : List α} :
    xs.forM f = .ok () ↔ ∀ x ∈ xs, f x = .ok () := by
  induction xs
  case nil => simp [pure, Except.pure]
  case cons x xs ih =>
    simp only [List.forM_eq_forM, List.forM_cons, bind_eq_ok_iff, List.forall_mem_cons] at ih ⊢
    rw [ih]
    exact ⟨fun ⟨(), hx, hxs⟩ => ⟨hx, hxs⟩, fun ⟨hx, hxs⟩ => ⟨(), hx, hxs⟩⟩

theorem forM_eq_error_iff {f : α → Except ε Unit} {xs : List α} {e : ε} :
    xs.forM f = .error e ↔
      ∃ pre x post, xs = pre ++ x :: post ∧ (∀ y ∈ pre, f y = .ok ()) ∧ f x = .error e := by
  constructor
  case mp =>
    intro h
    induction xs
    case nil => cases h
    case cons x xs ih =>
      cases hx : f x
      case error e' =>
        rw [List.forM_eq_forM, List.forM_cons, hx, error_bind] at h
        cases h
        exact ⟨[], x, xs, rfl, by simp, hx⟩
      case ok =>
        rw [List.forM_eq_forM, List.forM_cons, hx, ok_bind] at h
        obtain ⟨pre, x', post, rfl, hpre, hx'⟩ := ih h
        exact ⟨x :: pre, x', post, rfl, List.forall_mem_cons.mpr ⟨hx, hpre⟩, hx'⟩
  case mpr =>
    rintro ⟨pre, x, post, rfl, hpre, hx⟩
    have hok : pre.forM f = .ok () := forM_eq_ok_iff.mpr hpre
    rw [List.forM_eq_forM] at hok ⊢
    rw [List.forM_append, hok, ok_bind, List.forM_cons, hx, error_bind]

end Scaffold
