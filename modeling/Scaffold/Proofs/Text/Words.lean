import Scaffold.Proofs.Text.Trim

namespace Scaffold.Text

variable {c : Char} {s t w : List Char} {ws : List (List Char)}

theorem length_splitOn (c : Char) (s : List Char) : (s.splitOn c).length = s.count c + 1 := by
  induction s
  case nil => rfl
  case cons d s ih =>
    rw [List.splitOn_cons_eq_if_modifyHead, List.count_cons]
    split <;> simp [ih]

theorem not_mem_of_mem_splitOn (h : t ∈ s.splitOn c) : c ∉ t := by
  induction s generalizing t
  case nil =>
    rw [List.splitOn_nil, List.mem_singleton] at h
    simp [h]
  case cons d s ih =>
    rw [List.splitOn_cons_eq_if_modifyHead] at h
    split at h
    case isTrue =>
      cases h
      case head      => simp
      case tail hmem => exact ih hmem
    case isFalse hd =>
      obtain ⟨v, vs, hv⟩ := List.exists_cons_of_ne_nil <| List.splitOn_ne_nil c s
      rw [hv] at h ih
      cases h
      case head =>
        have hne : c ≠ d := by
          rintro rfl
          simp at hd
        exact List.not_mem_cons_of_ne_of_not_mem hne <| ih List.mem_cons_self
      case tail hmem => exact ih <| List.mem_cons_of_mem _ hmem

-- A text that is put together has the characters of its parts and the separator.
theorem forall_mem_intercalate_iff {p : Char → Prop} (hc : p c) {xs : List (List Char)} :
    (∀ d ∈ [c].intercalate xs, p d) ↔ ∀ x ∈ xs, ∀ d ∈ x, p d := by
  induction xs
  case nil => simp
  case cons x xs ih =>
    cases xs
    case nil => simp
    case cons y ys =>
      rw [List.intercalate_cons_cons, List.forall_mem_append, List.forall_mem_append, ih]
      simp [hc]

theorem splitOn_of_allBlank (hc : isBlank c = false) (h : AllBlank s) : s.splitOn c = [s] :=
  List.splitOn_eq_singleton <| h.not_mem hc

-- No word reaches over white space.
theorem words_append_blank (hc : isBlank c = true) (s t : List Char) :
    words (s ++ c :: t) = words s ++ words t := by
  rw [words, List.splitOnP_append_cons s t hc, List.filter_append, words, words]

@[simp]
theorem words_nil : words [] = [] := by
  simp [words]

theorem words_of_not_blank (h : ∀ c ∈ w, isBlank c = false) (hw : w ≠ []) : words w = [w] := by
  simp [words, List.splitOnP_eq_singleton h, hw]

theorem words_append_of_allBlank (h : AllBlank s) (t : List Char) : words (s ++ t) = words t := by
  induction s
  case nil => rfl
  case cons c cs ih =>
    have hc := words_append_blank (h c List.mem_cons_self) [] (cs ++ t)
    rw [List.cons_append, ←List.nil_append (c :: (cs ++ t)), hc, words_nil, List.nil_append]
    exact ih fun d hd => h d <| List.mem_cons_of_mem _ hd

-- White space after a word ends it, the rest has the other words.
theorem words_append_gap {a : List Char} (ha : AllBlank a) (hn : a ≠ []) (s t : List Char) :
    words (s ++ (a ++ t)) = words s ++ words t := by
  obtain ⟨c, cs, rfl⟩ := List.exists_cons_of_ne_nil hn
  rw [List.cons_append, words_append_blank (ha c List.mem_cons_self)]
  rw [words_append_of_allBlank fun d hd => ha d <| List.mem_cons_of_mem _ hd]

theorem words_eq_nil_iff : words s = [] ↔ AllBlank s := by
  constructor
  case mpr =>
    intro h
    have := words_append_of_allBlank h []
    rwa [List.append_nil, words_nil] at this
  case mp =>
    intro h
    induction s
    case nil => exact fun _ hc => nomatch hc
    case cons c cs ih =>
      cases hc : isBlank c
      case true =>
        have hw := words_append_blank hc [] cs
        rw [List.nil_append, h, words_nil, List.nil_append] at hw
        exact List.forall_mem_cons.mpr ⟨hc, ih hw.symm⟩
      case false =>
        obtain ⟨v, vs, hv⟩ := List.exists_cons_of_ne_nil <| List.splitOnP_ne_nil (p := isBlank) cs
        simp [words, List.splitOnP_cons_eq_if_modifyHead, hc, hv] at h

-- A text that starts with a word has it at its head, up to white space or to its end.
theorem exists_word_prefix (h : ∀ c ∈ t.head?, isBlank c = false) (hn : t ≠ []) :
    ∃ w r, t = w ++ r ∧ w ≠ [] ∧ (∀ c ∈ w, isBlank c = false) ∧ ∀ c ∈ r.head?, isBlank c = true := by
  refine ⟨t.takeWhile (!isBlank ·), t.dropWhile (!isBlank ·), List.takeWhile_append_dropWhile.symm, ?_, ?_, ?_⟩
  · obtain ⟨c, cs, rfl⟩ := List.exists_cons_of_ne_nil hn
    simp [h c rfl]
  · intro c hc
    simpa using List.mem_takeWhile_imp hc
  · intro c hc
    have := List.head?_dropWhile_not (!isBlank ·) t
    rw [hc] at this
    simpa using this

theorem words_append_of_not_blank (hw : ∀ c ∈ w, isBlank c = false) (hn : w ≠ [])
    (hs : ∀ c ∈ s.head?, isBlank c = true) : words (w ++ s) = w :: words s := by
  cases s
  case nil => rw [List.append_nil, words_of_not_blank hw hn, words_nil]
  case cons c cs =>
    have hc := hs c rfl
    have hr := words_append_blank hc [] cs
    rw [List.nil_append, words_nil, List.nil_append] at hr
    rw [words_append_blank hc, words_of_not_blank hw hn, hr, List.singleton_append]

-- What is left after the first word holds the other words, and starts with white space if it is anything.
theorem exists_of_words_eq_cons (h : words s = w :: ws) :
    ∃ a r, AllBlank a ∧ s = a ++ (w ++ r) ∧ words r = ws ∧ w ≠ [] ∧ (∀ c ∈ w, isBlank c = false) ∧
      ∀ c ∈ r.head?, isBlank c = true := by
  obtain ⟨a, ha, hs⟩ := exists_trimStart_padding s
  have hw : words (trimStart s) = w :: ws := by rwa [hs, words_append_of_allBlank ha] at h
  have hn : trimStart s ≠ [] := by
    intro hn
    simp [hn] at hw
  obtain ⟨v, r, ht, hv, hvb, hr⟩ := exists_word_prefix head?_trimStart hn
  rw [ht, words_append_of_not_blank hvb hv hr] at hw
  obtain ⟨rfl, hws⟩ := List.cons.inj hw
  exact ⟨a, r, ha, by rw [←ht, ←hs], hws, hv, hvb, hr⟩

end Scaffold.Text
