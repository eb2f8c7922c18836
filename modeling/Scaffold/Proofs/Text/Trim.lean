import Scaffold.Text.Blank
import Scaffold.Text.Cut
import Mathlib.Data.List.DropRight

namespace Scaffold.Text

variable {s t : List Char}

-- A text without white space at either end.
structure Trimmed (s : List Char) : Prop where
  head : ∀ c ∈ s.head?, isBlank c = false
  last : ∀ c ∈ s.getLast?, isBlank c = false

theorem AllBlank.nil : AllBlank [] := by
  simp [AllBlank]

theorem AllBlank.append (hs : AllBlank s) (ht : AllBlank t) : AllBlank (s ++ t) := by
  intro c hc
  exact (List.mem_append.mp hc).elim (hs c) (ht c)

theorem AllBlank.not_mem {c : Char} (h : AllBlank s) (hc : isBlank c = false) : c ∉ s :=
  fun hm => Bool.eq_false_iff.mp hc <| h c hm

namespace Trimmed

theorem nil : Trimmed [] where
  head := by simp
  last := by simp

theorem of_forall_not_blank (h : ∀ c ∈ s, isBlank c = false) : Trimmed s where
  head c hc := h c <| List.mem_of_mem_head? hc
  last c hc := h c <| List.mem_of_mem_getLast? hc

-- Only the two ends matter, so anything may stand between trimmed texts.
theorem append_between (hs : Trimmed s) (ht : Trimmed t) (hs' : s ≠ []) (ht' : t ≠ []) (m : List Char) :
    Trimmed (s ++ (m ++ t)) where
  head := by
    rw [List.head?_append_of_ne_nil _ hs']
    exact hs.head
  last := by
    rw [←List.append_assoc, List.getLast?_append_of_ne_nil _ ht']
    exact ht.last

end Trimmed

theorem trimStart_eq_self (h : ∀ c ∈ s.head?, isBlank c = false) : trimStart s = s := by
  cases s
  case nil => rfl
  case cons c cs => simp [trimStart, h c rfl]

theorem trimEnd_eq_self (h : ∀ c ∈ s.getLast?, isBlank c = false) : trimEnd s = s := by
  have := trimStart_eq_self (s := s.reverse) <| by rwa [List.head?_reverse]
  rw [trimEnd, ←trimStart, this, List.reverse_reverse]

theorem head?_trimStart : ∀ c ∈ (trimStart s).head?, isBlank c = false := by
  intro c hc
  have := List.head?_dropWhile_not isBlank s
  rw [←trimStart, hc] at this
  exact this

theorem getLast?_trimEnd : ∀ c ∈ (trimEnd s).getLast?, isBlank c = false := by
  rw [trimEnd, List.getLast?_reverse]
  exact head?_trimStart (s := s.reverse)

theorem exists_trimStart_padding (s : List Char) : ∃ a, AllBlank a ∧ s = a ++ trimStart s :=
  ⟨s.takeWhile isBlank, fun _ => List.mem_takeWhile_imp, List.takeWhile_append_dropWhile.symm⟩

theorem exists_trimEnd_padding (s : List Char) : ∃ b, AllBlank b ∧ s = trimEnd s ++ b := by
  obtain ⟨a, ha, h⟩ := exists_trimStart_padding s.reverse
  refine ⟨a.reverse, fun c hc => ha c <| List.mem_reverse.mp hc, ?_⟩
  rw [trimEnd, ←trimStart, ←List.reverse_append, ←h, List.reverse_reverse]

theorem exists_trim_padding (s : List Char) :
    ∃ a b, AllBlank a ∧ AllBlank b ∧ s = a ++ trim s ++ b := by
  obtain ⟨a, ha, hs⟩ := exists_trimStart_padding s
  obtain ⟨b, hb, ht⟩ := exists_trimEnd_padding (trimStart s)
  exact ⟨a, b, ha, hb, by rw [trim, List.append_assoc, ←ht, ←hs]⟩

theorem mem_of_mem_trim {c : Char} (h : c ∈ trim s) : c ∈ s := by
  obtain ⟨a, b, -, -, hs⟩ := exists_trim_padding s
  rw [hs]
  exact List.mem_append_left _ <| List.mem_append_right _ h

theorem trimmed_trim (s : List Char) : Trimmed (trim s) where
  head c hc := by
    obtain ⟨b, -, h⟩ := exists_trimEnd_padding (trimStart s)
    have hs : c ∈ (trimStart s).head? := by
      rw [h]
      exact List.mem_head?_append_of_mem_head? hc
    exact head?_trimStart c hs
  last := getLast?_trimEnd

theorem Trimmed.trim_eq (h : Trimmed s) : trim s = s := by
  rw [trim, trimStart_eq_self h.head, trimEnd_eq_self h.last]

theorem trim_eq_self_iff : trim s = s ↔ Trimmed s :=
  ⟨fun h => h ▸ trimmed_trim s, Trimmed.trim_eq⟩

@[simp]
theorem trim_trim (s : List Char) : trim (trim s) = trim s :=
  (trimmed_trim s).trim_eq

theorem trimStart_append_of_allBlank (h : AllBlank s) (t : List Char) :
    trimStart (s ++ t) = trimStart t :=
  List.dropWhile_append_of_pos h

theorem trim_append_of_allBlank (h : AllBlank s) (t : List Char) : trim (s ++ t) = trim t := by
  rw [trim, trimStart_append_of_allBlank h, trim]

theorem trimEnd_append_of_allBlank (h : AllBlank t) (s : List Char) : trimEnd (s ++ t) = trimEnd s := by
  have hr : AllBlank t.reverse := fun c hc => h c <| List.mem_reverse.mp hc
  have := trimStart_append_of_allBlank hr s.reverse
  rw [trimStart, trimStart] at this
  rw [trimEnd, List.reverse_append, this, trimEnd]

-- Padding goes, and nothing else does.
theorem trim_padded {a b : List Char} (ha : AllBlank a) (hb : AllBlank b) (h : Trimmed s) :
    trim (a ++ s ++ b) = s := by
  rw [List.append_assoc, trim_append_of_allBlank ha, trim]
  by_cases hs : s = []
  case pos =>
    rw [hs, List.nil_append, trimEnd_eq_nil_iff, allBlank_trimStart_iff]
    exact hb
  case neg =>
    have hd : ∀ c ∈ (s ++ b).head?, isBlank c = false := by
      rw [List.head?_append_of_ne_nil _ hs]
      exact h.head
    rw [trimStart_eq_self hd, trimEnd_append_of_allBlank hb, trimEnd_eq_self h.last]

namespace Trimmed

variable {a : List Char} (h : Trimmed s) (ha : AllBlank a)
include h ha

theorem trim_append : trim (s ++ a) = s :=
  trim_padded .nil ha h

theorem trim_prepend : trim (a ++ s) = s := by
  rw [trim_append_of_allBlank ha, h.trim_eq]

end Trimmed

section Cut

variable {d : Char} {x y : List Char}

theorem exists_of_cut_trim (hd : isBlank d = false) (h : cut d (trim s) = some (x, y)) :
    ∃ a b c e, AllBlank a ∧ AllBlank b ∧ AllBlank c ∧ AllBlank e ∧ d ∉ a ++ trim x ++ b ∧
      s = a ++ trim x ++ b ++ d :: c ++ trim y ++ e := by
  obtain ⟨htrim, hx⟩ := cut_eq_some_iff.mp h
  obtain ⟨a, e, ha, he, hs⟩ := exists_trim_padding s
  obtain ⟨a', b, ha', hb, hx'⟩ := exists_trim_padding x
  obtain ⟨c, e', hc, he', hy⟩ := exists_trim_padding y
  refine ⟨a ++ a', b, c, e' ++ e, ha.append ha', hb, hc, he'.append he, ?_, ?_⟩
  · rw [List.append_assoc, List.append_assoc, ←List.append_assoc a', ←hx', List.mem_append, not_or]
    exact ⟨ha.not_mem hd, hx⟩
  · have hcut : s = a ++ (a' ++ trim x ++ b ++ d :: (c ++ trim y ++ e')) ++ e := by
      rw [←hx', ←hy, ←htrim, ←hs]
    simpa using hcut

theorem cut_trim_padded {a b c e : List Char} (ha : AllBlank a) (hb : AllBlank b) (he : AllBlank e)
    (hx : Trimmed x) (hy : Trimmed y) (hxn : x ≠ []) (hyn : y ≠ []) (hd : isBlank d = false) (hdx : d ∉ x) :
    cut d (trim (a ++ x ++ b ++ d :: c ++ y ++ e)) = some (x ++ b, c ++ y) := by
  have htrim := trim_padded ha he <| hx.append_between hy hxn hyn (b ++ d :: c)
  simp only [List.append_assoc, List.cons_append] at htrim ⊢
  rw [htrim, cut_eq_some_iff, List.mem_append, not_or]
  exact ⟨by simp, hdx, hb.not_mem hd⟩

end Cut

end Scaffold.Text

namespace Scaffold

open Text

-- A text without the white space around it.
def trimmedText (s : String) : String :=
  String.ofList (trim s.toList)

@[simp]
theorem toList_trimmedText (s : String) : (trimmedText s).toList = trim s.toList :=
  String.toList_ofList

theorem trimmedText_eq_empty_iff {s : String} : trimmedText s = "" ↔ AllBlank s.toList := by
  rw [←trim_eq_nil_iff, ←toList_trimmedText, String.toList_eq_nil_iff]

end Scaffold
