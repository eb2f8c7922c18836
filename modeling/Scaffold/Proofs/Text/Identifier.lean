import Scaffold.Text.Case
import Scaffold.Proofs.Text.Trim

namespace Scaffold.Text

variable {c d : Char} {s : List Char}

theorem toNat_of_isUpper (h : c.isUpper = true) : 65 ≤ c.toNat ∧ c.toNat ≤ 90 := by
  have h : decide (65 ≤ c.toNat ∧ c.toNat ≤ 90) = true := h
  exact of_decide_eq_true h

theorem toNat_of_isLower (h : c.isLower = true) : 97 ≤ c.toNat ∧ c.toNat ≤ 122 := by
  have h : (decide (97 ≤ c.toNat) && decide (c.toNat ≤ 122)) = true := h
  simpa using h

theorem toNat_of_isWordChar (h : isWordChar c = true) : 48 ≤ c.toNat ∧ c.toNat ≤ 122 := by
  have hw : isWordChar c = (((c.isUpper || c.isLower) || c.isDigit) || c == '_') := rfl
  rw [hw] at h
  simp only [Bool.or_eq_true, beq_iff_eq] at h
  obtain ((hu | hl) | hd) | rfl := h
  · have := toNat_of_isUpper hu
    omega
  · have := toNat_of_isLower hl
    omega
  · have : 48 ≤ c.toNat ∧ c.toNat ≤ 57 := Char.isDigit_iff_toNat.mp hd
    omega
  · decide

theorem isWordChar_of_isUpper (h : c.isUpper = true) : isWordChar c = true := by
  have hw : isWordChar c = (((c.isUpper || c.isLower) || c.isDigit) || c == '_') := rfl
  simp [hw, h]

theorem isBlank_eq_false_of_isWordChar (h : isWordChar c = true) : isBlank c = false := by
  have := toNat_of_isWordChar h
  simp only [isBlank, Bool.or_eq_false_iff, Bool.and_eq_false_imp, decide_eq_true_eq,
    decide_eq_false_iff_not, beq_eq_false_iff_ne]
  omega

theorem isWordChar_of_mem_isIdentifier (h : isIdentifier s = true) (hc : c ∈ s) :
    isWordChar c = true := by
  cases s
  case nil => contradiction
  case cons a as =>
    simp only [isIdentifier, Bool.and_eq_true, Bool.or_eq_true, List.all_eq_true] at h
    cases hc
    case head =>
      simp only [isWordChar, Char.isAlphanum, Bool.or_eq_true]
      exact h.1.imp_left .inl
    case tail hc => exact h.2 c hc

theorem ne_nil_of_isIdentifier (h : isIdentifier s = true) : s ≠ [] := by
  rintro rfl
  contradiction

theorem ne_empty_of_isIdentifier {s : String} (h : isIdentifier s.toList = true) : s ≠ "" := by
  rintro rfl
  contradiction

theorem not_blank_of_isIdentifier (h : isIdentifier s = true) : ∀ c ∈ s, isBlank c = false :=
  fun _ hc => isBlank_eq_false_of_isWordChar <| isWordChar_of_mem_isIdentifier h hc

theorem trimmed_of_isIdentifier (h : isIdentifier s = true) : Trimmed s :=
  .of_forall_not_blank <| not_blank_of_isIdentifier h

-- No separator is a word character.
theorem not_mem_of_isIdentifier (h : isIdentifier s = true) (hd : isWordChar d = false) : d ∉ s :=
  fun hm => Bool.eq_false_iff.mp hd <| isWordChar_of_mem_isIdentifier h hm

end Scaffold.Text
