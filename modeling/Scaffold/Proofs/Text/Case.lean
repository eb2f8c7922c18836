import Scaffold.Proofs.Text.Identifier

namespace Scaffold.Text

variable {c : Char} {s : List Char}

theorem toLower_of_not_isUpper (h : c.isUpper = false) : c.toLower = c := by
  have h : decide (c.val ≥ 'A'.val ∧ c.val ≤ 'Z'.val) = false := h
  exact dif_neg <| of_decide_eq_false h

theorem toNat_toLower_of_isUpper (h : c.isUpper = true) : c.toLower.toNat = c.toNat + 32 := by
  have hn := toNat_of_isUpper h
  have h : decide (c.val ≥ 'A'.val ∧ c.val ≤ 'Z'.val) = true := h
  have hl : c.toLower.toNat = (c.val + 32).toNat := congrArg Char.toNat <| dif_pos <| of_decide_eq_true h
  have hv : c.val.toNat = c.toNat := rfl
  rw [hl, UInt32.toNat_add, hv, Nat.mod_eq_of_lt]
  · rfl
  · simp
    omega

theorem isLower_toLower_of_isUpper (h : c.isUpper = true) : c.toLower.isLower = true := by
  have hl : c.toLower.isLower = (decide (97 ≤ c.toLower.toNat) && decide (c.toLower.toNat ≤ 122)) := rfl
  have hn := toNat_of_isUpper h
  rw [hl, toNat_toLower_of_isUpper h]
  simp
  omega

theorem isUpper_toLower (c : Char) : c.toLower.isUpper = false := by
  cases h : c.isUpper
  case false => rw [toLower_of_not_isUpper h, h]
  case true =>
    by_contra hu
    have hl := toNat_of_isLower <| isLower_toLower_of_isUpper h
    have hu := toNat_of_isUpper <| Bool.of_not_eq_false hu
    omega

theorem toLower_toLower (c : Char) : c.toLower.toLower = c.toLower :=
  toLower_of_not_isUpper <| isUpper_toLower c

theorem isAlpha_toLower_of_isUpper (h : c.isUpper = true) : c.toLower.isAlpha = true :=
  Bool.or_eq_true_iff.mpr <| .inr <| isLower_toLower_of_isUpper h

theorem isAlpha_toLower (h : c.isAlpha = true) : c.toLower.isAlpha = true := by
  cases hu : c.isUpper
  case false => rwa [toLower_of_not_isUpper hu]
  case true  => exact isAlpha_toLower_of_isUpper hu

theorem isWordChar_toLower (h : isWordChar c = true) : isWordChar c.toLower = true := by
  cases hu : c.isUpper
  case false => rwa [toLower_of_not_isUpper hu]
  case true  => simp [isWordChar, Char.isAlphanum, isAlpha_toLower_of_isUpper hu]

theorem toUpper_of_not_isLower (h : c.isLower = false) : c.toUpper = c := by
  have h : (decide (c.val ≥ 'a'.val) && decide (c.val ≤ 'z'.val)) = false := h
  refine dif_neg fun ⟨hge, hle⟩ => ?_
  rw [decide_eq_true hge, decide_eq_true hle] at h
  contradiction

theorem toNat_toUpper_of_isLower (h : c.isLower = true) : c.toUpper.toNat + 32 = c.toNat := by
  have hn := toNat_of_isLower h
  have h : (decide (c.val ≥ 'a'.val) && decide (c.val ≤ 'z'.val)) = true := h
  have hl : 'a'.val ≤ c.val ∧ c.val ≤ 'z'.val := by simpa using h
  have hu : c.toUpper.val = c.val + ('A'.val - 'a'.val) := by
    delta Char.toUpper
    rw [dif_pos hl]
  have hv : c.val.toNat = c.toNat := rfl
  have hd : ('A'.val - 'a'.val).toNat = 4294967264 := rfl
  rw [←Char.toNat_val, hu, UInt32.toNat_add, hv, hd]
  omega

theorem isUpper_toUpper_of_isLower (h : c.isLower = true) : c.toUpper.isUpper = true := by
  have hu : c.toUpper.isUpper = decide (65 ≤ c.toUpper.toNat ∧ c.toUpper.toNat ≤ 90) := rfl
  have hn := toNat_of_isLower h
  have := toNat_toUpper_of_isLower h
  rw [hu, decide_eq_true_eq]
  omega

theorem not_isUpper_of_isLower (h : c.isLower = true) : c.isUpper = false := by
  by_contra hu
  have hl := toNat_of_isLower h
  have hu := toNat_of_isUpper <| Bool.of_not_eq_false hu
  omega

theorem toLower_toUpper (c : Char) : c.toUpper.toLower = c.toLower := by
  cases h : c.isLower
  case false => rw [toUpper_of_not_isLower h]
  case true =>
    have hu := toNat_toLower_of_isUpper <| isUpper_toUpper_of_isLower h
    have hc := toNat_toUpper_of_isLower h
    rw [toLower_of_not_isUpper <| not_isUpper_of_isLower h, ←Char.toNat_inj]
    omega

theorem toUpper_toLower (c : Char) : c.toLower.toUpper = c.toUpper := by
  cases h : c.isUpper
  case false => rw [toLower_of_not_isUpper h]
  case true =>
    have hl := toNat_toUpper_of_isLower <| isLower_toLower_of_isUpper h
    have hc := toNat_toLower_of_isUpper h
    have hn : c.isLower = false := by
      by_contra hn
      rw [not_isUpper_of_isLower <| Bool.of_not_eq_false hn] at h
      contradiction
    rw [toUpper_of_not_isLower hn, ←Char.toNat_inj]
    omega

theorem lower_upper (s : String) : lower (upper s) = lower s := by
  rw [lower, toList_upper, List.map_map]
  exact congrArg String.ofList <| List.map_congr_left fun c _ => toLower_toUpper c

theorem upper_lower (s : String) : upper (lower s) = upper s := by
  rw [upper, toList_lower, List.map_map]
  exact congrArg String.ofList <| List.map_congr_left fun c _ => toUpper_toLower c

theorem lower_lower (s : String) : lower (lower s) = lower s := by
  rw [lower, toList_lower, List.map_map]
  exact congrArg String.ofList <| List.map_congr_left fun c _ => toLower_toLower c

theorem toLower_eq_self_iff : c.toLower = c ↔ c.isUpper = false :=
  ⟨fun h => h ▸ isUpper_toLower c, toLower_of_not_isUpper⟩

theorem lower_eq_self_iff {s : String} : lower s = s ↔ ∀ c ∈ s.toList, c.isUpper = false := by
  have hmap : s.toList.map Char.toLower = s.toList.map id ↔ ∀ c ∈ s.toList, c.toLower = c := List.map_inj_left
  rw [List.map_id] at hmap
  simp only [←String.toList_inj, toList_lower, hmap, toLower_eq_self_iff]

theorem isIdentifier_lower {s : String} (h : isIdentifier s.toList = true) :
    isIdentifier (lower s).toList = true := by
  rw [toList_lower]
  cases hs : s.toList
  case nil => simp [hs, isIdentifier] at h
  case cons c cs =>
    simp only [hs, isIdentifier, Bool.and_eq_true, Bool.or_eq_true, beq_iff_eq, List.all_eq_true] at h
    simp only [List.map_cons, isIdentifier, Bool.and_eq_true, Bool.or_eq_true, beq_iff_eq, List.all_map,
      List.all_eq_true]
    refine ⟨h.1.imp isAlpha_toLower fun hc => ?_, fun a ha => isWordChar_toLower <| h.2 a ha⟩
    rw [hc]
    rfl

end Scaffold.Text
