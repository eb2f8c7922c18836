import Scaffold.Proofs.Field.Grammar

namespace Scaffold.Field

open Text

variable {typing : Typing} {f : Field} {fs : List Field} {spec : String}

-- What stands after the colon.
def value (f : Field) : List Char :=
  if f.repeated then repeatedWord ++ ' ' :: f.type.text.toList else f.type.text.toList

theorem toList_text (f : Field) : f.text.toList = f.name.toList ++ ':' :: f.value := by
  have hr : ":repeated ".toList = ':' :: repeatedWord ++ [' '] := by decide
  unfold text value
  split
  case isFalse => simp
  case isTrue  => simp [hr]

-- What a field is written as is one of its spellings.
theorem spelled_text (f : Field) : f.Spelled f.text.toList := by
  have hspace : AllBlank [' '] := by decide
  cases hr : f.repeated
  case false =>
    have hs := Spelled.plain hr .nil .nil .nil .nil
    simpa [toList_text, value, hr] using hs
  case true =>
    have hs := Spelled.repeatedAfter hr .nil .nil .nil hspace (by decide) .nil
    simpa [toList_text, value, hr] using hs

namespace WellFormed

variable (h : f.WellFormed)
include h

theorem not_comma_mem_value : ',' ∉ f.value := by
  unfold value
  split
  case isFalse => exact h.token_type.not_comma
  case isTrue  => simp [h.token_type.not_comma, token_repeatedWord.not_comma]

theorem not_comma_mem_text : ',' ∉ f.text.toList := by
  simp [toList_text, h.token_name.not_comma, h.not_comma_mem_value]

end WellFormed

theorem Accepted.parseDefinition_text (h : f.Accepted typing) : parseDefinition typing f.text.toList = .ok f :=
  parseDefinition_eq_ok_iff_defines.mpr ⟨⟨h.toWellFormed, f.spelled_text⟩, h⟩

theorem toList_textAll (fs : List Field) :
    (textAll fs).toList = [','].intercalate (fs.map (·.text.toList)) := by
  simp [textAll, List.map_map, Function.comp_def]

theorem splitOn_textAll (h : ∀ f ∈ fs, f.WellFormed) (hn : fs ≠ []) :
    (textAll fs).toList.splitOn ',' = fs.map (·.text.toList) := by
  rw [toList_textAll]
  refine List.splitOn_intercalate ',' ?_ (by simpa using hn)
  intro l hl
  obtain ⟨f, hf, rfl⟩ := List.mem_map.mp hl
  exact (h f hf).not_comma_mem_text

-- What one definition is read as is accepted, hence what all of them are read as is.
theorem accepted_of_parse (h : parse typing spec = .ok fs) : ∀ f ∈ fs, f.Accepted typing := by
  intro f hf
  by_cases hb : AllBlank spec.toList
  case pos =>
    cases (parse_of_allBlank hb).symm.trans h
    contradiction
  case neg =>
    rw [parse_of_not_allBlank hb] at h
    obtain ⟨_, -, hraw⟩ := exists_mem_of_mapM h hf
    exact (parseDefinition_eq_ok_iff.mp hraw).2

theorem not_allBlank_textAll (h : ∀ f ∈ fs, f.WellFormed) (hn : fs ≠ []) :
    ¬AllBlank (textAll fs).toList := by
  obtain ⟨f, tl, rfl⟩ := List.exists_cons_of_ne_nil hn
  have hp : f.name.toList <+: (textAll (f :: tl)).toList := by
    cases tl <;> simp [toList_textAll, toList_text, List.append_assoc]
  intro hb
  exact (h f List.mem_cons_self).token_name.not_allBlank fun c hc => hb c <| hp.subset hc

theorem parse_textAll (h : ∀ f ∈ fs, f.Accepted typing) : parse typing (textAll fs) = .ok fs := by
  by_cases hn : fs = []
  case pos =>
    subst hn
    exact parse_of_allBlank (by simp [textAll, AllBlank])
  case neg =>
    have hw : ∀ f ∈ fs, f.WellFormed := fun f hf => (h f hf).toWellFormed
    rw [parse_of_not_allBlank (not_allBlank_textAll hw hn), splitOn_textAll hw hn, mapM_eq_ok_iff]
    exact List.forall₂_map_left_iff.mpr <|
      List.forall₂_same.mpr fun f hf => (h f hf).parseDefinition_text

theorem reads_back_iff_wellFormed :
    (∀ fs, parse .lenient (textAll fs) = .ok fs ↔ ∀ f ∈ fs, f.WellFormed) ∧
    (∀ typing spec fs, parse typing spec = .ok fs →
      (∀ f ∈ fs, f.WellFormed) ∧ parse .lenient (textAll fs) = .ok fs) := by
  have hw {typing spec fs} (h : parse typing spec = .ok fs) : ∀ f ∈ fs, f.WellFormed :=
    fun f hf => (accepted_of_parse h f hf).toWellFormed
  have hr {fs} (h : ∀ f ∈ fs, f.WellFormed) : parse .lenient (textAll fs) = .ok fs :=
    parse_textAll fun f hf => (h f hf).accepted_lenient
  exact ⟨fun _ => ⟨hw, hr⟩, fun _ _ _ h => ⟨hw h, hr <| hw h⟩⟩

-- Here `repeated` is a name, a word before a type and the beginning of a type.
theorem reads_back_repeated :
    parse (.strict ["repeateds"]) "repeated : repeated\tRepeatedS, repeated string bool" =
        .ok [⟨"repeated", .message "RepeatedS", true⟩, ⟨"bool", .primitive .string, true⟩] ∧
      parse .lenient
          (textAll [⟨"repeated", .message "RepeatedS", true⟩, ⟨"bool", .primitive .string, true⟩]) =
        .ok [⟨"repeated", .message "RepeatedS", true⟩, ⟨"bool", .primitive .string, true⟩] := by
  have h : parse (.strict ["repeateds"]) "repeated : repeated\tRepeatedS, repeated string bool" =
      .ok [⟨"repeated", .message "RepeatedS", true⟩, ⟨"bool", .primitive .string, true⟩] := by
    decide +kernel
  exact ⟨h, (reads_back_iff_wellFormed.2 _ _ _ h).2⟩

end Scaffold.Field
