import Scaffold.Http.Mapping
import Scaffold.Proofs.Text.Case

namespace Scaffold

open Text

namespace Verb

theorem isIdentifier_text (v : Verb) : isIdentifier v.text.toList = true := by
  cases v <;> decide

theorem ofText?_text (v : Verb) : ofText? v.text = some v := by
  cases v <;> decide

-- A verb is read in any letter case.
theorem ofText?_eq_some_iff {s : String} {v : Verb} : ofText? s = some v ↔ lower s = lower v.text := by
  have hv : upper v.text = v.text := by cases v <;> decide
  constructor
  case mp =>
    intro h
    have hs : v.text = upper s := eq_of_beq <| List.find?_some (p := fun v : Verb => v.text == upper s) h
    rw [hs, lower_upper]
  case mpr =>
    intro h
    have hs : upper s = upper v.text := by rw [←upper_lower, h, upper_lower]
    rw [ofText?, hs, ←ofText?, ofText?_text]

variable {v : Verb} {w : List Char}

theorem not_blank_of_lower_eq (h : lower (String.ofList w) = lower v.text) : ∀ c ∈ w, isBlank c = false := by
  intro c hc
  have hmem : c.toLower ∈ (lower v.text).toList := by
    rw [←h, toList_lower, String.toList_ofList]
    exact List.mem_map_of_mem hc
  have hl := not_blank_of_isIdentifier (isIdentifier_lower v.isIdentifier_text) _ hmem
  cases hu : c.isUpper
  case false => rwa [toLower_of_not_isUpper hu] at hl
  case true  => exact isBlank_eq_false_of_isWordChar <| isWordChar_of_isUpper hu

theorem ne_nil_of_lower_eq (h : lower (String.ofList w) = lower v.text) : w ≠ [] := by
  rintro rfl
  cases v <;> exact absurd h (by decide)

end Verb

namespace Mapping

-- The colon before the path is the first one, since verbs have none. The path may have some of its own.
structure WellFormed (m : Mapping) : Prop where
  slash   : m.path.toList.head? = some '/'
  trimmed : Trimmed m.path.toList

-- The ways to write a mapping: its verb in any letters, the first colon and the path, with white space around
-- each of them.
inductive Spelled (m : Mapping) : List Char → Prop
  | intro {a verb b c d : List Char} :
      AllBlank a → AllBlank b → AllBlank c → AllBlank d →
      lower (String.ofList verb) = lower m.verb.text →
      ':' ∉ a ++ verb ++ b →
      Spelled m (a ++ verb ++ b ++ ':' :: c ++ m.path.toList ++ d)

variable {s : String} {m : Mapping}

theorem parse_eq_ok_iff :
    parse s = .ok m ↔ ∃ verb rest, cut ':' (trim s.toList) = some (verb, rest) ∧
      Verb.ofText? (String.ofList (trim verb)) = some m.verb ∧
      trim rest = m.path.toList ∧ m.path.toList.head? = some '/' := by
  constructor
  case mp =>
    intro h
    simp only [parse] at h
    split at h
    case h_1 => cases h
    case h_2 verb rest hc =>
      split at h
      case h_2 v path hv hp =>
        cases h
        exact ⟨verb, rest, hc, hv, by simp [hp], by simp⟩
      all_goals cases h
  case mpr =>
    rintro ⟨verb, rest, hc, hv, hp, hs⟩
    obtain ⟨path, hpath⟩ := List.head?_eq_some_iff.mp hs
    simp only [parse, hc, hv, hp, hpath]
    rw [←hpath, String.ofList_toList]

theorem wellFormed_of_parse (h : parse s = .ok m) : m.WellFormed := by
  obtain ⟨_, rest, -, -, hp, hs⟩ := parse_eq_ok_iff.mp h
  exact ⟨hs, hp ▸ trimmed_trim rest⟩

theorem toList_text (m : Mapping) : m.text.toList = m.verb.text.toList ++ ':' :: m.path.toList := by
  simp [text]

-- What a mapping is written as is one of its spellings.
theorem spelled_text (m : Mapping) : m.Spelled m.text.toList := by
  have hv : lower (String.ofList m.verb.text.toList) = lower m.verb.text := by rw [String.ofList_toList]
  have hcolon : ':' ∉ [] ++ m.verb.text.toList ++ [] := by
    simpa using not_mem_of_isIdentifier m.verb.isIdentifier_text (by decide)
  have hs : m.Spelled _ := .intro .nil .nil .nil .nil hv hcolon
  simpa [toList_text] using hs

theorem WellFormed.path_ne_nil (h : m.WellFormed) : m.path.toList ≠ [] := by
  intro hn
  have hs := h.slash
  simp [hn] at hs

theorem parse_eq_ok_iff_spelled : parse s = .ok m ↔ m.WellFormed ∧ m.Spelled s.toList := by
  constructor
  case mp =>
    intro h
    obtain ⟨verb, rest, hcut, hv, hp, -⟩ := parse_eq_ok_iff.mp h
    obtain ⟨a, b, c, d, ha, hb, hc, hd, hcolon, hs⟩ := exists_of_cut_trim (by decide) hcut
    rw [hs, hp]
    exact ⟨wellFormed_of_parse h, .intro ha hb hc hd (Verb.ofText?_eq_some_iff.mp hv) hcolon⟩
  case mpr =>
    rintro ⟨hw, h⟩
    generalize hs : s.toList = text at h
    cases h
    case intro a verb b c d ha hb hc hd hv hcolon =>
      have hverb : Trimmed verb := .of_forall_not_blank <| Verb.not_blank_of_lower_eq hv
      have hcolon : ':' ∉ verb := fun hm => hcolon <| List.mem_append_left _ <| List.mem_append_right _ hm
      refine parse_eq_ok_iff.mpr ⟨verb ++ b, c ++ m.path.toList, ?_, ?_, ?_, hw.slash⟩
      · rw [hs]
        exact cut_trim_padded ha hb hd hverb hw.trimmed (Verb.ne_nil_of_lower_eq hv) hw.path_ne_nil (by decide)
          hcolon
      · rw [hverb.trim_append hb, Verb.ofText?_eq_some_iff, hv]
      · exact hw.trimmed.trim_prepend hc

theorem parse_text (h : m.WellFormed) : parse m.text = .ok m :=
  parse_eq_ok_iff_spelled.mpr ⟨h, m.spelled_text⟩

theorem parse_eq_error {e : SpecError} (h : parse s = .error e) : ∃ fault, e = .invalidMapping s fault := by
  simp only [parse] at h
  split at h
  case h_1 =>
    cases h
    exact ⟨_, rfl⟩
  case h_2 =>
    split at h
    case h_2 => cases h
    all_goals
      cases h
      exact ⟨_, rfl⟩

theorem parse_eq_error_iff :
    (∃ fault, parse s = .error (.invalidMapping s fault)) ↔ ¬∃ m : Mapping, m.WellFormed ∧ m.Spelled s.toList := by
  simp only [←parse_eq_ok_iff_spelled]
  cases h : parse s
  case ok m => simp
  case error e =>
    obtain ⟨fault, rfl⟩ := parse_eq_error h
    simp

theorem wellFormed_of_slash (v : Verb) {path : String} (hs : path.toList.head? = some '/')
    (hl : ∀ c ∈ path.toList.getLast?, isBlank c = false) : WellFormed ⟨v, path⟩ where
  slash := hs
  trimmed := by
    refine ⟨fun c hc => ?_, hl⟩
    cases hs.symm.trans hc
    decide

theorem mapping_grammar_decides :
    (∀ s m, parse s = .ok m ↔ m.WellFormed ∧ m.Spelled s.toList) ∧
    (∀ s, (∃ fault, parse s = .error (.invalidMapping s fault)) ↔
      ¬∃ m : Mapping, m.WellFormed ∧ m.Spelled s.toList) ∧
    (∀ (v : Verb) (path : String), path.toList.head? = some '/' →
      (∀ c ∈ path.toList.getLast?, isBlank c = false) → parse (v.text ++ ":" ++ path) = .ok ⟨v, path⟩) ∧
    (∀ s m, parse s = .ok m → parse m.text = .ok m) := by
  refine ⟨fun _ _ => parse_eq_ok_iff_spelled, fun _ => parse_eq_error_iff, fun v path hs hl => ?made,
    fun s m h => ?again⟩
  case made =>
    have hp := parse_text <| wellFormed_of_slash v hs hl
    rwa [text] at hp
  case again => exact parse_text <| wellFormed_of_parse h

-- The path has a colon and a space inside. What stands around the verb goes, and its letters become capitals.
theorem mapping_grammar_decides_shelves :
    parse "\u2003dElEtE : /v1/shelves:merge all\t" = .ok ⟨.delete, "/v1/shelves:merge all"⟩ ∧
      Spelled ⟨.delete, "/v1/shelves:merge all"⟩ "\u2003dElEtE : /v1/shelves:merge all\t".toList ∧
      parse (Verb.delete.text ++ ":" ++ "/v1/shelves:merge all") = .ok ⟨.delete, "/v1/shelves:merge all"⟩ ∧
      parse (text ⟨.delete, "/v1/shelves:merge all"⟩) = .ok ⟨.delete, "/v1/shelves:merge all"⟩ := by
  have h : parse "\u2003dElEtE : /v1/shelves:merge all\t" = .ok ⟨.delete, "/v1/shelves:merge all"⟩ := by
    decide +kernel
  obtain ⟨hok, -, hmade, hagain⟩ := mapping_grammar_decides
  have hlast : ∀ c ∈ "/v1/shelves:merge all".toList.getLast?, isBlank c = false := by
    have hl : "/v1/shelves:merge all".toList.getLast? = some 'l' := by decide
    rw [hl]
    rintro _ ⟨⟩
    decide
  have hp : parse (Verb.delete.text ++ ":" ++ "/v1/shelves:merge all") = .ok ⟨.delete, "/v1/shelves:merge all"⟩ :=
    hmade .delete "/v1/shelves:merge all" (by decide) hlast
  exact ⟨h, ((hok _ _).mp h).2, hp, hagain _ _ h⟩

end Mapping
end Scaffold
