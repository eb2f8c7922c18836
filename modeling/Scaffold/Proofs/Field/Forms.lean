import Scaffold.Proofs.Field.Definition
import Scaffold.Proofs.Text.Words

namespace Scaffold.Field

open Text

-- A word that no form takes apart: it is not empty and holds neither white space nor a separator.
structure Token (w : List Char) : Prop where
  ne_nil    : w ≠ []
  not_blank : ∀ c ∈ w, isBlank c = false
  not_comma : ',' ∉ w
  not_colon : ':' ∉ w

variable {name type w raw : List Char}

namespace Token

theorem trimmed (h : Token w) : Trimmed w :=
  .of_forall_not_blank h.not_blank

theorem words_eq (h : Token w) : words w = [w] :=
  words_of_not_blank h.not_blank h.ne_nil

theorem not_allBlank (h : Token w) : ¬AllBlank w := by
  obtain ⟨c, hc⟩ := List.exists_mem_of_ne_nil w h.ne_nil
  intro hb
  exact Bool.eq_false_iff.mp (h.not_blank c hc) <| hb c hc

theorem of_isIdentifier (h : isIdentifier w = true) : Token w where
  ne_nil    := ne_nil_of_isIdentifier h
  not_blank := not_blank_of_isIdentifier h
  not_comma := not_mem_of_isIdentifier h (by decide)
  not_colon := not_mem_of_isIdentifier h (by decide)

end Token

theorem token_repeatedWord : Token repeatedWord :=
  .of_isIdentifier <| by decide

namespace Draft

-- What stands before and after the colon decides how a definition with a colon is read.
theorem of?_colon {a b c d value : List Char} (ha : AllBlank a) (hb : AllBlank b) (hc : AllBlank c)
    (hd : AllBlank d) (hn : Token name) (hv : Trimmed value) (hvn : value ≠ []) :
    of? (trim (a ++ name ++ b ++ ':' :: c ++ value ++ d)) = some (afterColon name value) := by
  have hcut := cut_trim_padded (c := c) ha hb hd hn.trimmed hv hn.ne_nil hvn (by decide) hn.not_colon
  simp only [of?, hcut, hn.trimmed.trim_append hb, hv.trim_prepend hc]

theorem of?_words {gap gap' : List Char} (hn : Token name) (ht : Token type) (hg : AllBlank gap)
    (hgn : gap ≠ []) (hg' : AllBlank gap') (hgn' : gap' ≠ []) :
    of? (repeatedWord ++ (gap ++ type ++ gap' ++ name)) = some ⟨name, true, type⟩ := by
  have hcolon : ':' ∉ repeatedWord ++ (gap ++ type ++ gap' ++ name) := by
    simp [token_repeatedWord.not_colon, hg.not_mem (c := ':') (by decide), ht.not_colon,
      hg'.not_mem (c := ':') (by decide), hn.not_colon]
  have hwords : words (repeatedWord ++ (gap ++ type ++ gap' ++ name)) = [repeatedWord, type, name] := by
    rw [List.append_assoc, List.append_assoc, words_append_gap hg hgn, words_append_gap hg' hgn',
      token_repeatedWord.words_eq, ht.words_eq, hn.words_eq]
    rfl
  simp only [of?, cut_eq_none_iff.mpr hcolon, hwords, if_true]

end Draft

-- The two ways to write a repeated field, with any words as its name and its type. Words that touch are
-- parted by a gap, which is white space and not empty.
inductive Repeats (name type : List Char) : List Char → Prop
  | after {a b c gap d : List Char} :
      AllBlank a → AllBlank b → AllBlank c → AllBlank gap → gap ≠ [] → AllBlank d →
      Repeats name type (a ++ name ++ b ++ ':' :: c ++ repeatedWord ++ gap ++ type ++ d)
  | before {a gap gap' d : List Char} :
      AllBlank a → AllBlank gap → gap ≠ [] → AllBlank gap' → gap' ≠ [] → AllBlank d →
      Repeats name type (a ++ repeatedWord ++ gap ++ type ++ gap' ++ name ++ d)

namespace Repeats

variable (h : Repeats name type raw) (hn : Token name) (ht : Token type)
include h hn ht

-- Both forms fall into the same parts, whatever the words are.
theorem of?_eq : Draft.of? (trim raw) = some ⟨name, true, type⟩ := by
  cases h
  case after a b c gap d ha hb hc hg hgn hd =>
    have hvalue := token_repeatedWord.trimmed.append_between ht.trimmed token_repeatedWord.ne_nil ht.ne_nil gap
    have hof := Draft.of?_colon ha hb hc hd hn hvalue (by simp [token_repeatedWord.ne_nil])
    rw [Draft.afterColon_repeated hg hgn ht.trimmed] at hof
    simpa only [List.append_assoc, List.cons_append] using hof
  case before a gap gap' d ha hg hgn hg' hgn' hd =>
    have htrim := trim_padded ha hd <| token_repeatedWord.trimmed.append_between hn.trimmed
      token_repeatedWord.ne_nil hn.ne_nil (gap ++ type ++ gap')
    have hof := Draft.of?_words hn ht hg hgn hg' hgn'
    simp only [List.append_assoc] at htrim hof ⊢
    rw [htrim, hof]

theorem not_comma : ',' ∉ raw := by
  have hb {s : List Char} (hs : AllBlank s) : ',' ∉ s := hs.not_mem (by decide)
  cases h
  case after ha hb' hc hg _ hd =>
    simp [hb ha, hn.not_comma, hb hb', hb hc, token_repeatedWord.not_comma, hb hg, ht.not_comma, hb hd]
  case before ha hg _ hg' _ hd =>
    simp [hb ha, token_repeatedWord.not_comma, hb hg, ht.not_comma, hb hg', hn.not_comma, hb hd]

theorem not_allBlank : ¬AllBlank raw := by
  intro hb
  have hof := h.of?_eq hn ht
  rw [trim_eq_nil_iff.mpr hb, Draft.of?_nil] at hof
  cases hof

end Repeats

-- What the words are checked to is one and the same for both forms.
theorem Repeats.parse_eq {spec : String} (h : Repeats name type spec.toList) (hn : Token name)
    (ht : Token type) (typing : Typing) :
    parse typing spec = (Draft.check typing (trim spec.toList) ⟨name, true, type⟩).map ([·]) := by
  rw [parse_of_not_comma (h.not_allBlank hn ht) (h.not_comma hn ht),
    parseDefinition_of_draft (h.of?_eq hn ht)]

theorem repeated_forms_agree {name type s s' : String} (hn : Token name.toList) (ht : Token type.toList)
    (h : Repeats name.toList type.toList s.toList) (h' : Repeats name.toList type.toList s'.toList)
    (typing : Typing) :
    (∃ f, f.name = name ∧ f.type.text = type ∧ f.repeated = true ∧
      parse typing s = .ok [f] ∧ parse typing s' = .ok [f]) ∨
    (parse typing s = .error (.unknownType name type) ∧ parse typing s' = .error (.unknownType name type)) ∨
    ∃ fault, parse typing s = .error (.malformedField (trimmedText s) fault) ∧
      parse typing s' = .error (.malformedField (trimmedText s') fault) := by
  rw [h.parse_eq hn ht, h'.parse_eq hn ht]
  obtain ⟨f, ⟨hf, -⟩, hd⟩ | ⟨-, hd⟩ | ⟨fault, hd⟩ := Draft.check_cases typing ⟨name.toList, true, type.toList⟩
  all_goals rw [hd, hd]
  case inl =>
    obtain ⟨hname, hrepeated, htype⟩ := Draft.mk.inj hf.symm
    exact .inl ⟨f, String.toList_inj.mp hname, String.toList_inj.mp htype, hrepeated, rfl, rfl⟩
  case inr.inl =>
    rw [String.ofList_toList, String.ofList_toList]
    exact .inr <| .inl ⟨rfl, rfl⟩
  case inr.inr => exact .inr <| .inr ⟨fault, rfl, rfl⟩

-- The word is the name as well, and `grid` is no type. Each form is shown without the white space around it.
theorem repeated_forms_agree_grid :
    parse .lenient "repeated : repeated\tgrid " =
        .error (.malformedField "repeated : repeated\tgrid" (.type "grid")) ∧
      parse .lenient " repeated grid\u2003repeated" =
        .error (.malformedField "repeated grid\u2003repeated" (.type "grid")) := by
  have hn : Token "repeated".toList := token_repeatedWord
  have ht : Token "grid".toList := .of_isIdentifier <| by decide
  have hspace : AllBlank [' '] := by decide
  have htab : AllBlank ['\t'] := by decide
  have hwide : AllBlank ['\u2003'] := by decide
  have h : Repeats "repeated".toList "grid".toList "repeated : repeated\tgrid ".toList := by
    have hs : "repeated : repeated\tgrid ".toList = [] ++ "repeated".toList ++ [' '] ++ ':' :: [' '] ++
        repeatedWord ++ ['\t'] ++ "grid".toList ++ [' '] := by decide
    rw [hs]
    exact .after .nil hspace hspace htab (by decide) hspace
  have h' : Repeats "repeated".toList "grid".toList " repeated grid\u2003repeated".toList := by
    have hs : " repeated grid\u2003repeated".toList = [' '] ++ repeatedWord ++ [' '] ++ "grid".toList ++
        ['\u2003'] ++ "repeated".toList ++ [] := by decide
    rw [hs]
    exact .before hspace hspace (by decide) hwide (by decide) .nil
  have hfault : parse .lenient "repeated : repeated\tgrid " =
      .error (.malformedField "repeated : repeated\tgrid" (.type "grid")) := by decide +kernel
  obtain ⟨_, -, -, -, hok, -⟩ | ⟨hunknown, -⟩ | ⟨_, hs, hs'⟩ := repeated_forms_agree hn ht h h' .lenient
  case inl => cases hfault.symm.trans hok
  case inr.inl => cases hfault.symm.trans hunknown
  case inr.inr =>
    cases hfault.symm.trans hs
    exact ⟨hfault, hs'⟩

end Scaffold.Field
