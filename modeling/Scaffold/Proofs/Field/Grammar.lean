import Scaffold.Proofs.Field.Forms

namespace Scaffold.Field

open Text

variable {typing : Typing} {f f' : Field} {raw name rest : List Char} {d : Draft}

-- The ways to write a field. Words that touch are parted by a gap, which is white space and not empty.
inductive Spelled (f : Field) : List Char → Prop
  | plain {a b c d : List Char} :
      f.repeated = false → AllBlank a → AllBlank b → AllBlank c → AllBlank d →
      Spelled f (a ++ f.name.toList ++ b ++ ':' :: c ++ f.type.text.toList ++ d)
  | repeatedAfter {a b c gap d : List Char} :
      f.repeated = true → AllBlank a → AllBlank b → AllBlank c → AllBlank gap → gap ≠ [] → AllBlank d →
      Spelled f (a ++ f.name.toList ++ b ++ ':' :: c ++ repeatedWord ++ gap ++ f.type.text.toList ++ d)
  | repeatedBefore {a gap gap' d : List Char} :
      f.repeated = true → AllBlank a → AllBlank gap → gap ≠ [] → AllBlank gap' → gap' ≠ [] → AllBlank d →
      Spelled f (a ++ repeatedWord ++ gap ++ f.type.text.toList ++ gap' ++ f.name.toList ++ d)

-- A piece of text that is a field: its name and its type are well formed, and it is written as it should be.
structure Defines (raw : List Char) (f : Field) : Prop where
  wellFormed : f.WellFormed
  spelled    : f.Spelled raw

namespace WellFormed

variable (h : f.WellFormed)
include h

theorem token_name : Token f.name.toList :=
  .of_isIdentifier h.name

theorem token_type : Token f.type.text.toList :=
  .of_isIdentifier h.type.isIdentifier_text

theorem of?_of_spelled (hs : f.Spelled raw) : Draft.of? (trim raw) = some f.draft := by
  cases hs
  case plain a b c d hr ha hb hc hd =>
    rw [Draft.of?_colon ha hb hc hd h.token_name h.token_type.trimmed h.token_type.ne_nil,
      Draft.afterColon_of_not_blank h.token_type.not_blank, draft, hr]
  case repeatedAfter a b c gap d hr ha hb hc hg hgn hd =>
    have hs : Repeats f.name.toList f.type.text.toList _ := .after ha hb hc hg hgn hd
    rw [hs.of?_eq h.token_name h.token_type, draft, hr]
  case repeatedBefore a gap gap' d hr ha hg hgn hg' hgn' hd =>
    have hs : Repeats f.name.toList f.type.text.toList _ := .before ha hg hgn hg' hgn' hd
    rw [hs.of?_eq h.token_name h.token_type, draft, hr]

end WellFormed

-- A gap starts where a word has ended.
theorem gap_ne_nil {gap w r : List Char} (hw : w ≠ []) (hb : ∀ c ∈ w.head?, isBlank c = false)
    (hr : ∀ c ∈ (gap ++ (w ++ r)).head?, isBlank c = true) : gap ≠ [] := by
  rintro rfl
  obtain ⟨c, cs, rfl⟩ := List.exists_cons_of_ne_nil hw
  have hc := hr c rfl
  rw [hb c rfl] at hc
  contradiction

-- What can stand after a colon, read from the parts.
theorem exists_of_afterColon (h : Draft.afterColon name rest = d) (hn : d.type ≠ []) :
    d.name = name ∧
      (d.repeated = false ∧ rest = d.type ∨
        d.repeated = true ∧ ∃ gap b, AllBlank gap ∧ gap ≠ [] ∧ AllBlank b ∧
          rest = repeatedWord ++ (gap ++ (d.type ++ b))) := by
  simp only [Draft.afterColon] at h
  split at h
  case h_2 =>
    subst h
    exact ⟨rfl, .inl ⟨rfl, rfl⟩⟩
  case h_1 c cs hp hd =>
    split at h
    case isFalse =>
      subst h
      exact ⟨rfl, .inl ⟨rfl, rfl⟩⟩
    case isTrue hc =>
      subst h
      obtain ⟨r, rfl⟩ := List.isPrefixOf_iff_prefix.mp hp
      rw [List.drop_left] at hd
      obtain ⟨gap, b, hg, hb, hs⟩ := exists_trim_padding (c :: cs)
      rw [List.append_assoc] at hs
      have hgap : gap ≠ [] := by
        refine gap_ne_nil hn (trimmed_trim (c :: cs)).head ?_ (r := b)
        rw [←hs]
        simpa using hc
      exact ⟨rfl, .inr ⟨rfl, gap, b, hg, hgap, hb, by rw [hd, ←hs]⟩⟩

theorem spelled_of_of? (hw : f.WellFormed) (h : Draft.of? (trim raw) = some f.draft) : f.Spelled raw := by
  simp only [Draft.of?] at h
  split at h
  case h_1 name rest hcut =>
    obtain ⟨a, b, c, d, ha, hb, hc, hd, -, hraw⟩ := exists_of_cut_trim (by decide) hcut
    obtain ⟨hn, ⟨hr, hv⟩ | ⟨hr, gap, e, hg, hgn, he, hv⟩⟩ :=
      exists_of_afterColon (Option.some.inj h) hw.token_type.ne_nil
    all_goals rw [hraw, ←hn, hv]
    case inl => exact .plain hr ha hb hc hd
    case inr =>
      have hs := Spelled.repeatedAfter hr ha hb hc hg hgn (he.append hd)
      simpa [draft] using hs
  case h_2 =>
    split at h
    case h_2 => cases h
    case h_1 w type name hwords =>
      split at h
      case isFalse => cases h
      case isTrue hrep =>
        subst hrep
        obtain ⟨a, d, ha, hd, hraw⟩ := exists_trim_padding raw
        obtain ⟨a', r, ha', htrim, hr, -, -, hhead⟩ := exists_of_words_eq_cons hwords
        obtain ⟨gap, r', hg, rfl, hr', hne, hnb, hhead'⟩ := exists_of_words_eq_cons hr
        obtain ⟨gap', e, hg', rfl, he, hne', hnb', -⟩ := exists_of_words_eq_cons hr'
        have hgn := gap_ne_nil hne (fun c hc => hnb c <| List.mem_of_mem_head? hc) hhead
        have hgn' := gap_ne_nil hne' (fun c hc => hnb' c <| List.mem_of_mem_head? hc) hhead'
        have hf : ⟨name, true, type⟩ = f.draft := Option.some.inj h
        have hn : name = f.name.toList := congrArg Draft.name hf
        have hrep : f.repeated = true := (congrArg Draft.repeated hf).symm
        have ht : type = f.type.text.toList := congrArg Draft.type hf
        have hs := Spelled.repeatedBefore hrep (ha.append ha') hg hgn hg' hgn'
          ((words_eq_nil_iff.mp he).append hd)
        rw [hraw, htrim, hn, ht]
        simpa using hs

-- A definition is read exactly as the field that it defines, if the field passes the checks.
theorem parseDefinition_eq_ok_iff_defines :
    parseDefinition typing raw = .ok f ↔ Defines raw f ∧ f.Accepted typing := by
  rw [parseDefinition_eq_ok_iff]
  constructor
  case mp =>
    rintro ⟨h, ha⟩
    exact ⟨⟨ha.toWellFormed, spelled_of_of? ha.toWellFormed h⟩, ha⟩
  case mpr =>
    rintro ⟨h, ha⟩
    exact ⟨h.wellFormed.of?_of_spelled h.spelled, ha⟩

theorem parseDefinition_lenient_eq_ok_iff : parseDefinition .lenient raw = .ok f ↔ Defines raw f :=
  parseDefinition_eq_ok_iff_defines.trans <|
    and_iff_left_of_imp fun h => h.wellFormed.accepted_lenient

-- Reading is a function, so a piece defines one field at most.
theorem Defines.unique (h : Defines raw f) (h' : Defines raw f') : f = f' := by
  have hr := parseDefinition_lenient_eq_ok_iff.mpr h
  rw [parseDefinition_lenient_eq_ok_iff.mpr h'] at hr
  exact (Except.ok.inj hr).symm

theorem parseDefinition_lenient_eq_error {e : SpecError} (h : parseDefinition .lenient raw = .error e) :
    ∃ fault, e = .malformedField (String.ofList (trim raw)) fault := by
  obtain hf | ⟨_, _, -, hk⟩ := parseDefinition_eq_error h
  case inl => exact hf
  case inr => cases hk

theorem Defines.not_allBlank (h : Defines raw f) : ¬AllBlank raw := by
  intro hb
  have hr := parseDefinition_lenient_eq_ok_iff.mpr h
  rw [parseDefinition_of_allBlank hb] at hr
  cases hr

-- A text of white space has one piece, which is blank as well.
theorem Defines.not_allBlank_of_mem {s : List Char} (h : Defines raw f) (hm : raw ∈ s.splitOn ',') :
    ¬AllBlank s := by
  intro hb
  rw [splitOn_of_allBlank (by decide) hb, List.mem_singleton] at hm
  exact h.not_allBlank <| hm ▸ hb

theorem not_forall₂_defines_of_allBlank {s : List Char} {fs : List Field} (h : AllBlank s) :
    ¬List.Forall₂ Defines (s.splitOn ',') fs := by
  rw [splitOn_of_allBlank (by decide) h]
  rintro (_ | ⟨hd, -⟩)
  exact hd.not_allBlank h

theorem parse_lenient_eq_ok_iff {spec : String} {fs : List Field} :
    parse .lenient spec = .ok fs ↔
      AllBlank spec.toList ∧ fs = [] ∨ List.Forall₂ Defines (spec.toList.splitOn ',') fs := by
  by_cases hb : AllBlank spec.toList
  case pos => simp [parse_of_allBlank hb, hb, not_forall₂_defines_of_allBlank hb, eq_comm]
  case neg =>
    rw [parse_of_not_allBlank hb, mapM_eq_ok_iff]
    simp only [parseDefinition_lenient_eq_ok_iff, hb, false_and, false_or]

theorem parse_lenient_eq_error {spec : String} {e : SpecError} (h : parse .lenient spec = .error e) :
    ∃ definition fault, e = .malformedField definition fault := by
  obtain ⟨-, _, _, _, -, -, hraw⟩ := parse_eq_error_iff.mp h
  exact ⟨_, parseDefinition_lenient_eq_error hraw⟩

theorem grammar_decides :
    (∀ spec, (∃ fs, parse .lenient spec = .ok fs) ↔
      AllBlank spec.toList ∨ ∀ piece ∈ spec.toList.splitOn ',', ∃ f, Defines piece f) ∧
    (∀ spec fs, parse .lenient spec = .ok fs ↔
      AllBlank spec.toList ∧ fs = [] ∨ List.Forall₂ Defines (spec.toList.splitOn ',') fs) ∧
    (∀ spec fs, parse .lenient spec = .ok fs → ¬AllBlank spec.toList →
      fs.length = spec.toList.count ',' + 1) ∧
    (∀ piece f f', Defines piece f → Defines piece f' → f = f') ∧
    (∀ spec e, parse .lenient spec = .error e → ∃ definition fault, e = .malformedField definition fault) := by
  refine ⟨fun spec => ?_, fun _ _ => parse_lenient_eq_ok_iff, fun spec fs h hb => ?_,
    fun _ _ _ => Defines.unique, fun _ _ => parse_lenient_eq_error⟩
  · rw [←exists_forall₂_iff]
    simp only [parse_lenient_eq_ok_iff, exists_or, exists_and_left, exists_eq, and_true]
  · obtain ⟨ha, -⟩ | hd := parse_lenient_eq_ok_iff.mp h
    case inl => contradiction
    case inr => rw [←hd.length_eq, length_splitOn]

-- The word is a name before the first comma and a word after it. The gaps are a tab and a space of their own.
theorem grammar_decides_repeated :
    parse .lenient "repeated:Repeated,repeated\tint64\u2003ids " =
        .ok [⟨"repeated", .message "Repeated", false⟩, ⟨"ids", .primitive .int64, true⟩] ∧
      Defines "repeated\tint64\u2003ids ".toList ⟨"ids", .primitive .int64, true⟩ := by
  have h : parse .lenient "repeated:Repeated,repeated\tint64\u2003ids " =
      .ok [⟨"repeated", .message "Repeated", false⟩, ⟨"ids", .primitive .int64, true⟩] := by decide +kernel
  have hb : ¬AllBlank "repeated:Repeated,repeated\tint64\u2003ids ".toList := by decide +kernel
  obtain ⟨hb', -⟩ | hd := (grammar_decides.2.1 _ _).mp h
  case inl => contradiction
  case inr =>
    have hs : "repeated:Repeated,repeated\tint64\u2003ids ".toList.splitOn ',' =
        ["repeated:Repeated".toList, "repeated\tint64\u2003ids ".toList] := by decide +kernel
    rw [hs] at hd
    obtain _ | ⟨-, _ | ⟨hids, -⟩⟩ := hd
    exact ⟨h, hids⟩

end Scaffold.Field
