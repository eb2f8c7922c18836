import Scaffold.Field.Parser
import Scaffold.Proofs.Checks
import Scaffold.Proofs.Text.Identifier

namespace Scaffold

open Text

namespace Primitive

theorem isIdentifier_text (p : Primitive) : isIdentifier p.text.toList = true := by
  cases p <;> decide

theorem isTypeName_text (p : Primitive) : isTypeName p.text.toList = false := by
  cases p <;> decide

-- Primitives are written in lower case, so that no message can be taken for one.
theorem ofText?_eq_none_of_isTypeName {s : String} (h : isTypeName s.toList = true) :
    ofText? s = none := by
  cases hp : ofText? s
  case none => rfl
  case some p => simp [ofText?_eq_some_iff.mp hp, isTypeName_text] at h

end Primitive

theorem FieldType.WellFormed.isIdentifier_text {t : FieldType} (h : t.WellFormed) :
    isIdentifier t.text.toList = true := by
  cases t
  case primitive p => exact p.isIdentifier_text
  case message n   => exact isIdentifier_of_isTypeName h

namespace Field

-- A field that the checks let pass: its names are well formed, and its message type, if it has one, is
-- known.
structure Accepted (typing : Typing) (f : Field) : Prop extends WellFormed f where
  known : ∀ n, f.type.message? = some n → typing.knows n = true

theorem WellFormed.accepted_lenient {f : Field} (h : f.WellFormed) : f.Accepted .lenient where
  toWellFormed := h
  known _ _ := rfl

def draft (f : Field) : Draft where
  name := f.name.toList
  repeated := f.repeated
  type := f.type.text.toList

variable {typing : Typing} {definition name type raw : List Char} {f : Field} {spec : String}

-- A type is read from the text that it has if it is well formed and known, and otherwise there is a fault that
-- does not depend on the definition around it, which is only shown.
theorem typeOf_cases (typing : Typing) (name type : List Char) :
    (∃ t : FieldType,
      (t.text.toList = type ∧ t.WellFormed ∧ ∀ n, t.message? = some n → typing.knows n = true) ∧
      ∀ definition, typeOf typing definition name type = .ok t) ∨
    typing.knows (String.ofList type) = false ∧ (∀ definition, typeOf typing definition name type =
      .error (.unknownType (String.ofList name) (String.ofList type))) ∨
    ∃ fault, ∀ definition, typeOf typing definition name type =
      .error (.malformedField (String.ofList definition) fault) := by
  cases hp : Primitive.ofText? (String.ofList type)
  case some p =>
    have htext : (FieldType.primitive p).text.toList = type := by
      rw [FieldType.text, ←Primitive.ofText?_eq_some_iff.mp hp, String.toList_ofList]
    exact .inl ⟨.primitive p, ⟨htext, trivial, fun _ hn => nomatch hn⟩, fun _ => by simp only [typeOf, hp]⟩
  case none =>
    cases ht : isTypeName type
    case false => exact .inr <| .inr ⟨.type (String.ofList type), fun _ => by simp [typeOf, hp, ht]⟩
    case true =>
      cases hk : typing.knows (String.ofList type)
      case false => exact .inr <| .inl ⟨rfl, fun _ => by simp [typeOf, hp, ht, hk]⟩
      case true =>
        have htext : (FieldType.message (String.ofList type)).text.toList = type := String.toList_ofList
        have hw : (FieldType.message (String.ofList type)).WellFormed := by simpa [FieldType.WellFormed] using ht
        refine .inl ⟨.message (String.ofList type), ⟨htext, hw, fun n hn => ?_⟩, fun _ => ?_⟩
        · cases hn
          exact hk
        · simp [typeOf, hp, ht, hk]

theorem typeOf_eq_ok_iff {t : FieldType} :
    typeOf typing definition name type = .ok t ↔
      t.text.toList = type ∧ t.WellFormed ∧ ∀ n, t.message? = some n → typing.knows n = true := by
  constructor
  case mp =>
    intro h
    obtain ⟨t', ht, hd⟩ | ⟨-, hd⟩ | ⟨_, hd⟩ := typeOf_cases typing name type
    all_goals cases (hd definition).symm.trans h
    case inl => exact ht
  case mpr =>
    rintro ⟨rfl, hw, hk⟩
    simp only [typeOf, String.ofList_toList]
    cases t
    case primitive p => simp [FieldType.text, Primitive.ofText?_eq_some_iff.mpr rfl]
    case message n =>
      have hn : isTypeName n.toList = true := hw
      simp [FieldType.text, Primitive.ofText?_eq_none_of_isTypeName hn, hn, hk n rfl]

theorem Draft.check_cases (typing : Typing) (d : Draft) :
    (∃ f : Field, (d = f.draft ∧ f.Accepted typing) ∧ ∀ definition, d.check typing definition = .ok f) ∨
    typing.knows (String.ofList d.type) = false ∧ (∀ definition, d.check typing definition =
      .error (.unknownType (String.ofList d.name) (String.ofList d.type))) ∨
    ∃ fault, ∀ definition, d.check typing definition =
      .error (.malformedField (String.ofList definition) fault) := by
  cases hi : isIdentifier d.name
  case false =>
    exact .inr <| .inr ⟨.name (String.ofList d.name), fun _ => by simp [check, hi]⟩
  case true =>
    obtain ⟨t, ⟨htext, hw, hk⟩, ht⟩ | ⟨hk, ht⟩ | ⟨fault, ht⟩ := typeOf_cases typing d.name d.type
    case inl =>
      refine .inl ⟨⟨String.ofList d.name, t, d.repeated⟩, ⟨?_, ⟨?_, hw⟩, hk⟩, fun _ => ?_⟩
      · simp [draft, htext]
      · simpa using hi
      · simp only [check, hi, ht, if_true]
        rfl
    case inr.inl => exact .inr <| .inl ⟨hk, fun _ => by simp [check, hi, ht]⟩
    case inr.inr => exact .inr <| .inr ⟨fault, fun _ => by simp [check, hi, ht]⟩

theorem Draft.check_eq_ok_iff {d : Draft} :
    d.check typing definition = .ok f ↔ d = f.draft ∧ f.Accepted typing := by
  constructor
  case mp =>
    intro h
    obtain ⟨f', hf, hd⟩ | ⟨-, hd⟩ | ⟨_, hd⟩ := d.check_cases typing
    all_goals cases (hd definition).symm.trans h
    case inl => exact hf
  case mpr =>
    rintro ⟨rfl, h⟩
    have ht : typeOf typing definition f.name.toList f.type.text.toList = .ok f.type :=
      typeOf_eq_ok_iff.mpr ⟨rfl, h.type, h.known⟩
    simp only [check, draft, h.name, if_true, ht, String.ofList_toList]
    rfl

theorem Draft.of?_nil : Draft.of? [] = none := by
  decide

theorem parseDefinition_eq_ok_iff :
    parseDefinition typing raw = .ok f ↔ Draft.of? (trim raw) = some f.draft ∧ f.Accepted typing := by
  simp only [parseDefinition]
  split
  case isTrue h => simp [h, Draft.of?_nil]
  case isFalse h =>
    split
    case h_1 d hd => simp [hd, Draft.check_eq_ok_iff]
    case h_2 hd   => simp [hd]

theorem parseDefinition_trim (typing : Typing) (raw : List Char) :
    parseDefinition typing (trim raw) = parseDefinition typing raw := by
  simp only [parseDefinition, trim_trim]

theorem parseDefinition_of_allBlank (h : AllBlank raw) :
    parseDefinition typing raw = .error (.malformedField "" .empty) := by
  simp [parseDefinition, trim_eq_nil_iff.mpr h]

-- A fault of a definition shows the definition as it stands between its padding.
theorem parseDefinition_eq_error {e : SpecError} (h : parseDefinition typing raw = .error e) :
    (∃ fault, e = .malformedField (String.ofList (trim raw)) fault) ∨
      ∃ field type, e = .unknownType field type ∧ typing.knows type = false := by
  simp only [parseDefinition] at h
  split at h
  case isTrue hn =>
    cases h
    rw [hn]
    exact .inl ⟨_, rfl⟩
  case isFalse =>
    split at h
    case h_2 =>
      cases h
      exact .inl ⟨_, rfl⟩
    case h_1 d _ =>
      obtain ⟨f, -, hd⟩ | ⟨hk, hd⟩ | ⟨fault, hd⟩ := d.check_cases typing
      all_goals
        rw [hd] at h
        cases h
      case inr.inl => exact .inr ⟨_, _, rfl, hk⟩
      case inr.inr => exact .inl ⟨fault, rfl⟩

theorem parse_of_allBlank (h : AllBlank spec.toList) : parse typing spec = .ok [] := by
  rw [parse, if_pos h]

theorem parse_of_not_allBlank (h : ¬AllBlank spec.toList) :
    parse typing spec = (spec.toList.splitOn ',').mapM (parseDefinition typing) := by
  rw [parse, if_neg h]

-- Pieces are read from left to right, and the first that is refused decides.
theorem parse_eq_error_iff {e : SpecError} :
    parse typing spec = .error e ↔
      ¬AllBlank spec.toList ∧ ∃ pre raw post, spec.toList.splitOn ',' = pre ++ raw :: post ∧
        (∀ p ∈ pre, ∃ f, parseDefinition typing p = .ok f) ∧ parseDefinition typing raw = .error e := by
  by_cases hb : AllBlank spec.toList
  case pos => simp [parse_of_allBlank hb, hb]
  case neg => simp only [parse_of_not_allBlank hb, mapM_eq_error_iff, hb, not_false_eq_true, true_and]

-- A text without a comma is one definition.
theorem parse_of_not_comma (h : ¬AllBlank spec.toList) (hc : ',' ∉ spec.toList) :
    parse typing spec = (parseDefinition typing spec.toList).map ([·]) := by
  rw [parse_of_not_allBlank h, List.splitOn_eq_singleton hc, List.mapM_cons]
  cases parseDefinition typing spec.toList <;> rfl

theorem parseDefinition_of_draft {d : Draft} (h : Draft.of? (trim raw) = some d) :
    parseDefinition typing raw = d.check typing (trim raw) := by
  have hn : trim raw ≠ [] := by
    intro hn
    rw [hn, Draft.of?_nil] at h
    cases h
  simp only [parseDefinition, if_neg hn, h]

-- A text without white space after the colon is all type, even if it begins with `repeated`.
theorem Draft.afterColon_of_not_blank {rest : List Char} (h : ∀ c ∈ rest, isBlank c = false) :
    afterColon name rest = ⟨name, false, rest⟩ := by
  simp only [afterColon]
  split
  case h_2 => rfl
  case h_1 c cs _ hd =>
    have : c ∈ rest := List.mem_of_mem_drop <| hd ▸ List.mem_cons_self
    simp [h c this]

theorem Draft.afterColon_repeated {gap : List Char} (hg : AllBlank gap) (hn : gap ≠ []) (h : Trimmed type) :
    afterColon name (repeatedWord ++ (gap ++ type)) = ⟨name, true, type⟩ := by
  have ht : trim (gap ++ type) = type := (trim_append_of_allBlank hg type).trans h.trim_eq
  obtain ⟨c, cs, rfl⟩ := List.exists_cons_of_ne_nil hn
  rw [List.cons_append] at ht ⊢
  have hp : repeatedWord.isPrefixOf (repeatedWord ++ c :: (cs ++ type)) = true := by
    simp [List.isPrefixOf_iff_prefix]
  simp [afterColon, hp, ht, hg c List.mem_cons_self]

end Field
end Scaffold
