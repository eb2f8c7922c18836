import Scaffold.Proofs.Field.RoundTrip
import Scaffold.Proofs.Field.Strict

namespace Scaffold

namespace Text

variable {s : List Char}

-- What is left of a text once all white space is taken out, between its words as well.
def withoutBlanks (s : List Char) : List Char :=
  s.filter fun c => !isBlank c

@[simp]
theorem withoutBlanks_nil : withoutBlanks [] = [] :=
  rfl

@[simp]
theorem withoutBlanks_append (s t : List Char) : withoutBlanks (s ++ t) = withoutBlanks s ++ withoutBlanks t :=
  List.filter_append ..

theorem withoutBlanks_cons {c : Char} (hc : isBlank c = false) (s : List Char) :
    withoutBlanks (c :: s) = c :: withoutBlanks s := by
  simp [withoutBlanks, hc]

theorem withoutBlanks_cons_of_blank {c : Char} (hc : isBlank c = true) (s : List Char) :
    withoutBlanks (c :: s) = withoutBlanks s := by
  simp [withoutBlanks, hc]

theorem AllBlank.withoutBlanks_eq (h : AllBlank s) : withoutBlanks s = [] := by
  rw [withoutBlanks, List.filter_eq_nil_iff]
  intro c hc
  simp [h c hc]

theorem withoutBlanks_eq_self_iff : withoutBlanks s = s ↔ ∀ c ∈ s, isBlank c = false := by
  simp [withoutBlanks]

theorem withoutBlanks_intercalate {d : Char} (hd : isBlank d = false) (xs : List (List Char)) :
    withoutBlanks ([d].intercalate xs) = [d].intercalate (xs.map withoutBlanks) := by
  induction xs
  case nil => rfl
  case cons x xs ih =>
    cases xs
    case nil => simp
    case cons y ys =>
      rw [List.intercalate_cons_cons, withoutBlanks_append, withoutBlanks_append, ih, withoutBlanks_cons hd]
      simp [List.intercalate_cons_cons]

end Text

namespace Field

open Text

variable {typing : Typing} {f : Field} {fs : List Field} {spec : String} {raw : List Char}
variable {pieces : List (List Char)}

theorem isBlank_colon : isBlank ':' = false := by
  decide

theorem isBlank_space : isBlank ' ' = true := by
  decide

-- Only where the colon is missing do the name and the type change places.
theorem Spelled.withoutBlanks_eq (h : f.Spelled raw) (hw : f.WellFormed) (hcolon : ':' ∈ raw) :
    withoutBlanks raw = withoutBlanks f.text.toList := by
  rw [toList_text, value]
  cases h
  case plain hr ha hb hc hd =>
    simp [hr, ha.withoutBlanks_eq, hb.withoutBlanks_eq, hc.withoutBlanks_eq, hd.withoutBlanks_eq,
      withoutBlanks_cons isBlank_colon]
  case repeatedAfter hr ha hb hc hg _ hd =>
    simp [hr, ha.withoutBlanks_eq, hb.withoutBlanks_eq, hc.withoutBlanks_eq, hg.withoutBlanks_eq,
      hd.withoutBlanks_eq, withoutBlanks_cons isBlank_colon, withoutBlanks_cons_of_blank isBlank_space]
  case repeatedBefore hr ha hg _ hg' _ hd =>
    have hn {s : List Char} (hs : AllBlank s) : ':' ∉ s := hs.not_mem isBlank_colon
    simp [hn ha, token_repeatedWord.not_colon, hn hg, hw.token_type.not_colon, hn hg', hw.token_name.not_colon,
      hn hd] at hcolon

theorem map_withoutBlanks_eq (h : List.Forall₂ Defines pieces fs) (hc : ∀ p ∈ pieces, ':' ∈ p) :
    pieces.map withoutBlanks = (fs.map (·.text.toList)).map withoutBlanks := by
  induction h
  case nil => rfl
  case cons p f ps fs hd _ ih =>
    obtain ⟨hp, hps⟩ := List.forall_mem_cons.mp hc
    simp only [List.map_cons]
    rw [hd.spelled.withoutBlanks_eq hd.wellFormed hp, ih hps]

theorem withoutBlanks_textAll (h : List.Forall₂ Defines (spec.toList.splitOn ',') fs)
    (hc : ∀ p ∈ spec.toList.splitOn ',', ':' ∈ p) :
    withoutBlanks (textAll fs).toList = withoutBlanks spec.toList := by
  have hcomma : isBlank ',' = false := by decide
  calc withoutBlanks (textAll fs).toList
    _ = [','].intercalate ((fs.map (·.text.toList)).map withoutBlanks) := by
      rw [toList_textAll, withoutBlanks_intercalate hcomma]
    _ = [','].intercalate ((spec.toList.splitOn ',').map withoutBlanks) := by
      rw [map_withoutBlanks_eq h hc]
    _ = withoutBlanks spec.toList := by
      rw [←withoutBlanks_intercalate hcomma, List.intercalate_splitOn]

theorem WellFormed.not_blank_text_iff (h : f.WellFormed) :
    (∀ c ∈ f.text.toList, isBlank c = false) ↔ f.repeated = false := by
  rw [toList_text, value]
  cases f.repeated
  case true =>
    refine iff_of_false (fun hn => ?_) (by simp)
    have hf := hn ' ' (by simp)
    rw [isBlank_space] at hf
    contradiction
  case false =>
    refine iff_of_true (fun c hc => ?_) rfl
    simp only [Bool.false_eq_true, if_false, List.mem_append, List.mem_cons] at hc
    obtain hc | rfl | hc := hc
    · exact h.token_name.not_blank c hc
    · exact isBlank_colon
    · exact h.token_type.not_blank c hc

theorem not_blank_textAll_iff (h : ∀ f ∈ fs, f.WellFormed) :
    (∀ c ∈ (textAll fs).toList, isBlank c = false) ↔ ∀ f ∈ fs, f.repeated = false := by
  rw [toList_textAll, forall_mem_intercalate_iff (by decide), List.forall_mem_map]
  exact forall₂_congr fun f hf => (h f hf).not_blank_text_iff

-- Every space is the one between `repeated` and a type, with which the definition ends.
def Spaced (s : List Char) : Prop :=
  ∀ front back, s = front ++ ' ' :: back →
    ":repeated".toList <:+ front ∧
    ∃ (t : FieldType) (rest : List Char), t.WellFormed ∧ back = t.text.toList ++ rest ∧ ∀ c ∈ rest.head?, c = ','

namespace Spaced

variable {s t : List Char}

theorem of_not_mem (h : ' ' ∉ s) : Spaced s := by
  rintro front back rfl
  exact absurd (by simp) h

-- A space of two lists is one of the first, with more behind it, or one of the second, with more before it.
theorem append_comma (hs : Spaced s) (ht : Spaced t) : Spaced (s ++ ',' :: t) := by
  intro front back h
  obtain ⟨m, rfl, hm⟩ | ⟨m, rfl, hm⟩ := List.append_eq_append_iff.mp h
  case inl =>
    cases m
    case nil => simp at hm
    case cons c m =>
      obtain ⟨rfl, rfl⟩ := List.cons.inj hm
      obtain ⟨hfront, hback⟩ := ht m back rfl
      exact ⟨hfront.trans <| (List.suffix_cons _ _).trans <| List.suffix_append _ _, hback⟩
  case inr =>
    cases m
    case nil => simp at hm
    case cons c m =>
      obtain ⟨rfl, rfl⟩ := List.cons.inj hm
      obtain ⟨hfront, type, rest, hw, rfl, hrest⟩ := hs front m rfl
      refine ⟨hfront, type, rest ++ ',' :: t, hw, by simp, fun c hc => ?_⟩
      cases rest
      case nil          => simpa [eq_comm] using hc
      case cons c' rest => exact hrest c hc

theorem intercalate {xs : List (List Char)} (h : ∀ x ∈ xs, Spaced x) : Spaced ([','].intercalate xs) := by
  induction xs
  case nil => exact .of_not_mem (by simp)
  case cons x xs ih =>
    obtain ⟨hx, hxs⟩ := List.forall_mem_cons.mp h
    cases xs
    case nil => simpa using hx
    case cons y ys =>
      rw [List.intercalate_cons_cons, List.append_assoc]
      exact hx.append_comma <| ih hxs

end Spaced

theorem WellFormed.spaced_text (h : f.WellFormed) : Spaced f.text.toList := by
  have hnone {w : List Char} (hw : Token w) : ' ' ∉ w := fun hm => by
    simpa [isBlank_space] using hw.not_blank ' ' hm
  rw [toList_text, value]
  cases f.repeated
  case false => exact .of_not_mem <| by simp [hnone h.token_name, hnone h.token_type]
  case true =>
    intro front back hs
    have hword : ":repeated".toList = ':' :: repeatedWord := by decide
    have hfront : ' ' ∉ f.name.toList ++ ':' :: repeatedWord := by
      simp [hnone h.token_name, hnone token_repeatedWord]
    rw [if_pos rfl, ←List.cons_append, ←List.append_assoc] at hs
    obtain ⟨rfl, -, rfl⟩ := (List.append_cons_inj_of_notMem hfront (hnone h.token_type)).mp hs
    exact ⟨hword ▸ List.suffix_append _ _, f.type, [], h.type, by simp, by simp⟩

theorem spaced_textAll (h : ∀ f ∈ fs, f.WellFormed) : Spaced (textAll fs).toList := by
  rw [toList_textAll]
  refine .intercalate fun x hx => ?_
  obtain ⟨f, hf, rfl⟩ := List.mem_map.mp hx
  exact (h f hf).spaced_text

theorem only_white_space_changes (h : parse typing spec = .ok fs)
    (hc : AllBlank spec.toList ∨ ∀ p ∈ spec.toList.splitOn ',', ':' ∈ p) :
    withoutBlanks (textAll fs).toList = withoutBlanks spec.toList ∧
    ((textAll fs).toList = withoutBlanks spec.toList ↔ ∀ f ∈ fs, f.repeated = false) := by
  have hw : ∀ f ∈ fs, f.WellFormed := fun f hf => (accepted_of_parse h f hf).toWellFormed
  have hsame : withoutBlanks (textAll fs).toList = withoutBlanks spec.toList := by
    obtain ⟨hb, rfl⟩ | hd := parse_lenient_eq_ok_iff.mp <| parse_lenient_of_parse h
    case inl => rw [hb.withoutBlanks_eq]; rfl
    case inr =>
      refine withoutBlanks_textAll hd <| hc.resolve_left fun hb => ?_
      exact not_forall₂_defines_of_allBlank hb hd
  refine ⟨hsame, ?_⟩
  rw [←hsame, ←not_blank_textAll_iff hw, ←withoutBlanks_eq_self_iff]
  exact eq_comm

-- The first list has an em space before its colon. The second one is repeated, so one space is put in.
theorem only_white_space_changes_owner :
    (∃ fs, parse (.strict ["USER"]) "owner\u2003: User ,\tid:int64" = .ok fs ∧ textAll fs = "owner:User,id:int64" ∧
      (textAll fs).toList = withoutBlanks "owner\u2003: User ,\tid:int64".toList) ∧
    ∃ fs, parse .lenient "tags :repeated  string" = .ok fs ∧ textAll fs = "tags:repeated string" ∧
      withoutBlanks (textAll fs).toList = withoutBlanks "tags :repeated  string".toList ∧
      (textAll fs).toList ≠ withoutBlanks "tags :repeated  string".toList := by
  constructor
  case left =>
    have h : parse (.strict ["USER"]) "owner\u2003: User ,\tid:int64" =
        .ok [⟨"owner", .message "User", false⟩, ⟨"id", .primitive .int64, false⟩] := by decide +kernel
    have hc : ∀ p ∈ "owner\u2003: User ,\tid:int64".toList.splitOn ',', ':' ∈ p := by decide +kernel
    exact ⟨_, h, by decide +kernel, (only_white_space_changes h <| .inr hc).2.mpr (by simp)⟩
  case right =>
    have h : parse .lenient "tags :repeated  string" = .ok [⟨"tags", .primitive .string, true⟩] := by
      decide +kernel
    have hc : ∀ p ∈ "tags :repeated  string".toList.splitOn ',', ':' ∈ p := by decide +kernel
    obtain ⟨hsame, hiff⟩ := only_white_space_changes h <| .inr hc
    exact ⟨_, h, by decide +kernel, hsame, hiff.not.mpr (by simp)⟩

end Field
end Scaffold
