import Mathlib.Data.List.TakeWhile
import Mathlib.Data.Nat.Find
import Scaffold.Http.Template
import Scaffold.Proofs.Checks

namespace Scaffold

open Text

namespace Template

variable {s t b pre post left : List Char} {ps qs : List Part} {bs : List (List Char)} {path : String}

-- A text without braces.
def Plain (s : List Char) : Prop :=
  ∀ c ∈ s, isBrace c = false

-- Only the characters of the text are looked at, not all there are.
instance : DecidablePred Plain := fun s =>
  List.decidableBAll (isBrace · = false) s

def Part.content : Part → List Char
  | literal t => t
  | placeholder b => b

-- The text is that of the parts, none of which has a brace inside.
structure Spells (ps : List Part) (s : List Char) : Prop where
  plain : ∀ p ∈ ps, Plain p.content
  text  : ps.flatMap Part.text = s

-- Something that looks like a placeholder stands behind `pre`.
structure Match (s pre b post : List Char) : Prop where
  text  : s = pre ++ '{' :: b ++ '}' :: post
  plain : Plain b

structure Leftmost (s pre b post : List Char) : Prop extends Match s pre b post where
  le : ∀ {pre' b' post'}, Match s pre' b' post' → pre.length ≤ pre'.length

-- All matches from left to right, each behind the one before, and what is left once they are deleted.
inductive Matches : List Char → List (List Char) → List Char → Prop
  | none {s : List Char} : (∀ pre b post, ¬Match s pre b post) → Matches s [] s
  | next {s pre b post left : List Char} {bs : List (List Char)} :
      Leftmost s pre b post → Matches post bs left → Matches s (b :: bs) (pre ++ left)

namespace Plain

theorem nil : Plain [] := by
  simp [Plain]

theorem append (hs : Plain s) (ht : Plain t) : Plain (s ++ t) := by
  intro c hc
  exact (List.mem_append.mp hc).elim (hs c) (ht c)

theorem of_append (h : Plain (s ++ t)) : Plain s ∧ Plain t :=
  ⟨fun c hc => h c <| List.mem_append_left _ hc, fun c hc => h c <| List.mem_append_right _ hc⟩

end Plain

theorem upToBrace_append (hs : Plain s) (ht : ∀ c ∈ t.head?, isBrace c = true) : upToBrace (s ++ t) = (s, t) := by
  have hp : ∀ c ∈ s, (!isBrace c) = true := by simpa [Plain] using hs
  rw [upToBrace, List.takeWhile_append_of_pos hp, List.dropWhile_append_of_pos hp]
  cases t
  case nil       => simp
  case cons c cs => simp [ht c rfl]

theorem eq_of_upToBrace (h : upToBrace s = (t, post)) : s = t ++ post ∧ Plain t := by
  obtain ⟨rfl, rfl⟩ := Prod.mk.inj h
  refine ⟨List.takeWhile_append_dropWhile.symm, fun c hc => ?_⟩
  simpa using List.mem_takeWhile_imp hc

theorem parts?_of_plain (hs : Plain s) : parts? s = some [.literal s] := by
  have h := upToBrace_append hs (t := []) (by simp)
  rw [List.append_nil] at h
  rw [parts?]
  split <;> simp_all

theorem parts?_append (ht : Plain t) (hb : Plain b) :
    parts? (t ++ '{' :: b ++ '}' :: s) = (parts? s).map fun ps => .literal t :: .placeholder b :: ps := by
  have h₁ : upToBrace (t ++ ('{' :: b ++ '}' :: s)) = (t, '{' :: b ++ '}' :: s) :=
    upToBrace_append ht (by simp [isBrace])
  have h₂ : upToBrace (b ++ '}' :: s) = (b, '}' :: s) := upToBrace_append hb (by simp [isBrace])
  rw [List.append_assoc, parts?]
  split
  case h_3 u rest h =>
    cases h₁.symm.trans h
    split
    case h_1 a rest' h =>
      cases h₂.symm.trans h
      rfl
    case h_2 h => exact absurd h₂ <| h _ _
  case h_4 hopen h =>
    cases h₁.symm.trans h
    exact absurd rfl hopen
  all_goals simp_all

-- Taking a path apart loses nothing.
theorem spells_of_parts? (h : parts? s = some ps) : Spells ps s := by
  fun_induction parts? s generalizing ps
  case case1 t hs =>
    cases h
    obtain ⟨rfl, ht⟩ := eq_of_upToBrace hs
    exact ⟨by simpa [Part.content] using ht, by simp [Part.text]⟩
  case case3 t rest hs b rest' hrest ih =>
    obtain ⟨qs, hqs, rfl⟩ := Option.map_eq_some_iff.mp h
    obtain ⟨rfl, ht⟩ := eq_of_upToBrace hs
    obtain ⟨rfl, hb⟩ := eq_of_upToBrace hrest
    have hq := ih hqs
    refine ⟨?_, by simp [Part.text, hq.text]⟩
    simpa [Part.content] using ⟨ht, hb, hq.plain⟩
  all_goals cases h

-- Literal texts that touch are read as one. Where they are cut does not change the placeholders.
theorem exists_parts?_append (hs : Plain s) (hps : ∀ p ∈ ps, Plain p.content) :
    ∃ qs, parts? (s ++ ps.flatMap Part.text) = some qs ∧ placeholders qs = placeholders ps := by
  induction ps generalizing s
  case nil => exact ⟨[.literal s], by rw [List.flatMap_nil, List.append_nil, parts?_of_plain hs], rfl⟩
  case cons p ps ih =>
    obtain ⟨hp, htail⟩ := List.forall_mem_cons.mp hps
    cases p
    case literal t =>
      obtain ⟨qs, hqs, hq⟩ := ih (hs.append hp) htail
      refine ⟨qs, ?_, hq⟩
      rw [←hqs, List.flatMap_cons, Part.text, Part.content, List.append_assoc]
    case placeholder b =>
      obtain ⟨qs, hqs, hq⟩ := ih .nil htail
      have hparts := parts?_append hs hp (s := ps.flatMap Part.text)
      rw [List.nil_append] at hqs
      rw [hqs, Option.map_some] at hparts
      refine ⟨.literal s :: .placeholder b :: qs, ?_, ?_⟩
      · simpa [Part.text, Part.content] using hparts
      · simpa [placeholders] using hq

theorem Spells.exists_parts? (h : Spells ps s) : ∃ qs, parts? s = some qs ∧ placeholders qs = placeholders ps := by
  obtain ⟨hp, rfl⟩ := h
  exact exists_parts?_append .nil hp

theorem parts?_eq_none_iff : parts? s = none ↔ ¬∃ ps, Spells ps s := by
  constructor
  case mp =>
    rintro h ⟨ps, hps⟩
    obtain ⟨qs, hqs, -⟩ := hps.exists_parts?
    cases h.symm.trans hqs
  case mpr =>
    intro h
    cases hs : parts? s
    case none    => rfl
    case some ps => exact absurd ⟨ps, spells_of_parts? hs⟩ h

theorem exists_match_of_spells (h : Spells ps s) (hs : ¬Plain s) :
    ∃ pre b post, Match s pre b post ∧ Plain pre := by
  obtain ⟨hps, rfl⟩ := h
  induction ps
  case nil => exact absurd .nil hs
  case cons p ps ih =>
    obtain ⟨hp, htail⟩ := List.forall_mem_cons.mp hps
    cases p
    case placeholder b => exact ⟨[], b, ps.flatMap Part.text, ⟨by simp [Part.text], hp⟩, .nil⟩
    case literal t =>
      obtain ⟨pre, b, post, hm, hpre⟩ := ih htail fun hplain => hs <| hp.append hplain
      refine ⟨t ++ pre, b, post, ⟨?_, hm.plain⟩, hp.append hpre⟩
      rw [List.flatMap_cons, hm.text, Part.text]
      simp only [List.append_assoc]

theorem Match.exists_leftmost (h : Match s pre b post) : ∃ pre b post, Leftmost s pre b post := by
  classical
  have hn : ∃ n pre b post, Match s pre b post ∧ pre.length = n := ⟨_, _, _, _, h, rfl⟩
  obtain ⟨pre, b, post, hm, hl⟩ := Nat.find_spec hn
  exact ⟨pre, b, post, hm, fun h' => hl ▸ Nat.find_min' hn ⟨_, _, _, h', rfl⟩⟩

theorem exists_matches (s : List Char) : ∃ bs left, Matches s bs left := by
  by_cases h : ∃ pre b post, Match s pre b post
  case neg => exact ⟨[], s, .none fun pre b post hm => h ⟨pre, b, post, hm⟩⟩
  case pos =>
    obtain ⟨_, _, _, hm⟩ := h
    obtain ⟨pre, b, post, hl⟩ := hm.exists_leftmost
    have hlt : post.length < s.length := by
      rw [hl.text]
      simp
      omega
    obtain ⟨bs, left, hrest⟩ := exists_matches post
    exact ⟨_, _, .next hl hrest⟩
termination_by s.length

-- No placeholder stands before the leftmost one, so a brace there has no partner.
theorem Leftmost.parts?_eq_none (h : Leftmost s pre b post) (hpre : ¬Plain pre) : parts? s = none := by
  rw [parts?_eq_none_iff]
  rintro ⟨ps, hps⟩
  have hprefix : pre <+: s := by
    rw [h.text, List.append_assoc]
    exact List.prefix_append ..
  obtain ⟨t, rfl⟩ := hprefix
  obtain ⟨pre', b', post', hm, hplain⟩ := exists_match_of_spells hps fun hs => hpre hs.of_append.1
  have hprefix' : pre' <+: pre ++ t := by
    rw [hm.text, List.append_assoc]
    exact List.prefix_append ..
  obtain ⟨u, rfl⟩ := List.prefix_of_prefix_length_le (List.prefix_append pre t) hprefix' (h.le hm)
  exact hpre hplain.of_append.1

theorem parts?_of_matches (h : Matches s bs left) :
    (Plain left → ∃ ps, parts? s = some ps ∧ placeholders ps = bs) ∧ (¬Plain left → parts? s = none) := by
  induction h
  case none s hno =>
    refine ⟨fun hs => ⟨_, parts?_of_plain hs, rfl⟩, fun hs => ?_⟩
    rw [parts?_eq_none_iff]
    rintro ⟨ps, hps⟩
    obtain ⟨pre, b, post, hm, -⟩ := exists_match_of_spells hps hs
    exact hno pre b post hm
  case next s pre b post left bs hl _ ih =>
    refine ⟨fun hleft => ?plain, fun hleft => ?brace⟩
    case plain =>
      obtain ⟨hpre, hleft⟩ := hleft.of_append
      obtain ⟨ps, hps, rfl⟩ := ih.1 hleft
      refine ⟨.literal pre :: .placeholder b :: ps, ?_, rfl⟩
      rw [hl.text, parts?_append hpre hl.plain, hps, Option.map_some]
    case brace =>
      by_cases hpre : Plain pre
      case neg => exact hl.parts?_eq_none hpre
      case pos =>
        have hpost := ih.2 fun hplain => hleft <| hpre.append hplain
        rw [hl.text, parts?_append hpre hl.plain, hpost, Option.map_none]

-- Something is named in front of the first equals sign.
def Named (b : List Char) : Prop :=
  ∃ c ∈ b.takeWhile (· ≠ '='), isBlank c = false

instance : DecidablePred Named := fun b =>
  List.decidableBEx (isBlank · = false) (b.takeWhile (· ≠ '='))

theorem fieldPath_eq (b : List Char) : fieldPath b = trim (b.takeWhile (· ≠ '=')) := by
  obtain ⟨hn, hb⟩ := before_eq_iff.mp (rfl : before '=' b = before '=' b)
  rw [fieldPath]
  generalize before '=' b = u at hn hb
  have hu : ∀ c ∈ u, decide (c ≠ '=') = true := fun c hc => decide_eq_true fun he => hn <| he ▸ hc
  obtain rfl | ⟨rest, rfl⟩ := hb
  · rw [List.takeWhile_eq_self_iff.mpr hu]
  · rw [List.takeWhile_append_of_pos hu]
    simp

theorem fieldPath_eq_nil_iff : fieldPath b = [] ↔ ¬Named b := by
  simp [Named, fieldPath_eq, trim_eq_nil_iff, AllBlank]

theorem parameters_of_parts?_eq_none (h : parts? path.toList = none) :
    parameters path = .error (.invalidMapping path .unbalanced) := by
  rw [parameters, h]

theorem parameters_of_parts?_eq_some (h : parts? path.toList = some ps) :
    parameters path =
      if ∃ b ∈ placeholders ps, fieldPath b = [] then .error (.invalidMapping path .emptyPlaceholder)
      else .ok ((placeholders ps).map fun b => String.ofList (fieldPath b)) := by
  rw [parameters, h]
  exact mapM_ite_error (placeholders ps)

-- A first pass looks for braces that are left over, a second one reads the placeholders.
theorem parameters_of_matches (h : Matches path.toList bs left) :
    parameters path =
      if left.any isBrace then .error (.invalidMapping path .unbalanced)
      else bs.mapM fun b =>
        if fieldPath b = [] then .error (.invalidMapping path .emptyPlaceholder)
        else .ok (String.ofList (fieldPath b)) := by
  obtain ⟨hplain, hbrace⟩ := parts?_of_matches h
  have hleft : left.any isBrace = true ↔ ¬Plain left := by simp [Plain]
  by_cases hs : Plain left
  case neg => rw [if_pos (hleft.mpr hs), parameters_of_parts?_eq_none (hbrace hs)]
  case pos =>
    obtain ⟨ps, hps, rfl⟩ := hplain hs
    rw [if_neg (hleft.not_left.mpr hs), parameters_of_parts?_eq_some hps, mapM_ite_error]

theorem parameters_of_not_spells (h : ¬∃ ps, Spells ps path.toList) :
    parameters path = .error (.invalidMapping path .unbalanced) :=
  parameters_of_parts?_eq_none <| parts?_eq_none_iff.mpr h

namespace Spells

-- Of the spellings of a path any one will do, since all of them have the same placeholders.
theorem parameters_of_named (h : Spells ps path.toList) (hn : ∀ b ∈ placeholders ps, Named b) :
    parameters path = .ok ((placeholders ps).map fun b => String.ofList (fieldPath b)) := by
  obtain ⟨qs, hqs, hq⟩ := h.exists_parts?
  have hnone : ¬∃ b ∈ placeholders ps, fieldPath b = [] := by simpa [fieldPath_eq_nil_iff] using hn
  rw [parameters_of_parts?_eq_some hqs, hq, if_neg hnone]

theorem parameters_of_not_named (h : Spells ps path.toList) (hn : ∃ b ∈ placeholders ps, ¬Named b) :
    parameters path = .error (.invalidMapping path .emptyPlaceholder) := by
  obtain ⟨qs, hqs, hq⟩ := h.exists_parts?
  have hsome : ∃ b ∈ placeholders ps, fieldPath b = [] := by simpa [fieldPath_eq_nil_iff] using hn
  rw [parameters_of_parts?_eq_some hqs, hq, if_pos hsome]

end Spells

-- The three things that a path can be.
theorem exists_spells_or_not (s : List Char) :
    (¬∃ ps, Spells ps s) ∨ (∃ ps, Spells ps s ∧ ∃ b ∈ placeholders ps, ¬Named b) ∨
      ∃ ps, Spells ps s ∧ ∀ b ∈ placeholders ps, Named b := by
  by_cases hs : ∃ ps, Spells ps s
  case neg => exact .inl hs
  case pos =>
    obtain ⟨ps, hps⟩ := hs
    by_cases hn : ∀ b ∈ placeholders ps, Named b
    case pos => exact .inr <| .inr ⟨ps, hps, hn⟩
    case neg =>
      push Not at hn
      exact .inr <| .inl ⟨ps, hps, hn⟩

theorem parameters_eq_ok_iff {xs : List String} :
    parameters path = .ok xs ↔ ∃ ps, Spells ps path.toList ∧ (∀ b ∈ placeholders ps, Named b) ∧
      xs = (placeholders ps).map fun b => String.ofList (fieldPath b) := by
  constructor
  case mpr =>
    rintro ⟨ps, hps, hn, rfl⟩
    exact hps.parameters_of_named hn
  case mp =>
    intro h
    obtain hs | ⟨ps, hps, hn⟩ | ⟨ps, hps, hn⟩ := exists_spells_or_not path.toList
    · cases h.symm.trans <| parameters_of_not_spells hs
    · cases h.symm.trans <| hps.parameters_of_not_named hn
    · cases h.symm.trans <| hps.parameters_of_named hn
      exact ⟨ps, hps, hn, rfl⟩

theorem parameters_eq_unbalanced_iff :
    parameters path = .error (.invalidMapping path .unbalanced) ↔ ¬∃ ps, Spells ps path.toList := by
  refine ⟨fun h => ?_, parameters_of_not_spells⟩
  rintro ⟨ps, hps⟩
  by_cases hn : ∀ b ∈ placeholders ps, Named b
  case pos => cases h.symm.trans <| hps.parameters_of_named hn
  case neg =>
    push Not at hn
    cases h.symm.trans <| hps.parameters_of_not_named hn

theorem parameters_eq_emptyPlaceholder_iff :
    parameters path = .error (.invalidMapping path .emptyPlaceholder) ↔
      ∃ ps, Spells ps path.toList ∧ ∃ b ∈ placeholders ps, ¬Named b := by
  refine ⟨fun h => ?_, fun ⟨ps, hps, hn⟩ => hps.parameters_of_not_named hn⟩
  obtain hs | hs | ⟨ps, hps, hn⟩ := exists_spells_or_not path.toList
  · cases h.symm.trans <| parameters_of_not_spells hs
  · exact hs
  · cases h.symm.trans <| hps.parameters_of_named hn

theorem flat_templates_are_read (path : String) :
    (∀ xs, parameters path = .ok xs ↔ ∃ ps, Spells ps path.toList ∧ (∀ b ∈ placeholders ps, Named b) ∧
      xs = (placeholders ps).map fun b => String.ofList (trim (b.takeWhile (· ≠ '=')))) ∧
    (parameters path = .error (.invalidMapping path .unbalanced) ↔ ¬∃ ps, Spells ps path.toList) ∧
    (parameters path = .error (.invalidMapping path .emptyPlaceholder) ↔
      ∃ ps, Spells ps path.toList ∧ ∃ b ∈ placeholders ps, ¬Named b) ∧
    ∃ bs left, Matches path.toList bs left ∧
      parameters path =
        if left.any isBrace then .error (.invalidMapping path .unbalanced)
        else bs.mapM fun b =>
          if trim (b.takeWhile (· ≠ '=')) = [] then .error (.invalidMapping path .emptyPlaceholder)
          else .ok (String.ofList (trim (b.takeWhile (· ≠ '=')))) := by
  obtain ⟨bs, left, hm⟩ := exists_matches path.toList
  simp only [←fieldPath_eq]
  exact ⟨fun _ => parameters_eq_ok_iff, parameters_eq_unbalanced_iff, parameters_eq_emptyPlaceholder_iff,
    bs, left, hm, parameters_of_matches hm⟩

-- Behind its first equals sign a placeholder holds a pattern, which may have equals signs too.
theorem flat_templates_are_read_shelves :
    parameters "/v1/\x7bname=shelves/*\x7d/books/\x7b id = a=* \x7d\x7bname\x7d:read" = .ok ["name", "id", "name"] := by
  let ps : List Part := [.literal "/v1/".toList, .placeholder "name=shelves/*".toList, .literal "/books/".toList,
    .placeholder " id = a=* ".toList, .placeholder "name".toList, .literal ":read".toList]
  obtain ⟨hok, -, -, -⟩ :=
    flat_templates_are_read "/v1/\x7bname=shelves/*\x7d/books/\x7b id = a=* \x7d\x7bname\x7d:read"
  refine (hok _).mpr ⟨ps, ⟨?plain, ?text⟩, ?named, ?fields⟩
  case plain  => decide +kernel
  case text   => decide +kernel
  case named  => decide +kernel
  case fields => decide +kernel

-- A brace without a partner is found before a placeholder that names nothing.
example : parameters "/\x7b =x\x7d/\x7ba\x7bb\x7d" =
    .error (.invalidMapping "/\x7b =x\x7d/\x7ba\x7bb\x7d" .unbalanced) := by
  decide +kernel

end Template
end Scaffold
