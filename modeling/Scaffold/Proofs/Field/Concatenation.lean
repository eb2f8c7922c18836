import Scaffold.Proofs.Field.Definition
import Scaffold.Proofs.Text.Words

namespace Scaffold.Field

open Text

variable {typing : Typing} {e : SpecError} {fs : List Field} {f : Field} {s t spec : String} {raw : List Char}

-- What the pieces of a text are read as, with no exception for a text of white space.
def parsePieces (typing : Typing) (text : List Char) : Except SpecError (List Field) :=
  (text.splitOn ',').mapM (parseDefinition typing)

theorem parsePieces_of_allBlank (h : AllBlank raw) :
    parsePieces typing raw = .error (.malformedField "" .empty) := by
  rw [parsePieces, splitOn_of_allBlank (by decide) h, List.mapM_cons, parseDefinition_of_allBlank h, error_bind]

theorem parsePieces_of_not_allBlank (h : ¬AllBlank s.toList) : parsePieces typing s.toList = parse typing s :=
  (parse_of_not_allBlank h).symm

theorem parse_append_comma (typing : Typing) (s t : String) :
    parse typing (s ++ "," ++ t) = (do
      let fs ← parsePieces typing s.toList
      let gs ← parsePieces typing t.toList
      return fs ++ gs) := by
  have htext : (s ++ "," ++ t).toList = s.toList ++ ',' :: t.toList := by simp
  have hb : ¬AllBlank (s ++ "," ++ t).toList := by
    intro hb
    have hc := hb ',' (by simp)
    revert hc
    decide
  rw [parse_of_not_allBlank hb, htext, List.splitOn_append_cons_self, List.mapM_append]
  rfl

-- A failure is final, whatever follows it.
theorem parse_append_comma_of_error (h : parse typing s = .error e) (t : String) :
    parse typing (s ++ "," ++ t) = .error e := by
  have hb := (parse_eq_error_iff.mp h).1
  rw [parse_append_comma, parsePieces_of_not_allBlank hb, h, error_bind]

theorem parse_append_comma_of_allBlank (h : parse typing s = .ok fs) (ht : AllBlank t.toList) :
    parse typing (s ++ "," ++ t) = .error (.malformedField "" .empty) := by
  rw [parse_append_comma, parsePieces_of_allBlank ht]
  by_cases hb : AllBlank s.toList
  case pos => rw [parsePieces_of_allBlank hb, error_bind]
  case neg => rw [parsePieces_of_not_allBlank hb, h, ok_bind, error_bind]

-- A piece that is a definition is a list of one.
theorem parse_piece (h : parseDefinition typing raw = .ok f) (hc : ',' ∉ raw) :
    parse typing (String.ofList raw) = .ok [f] := by
  have hb : ¬AllBlank raw := by
    intro hb
    cases (parseDefinition_of_allBlank hb).symm.trans h
  rw [←String.toList_ofList (l := raw)] at hb hc h
  rw [parse_of_not_comma hb hc, h]
  rfl

-- The first place where `g` stands between commas, padding aside: the pieces before it are definitions.
inductive Reached (typing : Typing) (spec g : String) : Prop
  | intro {pre post : List (List Char)} {raw : List Char} :
      spec.toList.splitOn ',' = pre ++ raw :: post →
      trim raw = g.toList →
      (∀ p ∈ pre, trim p ≠ g.toList ∧ ∃ f, parse typing (String.ofList p) = .ok [f]) →
      Reached typing spec g

-- Were the piece there before, it would have been refused there.
theorem reached_of_malformed {g : String} {fault : FieldFault}
    (h : parse typing spec = .error (.malformedField g fault)) (hg : g ≠ "") :
    Reached typing spec g ∧ parse typing g = .error (.malformedField g fault) := by
  obtain ⟨-, pre, raw, post, hs, hpre, hraw⟩ := parse_eq_error_iff.mp h
  obtain ⟨_, hfault⟩ | ⟨_, _, hfault, -⟩ := parseDefinition_eq_error hraw
  case inr => cases hfault
  case inl =>
    obtain ⟨rfl, rfl⟩ := SpecError.malformedField.inj hfault
    have hc {p : List Char} (hp : p ∈ pre ++ raw :: post) : ',' ∉ p :=
      not_mem_of_mem_splitOn <| hs.symm ▸ hp
    constructor
    case left =>
      refine .intro hs String.toList_ofList.symm fun p hp => ?_
      obtain ⟨f, hf⟩ := hpre p hp
      refine ⟨fun heq => ?_, f, parse_piece hf <| hc <| List.mem_append_left _ hp⟩
      rw [String.toList_ofList] at heq
      rw [←parseDefinition_trim, heq, parseDefinition_trim, hraw] at hf
      cases hf
    case right =>
      have hne : ¬AllBlank (String.ofList (trim raw)).toList := by
        intro hb
        rw [String.toList_ofList, ←trim_eq_nil_iff, trim_trim] at hb
        rw [hb] at hg
        contradiction
      have hcomma : ',' ∉ (String.ofList (trim raw)).toList := by
        rw [String.toList_ofList]
        exact fun hm => hc (by simp) <| mem_of_mem_trim hm
      rw [parse_of_not_comma hne hcomma, String.toList_ofList, parseDefinition_trim, hraw]
      rfl

theorem parse_distributes (typing : Typing) :
    (∀ s t, ¬AllBlank s.toList → ¬AllBlank t.toList →
      parse typing (s ++ "," ++ t) = (do
        let fs ← parse typing s
        let gs ← parse typing t
        return fs ++ gs)) ∧
    (∀ s t, AllBlank s.toList → parse typing (s ++ "," ++ t) = .error (.malformedField "" .empty)) ∧
    (∀ s t fs, parse typing s = .ok fs → AllBlank t.toList →
      parse typing (s ++ "," ++ t) = .error (.malformedField "" .empty)) ∧
    (∀ s t e, parse typing s = .error e → parse typing (s ++ "," ++ t) = .error e) ∧
    (∀ spec g fault, parse typing spec = .error (.malformedField g fault) → g ≠ "" →
      Reached typing spec g ∧ parse typing g = .error (.malformedField g fault)) := by
  refine ⟨fun s t hs ht => ?_, fun s t hs => ?_, fun _ _ _ => parse_append_comma_of_allBlank,
    fun _ t _ h => parse_append_comma_of_error h t, fun _ _ _ => reached_of_malformed⟩
  · rw [parse_append_comma, parsePieces_of_not_allBlank hs, parsePieces_of_not_allBlank ht]
  · rw [parse_append_comma, parsePieces_of_allBlank hs, error_bind]

-- White space is a list on its own, but no piece; the same piece is refused where it stands first.
theorem parse_distributes_shelf :
    parse (.strict ["user"]) ("id:int64" ++ "," ++ " owner:User ") =
        .ok [⟨"id", .primitive .int64, false⟩, ⟨"owner", .message "User", false⟩] ∧
      parse .lenient ("\u2003" ++ "," ++ "id:int64") = .error (.malformedField "" .empty) ∧
      parse .lenient ("id:int64" ++ "," ++ "\u2003") = .error (.malformedField "" .empty) ∧
      parse .lenient ("many" ++ "," ++ "\u2003") = .error (.malformedField "many" .shape) ∧
      Reached .lenient "id:int64, many int64,many int64" "many int64" := by
  have hid : parse .lenient "id:int64" = .ok [⟨"id", .primitive .int64, false⟩] := by decide +kernel
  have hidStrict : parse (.strict ["user"]) "id:int64" = .ok [⟨"id", .primitive .int64, false⟩] := by
    decide +kernel
  have howner : parse (.strict ["user"]) " owner:User " = .ok [⟨"owner", .message "User", false⟩] := by
    decide +kernel
  have hmany : parse .lenient "many" = .error (.malformedField "many" .shape) := by decide +kernel
  have hshelf : parse .lenient "id:int64, many int64,many int64" =
      .error (.malformedField "many int64" .shape) := by decide +kernel
  have hb : AllBlank "\u2003".toList := by decide
  obtain ⟨hboth, -⟩ := parse_distributes (.strict ["user"])
  obtain ⟨-, hfirst, hlast, hfails, hpiece⟩ := parse_distributes .lenient
  refine ⟨?_, hfirst _ _ hb, hlast _ _ _ hid hb, hfails _ _ _ hmany, (hpiece _ _ _ hshelf (by decide)).1⟩
  rw [hboth _ _ (by decide) (by decide), hidStrict, howner]
  rfl

end Scaffold.Field
