import Scaffold.Proofs.Field.Grammar

namespace Scaffold

open Text

theorem Typing.knows_strict_iff {known : List String} {name : String} :
    (strict known).knows name = true ↔ lower name ∈ known.map lower := by
  simp [knows]

-- Its type is a primitive, or one of the names in any letter case.
def Field.Known (names : List String) (f : Field) : Prop :=
  ∀ n, f.type = .message n → lower n ∈ names.map lower

namespace Field

variable {typing : Typing} {known : List String} {f : Field} {fs : List Field} {e : SpecError}
variable {definition name type raw : List Char} {spec : String}

-- The check that only strict reading makes.
def checkKnown (typing : Typing) (f : Field) : Except SpecError Unit :=
  match f.type with
  | .primitive _ => .ok ()
  | .message n => if typing.knows n then .ok () else .error (.unknownType f.name n)

theorem checkKnown_strict_eq_ok_iff : checkKnown (.strict known) f = .ok () ↔ f.Known known := by
  obtain ⟨name, type, repeated⟩ := f
  cases type
  case primitive => simp [checkKnown, Known]
  case message n =>
    simp only [checkKnown, Known, FieldType.message.injEq, forall_eq', ←Typing.knows_strict_iff]
    split <;> simp_all

theorem checkKnown_strict_eq_error_iff :
    checkKnown (.strict known) f = .error e ↔
      ∃ n, f.type = .message n ∧ lower n ∉ known.map lower ∧ e = .unknownType f.name n := by
  obtain ⟨name, type, repeated⟩ := f
  cases type
  case primitive => simp [checkKnown]
  case message n =>
    simp only [checkKnown, FieldType.message.injEq, exists_eq_left', ←Typing.knows_strict_iff]
    split
    case isTrue h  => simp [h]
    case isFalse h => simpa [h] using eq_comm

-- The type of a definition is checked in the same way, except that a strict reader has to know it.
theorem typeOf_eq_checkKnown (repeated : Bool) :
    (do let t ← typeOf typing definition name type
        return (⟨String.ofList name, t, repeated⟩ : Field)) =
      (do let t ← typeOf .lenient definition name type
          checkKnown typing ⟨String.ofList name, t, repeated⟩
          return ⟨String.ofList name, t, repeated⟩) := by
  have hl (n : String) : Typing.lenient.knows n = true := rfl
  cases hp : Primitive.ofText? (String.ofList type)
  case some => simp only [typeOf, hp, ok_bind, checkKnown]
  case none =>
    cases ht : isTypeName type
    case false => simp [typeOf, hp, ht]
    case true =>
      cases hk : typing.knows (String.ofList type)
      case false => simp [typeOf, hp, ht, hk, hl, checkKnown]
      case true  => simp [typeOf, hp, ht, hk, hl, checkKnown]

theorem parseDefinition_eq_checkKnown :
    parseDefinition typing raw = (do
      let f ← parseDefinition .lenient raw
      checkKnown typing f
      return f) := by
  simp only [parseDefinition]
  split
  case isTrue => rfl
  case isFalse =>
    split
    case h_2 => rfl
    case h_1 d _ =>
      simp only [Draft.check]
      split
      case isFalse => rfl
      case isTrue =>
        rw [typeOf_eq_checkKnown]
        cases typeOf .lenient (trim raw) d.name d.type <;> rfl

theorem parse_of_lenient (typing : Typing) (h : parse .lenient spec = .ok fs) :
    parse typing spec = (do fs.forM (checkKnown typing); return fs) := by
  by_cases hb : AllBlank spec.toList
  case pos =>
    cases (parse_of_allBlank hb).symm.trans h
    exact parse_of_allBlank hb
  case neg =>
    rw [parse_of_not_allBlank hb] at h ⊢
    rw [←mapM_check_of_mapM h]
    exact congrArg (List.mapM · _) <| funext fun _ => parseDefinition_eq_checkKnown

theorem parse_lenient_of_parse (h : parse typing spec = .ok fs) : parse .lenient spec = .ok fs := by
  by_cases hb : AllBlank spec.toList
  case pos =>
    cases (parse_of_allBlank hb).symm.trans h
    exact parse_of_allBlank hb
  case neg =>
    rw [parse_of_not_allBlank hb] at h ⊢
    refine mapM_eq_ok_iff.mpr <| (mapM_eq_ok_iff.mp h).imp fun raw f hf => ?_
    obtain ⟨hd, ha⟩ := parseDefinition_eq_ok_iff.mp hf
    exact parseDefinition_eq_ok_iff.mpr ⟨hd, ha.toWellFormed.accepted_lenient⟩

theorem parse_strict_eq_ok_iff :
    parse (.strict known) spec = .ok fs ↔ parse .lenient spec = .ok fs ∧ ∀ f ∈ fs, f.Known known := by
  have hchecks : fs.forM (checkKnown (.strict known)) = .ok () ↔ ∀ f ∈ fs, f.Known known := by
    simp only [forM_eq_ok_iff, checkKnown_strict_eq_ok_iff]
  rw [←hchecks]
  constructor
  case mp =>
    intro h
    have hl := parse_lenient_of_parse h
    rw [parse_of_lenient _ hl, check_bind_eq_ok_iff] at h
    exact ⟨hl, h.1⟩
  case mpr =>
    rintro ⟨hl, hk⟩
    exact (parse_of_lenient _ hl).trans <| check_bind_eq_ok_iff.mpr ⟨hk, rfl⟩

theorem parseDefinition_strict_eq_ok_iff :
    parseDefinition (.strict known) raw = .ok f ↔ Defines raw f ∧ f.Known known := by
  rw [parseDefinition_eq_checkKnown, bind_eq_ok_iff]
  simp only [check_bind_eq_ok_iff, parseDefinition_lenient_eq_ok_iff, checkKnown_strict_eq_ok_iff, ←and_assoc,
    exists_eq_right]

theorem parseDefinition_strict_eq_error_iff :
    parseDefinition (.strict known) raw = .error e ↔
      parseDefinition .lenient raw = .error e ∨
      ∃ f n, Defines raw f ∧ f.type = .message n ∧ lower n ∉ known.map lower ∧ e = .unknownType f.name n := by
  rw [parseDefinition_eq_checkKnown, bind_eq_error_iff]
  simp only [check_bind_eq_error_iff, parseDefinition_lenient_eq_ok_iff, checkKnown_strict_eq_error_iff,
    exists_and_left]

-- The leftmost of the pieces that cannot be read or whose type is not known, and what is wrong with it: for
-- a piece that cannot be read it is what lenient reading says of the whole text.
inductive FirstFault (known : List String) (spec : String) (e : SpecError) : Prop
  | unreadable {pre post : List (List Char)} {raw : List Char} :
      spec.toList.splitOn ',' = pre ++ raw :: post →
      (∀ p ∈ pre, ∃ f, Defines p f ∧ f.Known known) →
      (∀ f, ¬Defines raw f) →
      parse .lenient spec = .error e →
      FirstFault known spec e
  | unknown {pre post : List (List Char)} {raw : List Char} {f : Field} {n : String} :
      spec.toList.splitOn ',' = pre ++ raw :: post →
      (∀ p ∈ pre, ∃ f, Defines p f ∧ f.Known known) →
      Defines raw f →
      f.type = .message n →
      lower n ∉ known.map lower →
      e = .unknownType f.name n →
      FirstFault known spec e

theorem parse_strict_eq_error_iff : parse (.strict known) spec = .error e ↔ FirstFault known spec e := by
  have hlenient {pre : List (List Char)} (hpre : ∀ p ∈ pre, ∃ f, Defines p f ∧ f.Known known) :
      ∀ p ∈ pre, ∃ f, parseDefinition .lenient p = .ok f :=
    fun p hp => (hpre p hp).imp fun _ h => parseDefinition_lenient_eq_ok_iff.mpr h.1
  constructor
  case mp =>
    intro h
    obtain ⟨hb, pre, raw, post, hs, hpre, hraw⟩ := parse_eq_error_iff.mp h
    simp only [parseDefinition_strict_eq_ok_iff] at hpre
    obtain hl | ⟨f, n, hd, hn, hk, he⟩ := parseDefinition_strict_eq_error_iff.mp hraw
    case inl =>
      refine .unreadable hs hpre (fun f hd => ?_) ?_
      · cases hl.symm.trans <| parseDefinition_lenient_eq_ok_iff.mpr hd
      · exact parse_eq_error_iff.mpr ⟨hb, pre, raw, post, hs, hlenient hpre, hl⟩
    case inr => exact .unknown hs hpre hd hn hk he
  case mpr =>
    intro h
    cases h
    case unreadable pre post raw hs hpre hraw hl =>
      have hb := (parse_eq_error_iff.mp hl).1
      cases hr : parseDefinition .lenient raw
      case ok f => exact absurd (parseDefinition_lenient_eq_ok_iff.mp hr) (hraw f)
      case error =>
        cases hl.symm.trans <| parse_eq_error_iff.mpr ⟨hb, pre, raw, post, hs, hlenient hpre, hr⟩
        simp only [←parseDefinition_strict_eq_ok_iff] at hpre
        exact parse_eq_error_iff.mpr
          ⟨hb, pre, raw, post, hs, hpre, parseDefinition_strict_eq_error_iff.mpr <| .inl hr⟩
    case unknown pre post raw f n hs hpre hd hn hk he =>
      have hb : ¬AllBlank spec.toList := hd.not_allBlank_of_mem <| by simp [hs]
      simp only [←parseDefinition_strict_eq_ok_iff] at hpre
      exact parse_eq_error_iff.mpr
        ⟨hb, pre, raw, post, hs, hpre, parseDefinition_strict_eq_error_iff.mpr <| .inr ⟨f, n, hd, hn, hk, he⟩⟩

-- A reader asks of a name only whether it is known.
theorem parse_congr {typing' : Typing} (h : typing.knows = typing'.knows) (spec : String) :
    parse typing spec = parse typing' spec := by
  have hd : parseDefinition typing = parseDefinition typing' := by
    funext raw
    simp only [parseDefinition, Draft.check, typeOf, h]
  rw [parse, hd, parse]

theorem Known.mono {names names' : List String} (h : names.map lower ⊆ names'.map lower)
    (hf : f.Known names) : f.Known names' :=
  fun n hn => h <| hf n hn

theorem strict_refines_lenient (known : List String) (spec : String) :
    (∀ fs, parse (.strict known) spec = .ok fs ↔
      parse .lenient spec = .ok fs ∧ ∀ f ∈ fs, f.Known known) ∧
    (∀ e, parse (.strict known) spec = .error e ↔ FirstFault known spec e) ∧
    (∀ known', (∀ n, n ∈ known.map lower ↔ n ∈ known'.map lower) →
      parse (.strict known') spec = parse (.strict known) spec) ∧
    (∀ known' fs, known.map lower ⊆ known'.map lower → parse (.strict known) spec = .ok fs →
      parse (.strict known') spec = .ok fs) := by
  refine ⟨fun _ => parse_strict_eq_ok_iff, fun _ => parse_strict_eq_error_iff, fun known' hset => ?set,
    fun known' fs hsub h => ?mono⟩
  case set =>
    refine parse_congr (funext fun n => ?_) spec
    rw [Bool.eq_iff_iff, Typing.knows_strict_iff, Typing.knows_strict_iff, hset]
  case mono =>
    obtain ⟨hl, hk⟩ := parse_strict_eq_ok_iff.mp h
    exact parse_strict_eq_ok_iff.mpr ⟨hl, fun f hf => (hk f hf).mono hsub⟩

-- The same name in other letters, twice, and among others.
theorem strict_refines_lenient_owner :
    parse (.strict ["User"]) "owner: USER" = .ok [⟨"owner", .message "USER", false⟩] ∧
      parse (.strict ["uSER", "USER"]) "owner: USER" = .ok [⟨"owner", .message "USER", false⟩] ∧
      parse (.strict ["Straße", "USeR"]) "owner: USER" = .ok [⟨"owner", .message "USER", false⟩] := by
  have h : parse (.strict ["User"]) "owner: USER" = .ok [⟨"owner", .message "USER", false⟩] := by
    decide +kernel
  have hlower : ["User"].map lower = ["user"] ∧ ["uSER", "USER"].map lower = ["user", "user"] ∧
      ["Straße", "USeR"].map lower = ["straße", "user"] := by decide +kernel
  obtain ⟨-, -, hset, hmono⟩ := strict_refines_lenient ["User"] "owner: USER"
  refine ⟨h, ?_, hmono _ _ ?_ h⟩
  · rw [hset ["uSER", "USER"] (by simp [hlower]), h]
  · simp [hlower]

end Field
end Scaffold
