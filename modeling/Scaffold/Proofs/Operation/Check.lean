import Scaffold.Operation.Basic
import Scaffold.Proofs.Rpc.Arguments

namespace Scaffold

open Text

@[simp]
theorem orFailure_ok {α : Type} (a : α) : orFailure (.ok a) = .ok a :=
  rfl

@[simp]
theorem orFailure_error {α : Type} (e : SpecError) :
    orFailure (.error e : Except SpecError α) = .error (.spec e) :=
  rfl

variable {c : Config} {stems : List String} {r : Request} {t : Task} {e : Failure}

namespace Request

inductive ReadAs (c : Config) (stems : List String) : Request → Task → Prop
  | create {service fields : String} {fs : List Field} :
      isIdentifier (trim service.toList) = true →
      Field.parse (c.typing stems (some (trimmedText service))) fields = .ok fs →
      ReadAs c stems (.create service fields) (.create (trimmedText service) fs)
  | addRpc {spec : RpcSpec} {rpc : Rpc} :
      Rpc.parse (c.typing stems none) spec = .ok rpc → ReadAs c stems (.addRpc spec) (.addRpc rpc)
  | remove {service : String} :
      ¬AllBlank service.toList → ReadAs c stems (.remove service) (.remove (trimmedText service))
  | regenerate : ReadAs c stems .regenerate .regenerate

inductive Refused (c : Config) (stems : List String) : Request → Failure → Prop
  | createBlank {service fields : String} :
      AllBlank service.toList → Refused c stems (.create service fields) .emptyServiceName
  | createName {service fields : String} :
      ¬AllBlank service.toList → isIdentifier (trim service.toList) = false →
      Refused c stems (.create service fields)
        (.spec (.invalidIdentifier .service (trimmedText service)))
  | createFields {service fields : String} {e : SpecError} :
      isIdentifier (trim service.toList) = true →
      Field.parse (c.typing stems (some (trimmedText service))) fields = .error e →
      Refused c stems (.create service fields) (.spec e)
  | addRpc {spec : RpcSpec} {e : SpecError} :
      Rpc.parse (c.typing stems none) spec = .error e → Refused c stems (.addRpc spec) (.spec e)
  | removeBlank {service : String} :
      AllBlank service.toList → Refused c stems (.remove service) .emptyServiceName

theorem Refused.isRefusal (h : Refused c stems r e) : e.isRefusal = true := by
  cases h <;> rfl

section Names

variable {name : String}

theorem trimName_of_allBlank (h : AllBlank name.toList) : trimName name = .error .emptyServiceName := by
  simp [trimName, trim_eq_nil_iff.mpr h]

theorem trimName_of_not_allBlank (h : ¬AllBlank name.toList) : trimName name = .ok (trimmedText name) := by
  simp [trimName, trim_eq_nil_iff, h, trimmedText]

theorem createName_of_allBlank (h : AllBlank name.toList) :
    createName name = .error .emptyServiceName := by
  rw [createName, trimName_of_allBlank h, error_bind]

theorem createName_of_not_isIdentifier (hb : ¬AllBlank name.toList)
    (hi : isIdentifier (trim name.toList) = false) :
    createName name = .error (.spec (.invalidIdentifier .service (trimmedText name))) := by
  have hc : checkIdentifier .service (trimmedText name) =
      .error (.invalidIdentifier .service (trimmedText name)) := by
    simp [checkIdentifier, trimmedText, hi]
  rw [createName, trimName_of_not_allBlank hb, ok_bind, hc, orFailure_error, error_bind]

-- Nothing but white space is no identifier.
theorem createName_of_isIdentifier (h : isIdentifier (trim name.toList) = true) :
    createName name = .ok (trimmedText name) := by
  have hb : ¬AllBlank name.toList := fun hb => ne_nil_of_isIdentifier h <| trim_eq_nil_iff.mpr hb
  have hc : checkIdentifier .service (trimmedText name) = .ok () := by
    rw [checkIdentifier_eq_ok_iff, trimmedText, String.toList_ofList, h]
  rw [createName, trimName_of_not_allBlank hb, ok_bind, hc, orFailure_ok, ok_bind]
  rfl

end Names

-- One lemma for each way that a check goes, from which the two equivalences below are read off.
theorem check_of_readAs (h : ReadAs c stems r t) : r.check c stems = .ok t := by
  cases h
  case create hi hf =>
    simp only [check, createName_of_isIdentifier hi, hf, ok_bind, orFailure_ok]
    rfl
  case addRpc h =>
    simp only [check, h, orFailure_ok, ok_bind]
    rfl
  case remove h =>
    simp only [check, trimName_of_not_allBlank h, ok_bind]
    rfl
  case regenerate => rfl

theorem check_of_refused (h : Refused c stems r e) : r.check c stems = .error e := by
  cases h
  case createBlank h    => simp only [check, createName_of_allBlank h, error_bind]
  case createName hb hi => simp only [check, createName_of_not_isIdentifier hb hi, error_bind]
  case createFields hi hf =>
    simp only [check, createName_of_isIdentifier hi, hf, ok_bind, orFailure_error, error_bind]
  case addRpc h      => simp only [check, h, orFailure_error, error_bind]
  case removeBlank h => simp only [check, trimName_of_allBlank h, error_bind]

theorem exists_readAs_or_refused (c : Config) (stems : List String) (r : Request) :
    (∃ t, ReadAs c stems r t) ∨ (∃ e, Refused c stems r e) := by
  cases r
  case create service fields =>
    by_cases hb : AllBlank service.toList
    case pos => exact .inr ⟨_, .createBlank hb⟩
    case neg =>
      cases hi : isIdentifier (trim service.toList)
      case false => exact .inr ⟨_, .createName hb hi⟩
      case true =>
        cases hf : Field.parse (c.typing stems (some (trimmedText service))) fields
        case ok    => exact .inl ⟨_, .create hi hf⟩
        case error => exact .inr ⟨_, .createFields hi hf⟩
  case addRpc spec =>
    cases h : Rpc.parse (c.typing stems none) spec
    case ok    => exact .inl ⟨_, .addRpc h⟩
    case error => exact .inr ⟨_, .addRpc h⟩
  case remove service =>
    by_cases hb : AllBlank service.toList
    case pos => exact .inr ⟨_, .removeBlank hb⟩
    case neg => exact .inl ⟨_, .remove hb⟩
  case regenerate => exact .inl ⟨_, .regenerate⟩

theorem check_eq_ok_iff : r.check c stems = .ok t ↔ ReadAs c stems r t := by
  refine ⟨fun h => ?_, check_of_readAs⟩
  obtain ⟨t', ht⟩ | ⟨e, he⟩ := exists_readAs_or_refused c stems r
  case inl =>
    cases h.symm.trans <| check_of_readAs ht
    exact ht
  case inr => cases h.symm.trans <| check_of_refused he

theorem check_eq_error_iff : r.check c stems = .error e ↔ Refused c stems r e := by
  refine ⟨fun h => ?_, check_of_refused⟩
  obtain ⟨t, ht⟩ | ⟨e', he⟩ := exists_readAs_or_refused c stems r
  case inl => cases h.symm.trans <| check_of_readAs ht
  case inr =>
    cases h.symm.trans <| check_of_refused he
    exact he

end Request
end Scaffold
