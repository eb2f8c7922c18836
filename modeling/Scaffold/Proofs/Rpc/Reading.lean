import Scaffold.Rpc.Parser
import Scaffold.Proofs.Field.RoundTrip
import Scaffold.Proofs.Http.Mapping

namespace Scaffold

open Text

theorem checkIdentifier_eq_ok_iff {role : NameRole} {value : String} :
    checkIdentifier role value = .ok () ↔ isIdentifier value.toList = true := by
  unfold checkIdentifier
  split <;> simp_all

theorem forM_checkBound_eq_ok_iff {request : List Field} {path : String} {parameters : List String} :
    parameters.forM (checkBound request path) = .ok () ↔
      ∀ p ∈ parameters, Field.named request (rootField p) = true := by
  rw [forM_eq_ok_iff]
  refine forall₂_congr fun p _ => ?_
  unfold checkBound
  split <;> simp_all

namespace Rpc

-- All placeholders of a path name a field of the request.
def Bound (request : List Field) (path : String) : Prop :=
  ∃ parameters, Template.parameters path = .ok parameters ∧
    ∀ p ∈ parameters, Field.named request (rootField p) = true

structure ReadFrom (typing : Typing) (s : RpcSpec) (r : Rpc) : Prop where
  service      : r.service = s.service
  name         : r.name = s.rpc
  isService    : isIdentifier s.service.toList = true
  isName       : isIdentifier s.rpc.toList = true
  request      : Field.parse typing s.request = .ok r.request
  response     : Field.parse typing s.response = .ok r.response
  mapping      : Mapping.parse s.http = .ok r.mapping
  placeholders : Bound r.request r.mapping.path
  body         : Body.parse r.request s.body = .ok r.body

variable {typing : Typing} {s : RpcSpec} {r : Rpc}

theorem parse_eq_ok_iff : parse typing s = .ok r ↔ ReadFrom typing s r := by
  simp only [parse, bind_eq_ok_iff, pure, Except.pure, Except.ok.injEq]
  constructor
  case mp =>
    rintro ⟨_, hs, _, hn, _, hq, _, hp, m, hm, ps, hps, _, hb, _, hbody, rfl⟩
    exact ⟨rfl, rfl, checkIdentifier_eq_ok_iff.mp hs, checkIdentifier_eq_ok_iff.mp hn, hq, hp, hm,
      ⟨ps, hps, forM_checkBound_eq_ok_iff.mp hb⟩, hbody⟩
  case mpr =>
    intro h
    obtain ⟨ps, hps, hbound⟩ := h.placeholders
    have hs : checkIdentifier .service s.service = .ok () := checkIdentifier_eq_ok_iff.mpr h.isService
    have hn : checkIdentifier .rpc s.rpc = .ok () := checkIdentifier_eq_ok_iff.mpr h.isName
    have hb : ps.forM (checkBound r.request r.mapping.path) = .ok () :=
      forM_checkBound_eq_ok_iff.mpr hbound
    refine ⟨_, hs, _, hn, _, h.request, _, h.response, _, h.mapping, ps, hps, _, hb, _, h.body, ?_⟩
    rw [←h.service, ←h.name]

end Rpc
end Scaffold
