import Scaffold.Proofs.Rpc.Reading

namespace Scaffold

open Text

-- What follows a label such as `http=`.
def afterLabel? (label s : String) : Option String :=
  (label.toList.isPrefixOf? s.toList).map String.ofList

-- The request that the arguments spell out, the body being optional.
def RpcSpec.ofArguments? : List String → Option RpcSpec
  | ["add-rpc", service, rpc, request, response, http] => do
    return ⟨service, rpc, request, response, ← afterLabel? "http=" http, none⟩
  | ["add-rpc", service, rpc, request, response, http, body] => do
    return ⟨service, rpc, request, response, ← afterLabel? "http=" http, ← afterLabel? "body=" body⟩
  | _ => none

theorem isPrefixOf?_append (l s : List Char) : l.isPrefixOf? (l ++ s) = some s := by
  induction l
  case nil => simp [List.isPrefixOf?]
  case cons c cs ih => simp [List.isPrefixOf?, ih]

theorem afterLabel?_append (label s : String) : afterLabel? label (label ++ s) = some s := by
  simp [afterLabel?, isPrefixOf?_append]

theorem Field.isIdentifier_of_named {fs : List Field} {name : String} (h : ∀ f ∈ fs, f.WellFormed)
    (hn : named fs name = true) : isIdentifier name.toList = true := by
  obtain ⟨f, hf, rfl⟩ := named_iff.mp hn
  exact (h f hf).name

namespace Body

variable {request : List Field} {selector : Option String} {body : Option Body}

theorem named_of_parse {name : String} (h : Body.parse request selector = .ok (some (.field name))) :
    Field.named request name = true := by
  unfold Body.parse at h
  split at h
  case h_4 =>
    split at h <;> cases h
    assumption
  all_goals cases h

theorem parse_field {name : String} (h : Field.named request name = true)
    (hi : isIdentifier name.toList = true) :
    Body.parse request (some name) = .ok (some (.field name)) := by
  have ht : String.ofList (trim name.toList) = name := by
    rw [(trimmed_of_isIdentifier hi).trim_eq, String.ofList_toList]
  simp only [Body.parse, Option.map_some, ht]
  split
  case h_1 hs => cases hs
  case h_2 hs =>
    cases hs
    contradiction
  case h_3 hs =>
    cases hs
    revert hi
    decide
  case h_4 hs =>
    cases hs
    rw [if_pos h]

-- A selector that was read is read back from its text.
theorem parse_text (hw : ∀ f ∈ request, f.WellFormed) (h : Body.parse request selector = .ok body) :
    Body.parse request (body.map text) = .ok body := by
  cases body
  case none => rfl
  case some b =>
    cases b
    case all => rfl
    case field name =>
      have hn := named_of_parse h
      exact parse_field hn <| Field.isIdentifier_of_named hw hn

end Body

namespace Rpc

variable {typing typing' : Typing} {s s' : RpcSpec} {r r' : Rpc}

-- The request in which all parts of `r` are written as the arguments have them.
def spec (r : Rpc) : RpcSpec where
  service := r.service
  rpc := r.name
  request := Field.textAll r.request
  response := Field.textAll r.response
  http := r.mapping.text
  body := r.body.map Body.text

theorem ofArguments?_arguments (r : Rpc) : RpcSpec.ofArguments? r.arguments = some r.spec := by
  obtain ⟨service, name, request, response, mapping, body⟩ := r
  cases body <;> simp [arguments, RpcSpec.ofArguments?, spec, afterLabel?_append]

namespace ReadFrom

theorem wellFormed_request (h : ReadFrom typing s r) : ∀ f ∈ r.request, f.WellFormed :=
  fun f hf => (Field.accepted_of_parse h.request f hf).toWellFormed

theorem wellFormed_response (h : ReadFrom typing s r) : ∀ f ∈ r.response, f.WellFormed :=
  fun f hf => (Field.accepted_of_parse h.response f hf).toWellFormed

-- Each part is normal after it was read once. Placeholders and body are checked against the same fields.
theorem readFrom_spec (h : ReadFrom typing s r) (hq : ∀ f ∈ r.request, f.Accepted typing')
    (hp : ∀ f ∈ r.response, f.Accepted typing') : ReadFrom typing' r.spec r where
  service := rfl
  name := rfl
  isService := by simpa [Rpc.spec, h.service] using h.isService
  isName := by simpa [Rpc.spec, h.name] using h.isName
  request := Field.parse_textAll hq
  response := Field.parse_textAll hp
  mapping := Mapping.parse_text <| Mapping.wellFormed_of_parse h.mapping
  placeholders := h.placeholders
  body := Body.parse_text h.wellFormed_request h.body

theorem parse_spec (h : ReadFrom typing s r) : parse typing r.spec = .ok r :=
  parse_eq_ok_iff.mpr <|
    h.readFrom_spec (Field.accepted_of_parse h.request) (Field.accepted_of_parse h.response)

theorem parse_lenient_spec (h : ReadFrom typing s r) : parse .lenient r.spec = .ok r :=
  parse_eq_ok_iff.mpr <| h.readFrom_spec (fun f hf => (h.wellFormed_request f hf).accepted_lenient)
    (fun f hf => (h.wellFormed_response f hf).accepted_lenient)

-- Even RPCs that were read with different typings are told apart by their arguments.
theorem eq_of_arguments_eq (h : ReadFrom typing s r) (h' : ReadFrom typing' s' r')
    (ha : r.arguments = r'.arguments) : r = r' := by
  have hs : r.spec = r'.spec := by
    have := ofArguments?_arguments r
    rw [ha, ofArguments?_arguments] at this
    exact (Option.some.inj this).symm
  have hr := h.parse_lenient_spec
  rw [hs, h'.parse_lenient_spec] at hr
  exact (Except.ok.inj hr).symm

end ReadFrom

theorem length_arguments (r : Rpc) : r.arguments.length = if r.body.isSome then 7 else 6 := by
  obtain ⟨service, name, request, response, mapping, body⟩ := r
  cases body <;> rfl

theorem arguments_read_back (h : parse typing s = .ok r) :
    (r.arguments.length = if r.body.isSome then 7 else 6) ∧
    (∃ s', RpcSpec.ofArguments? r.arguments = some s' ∧ parse typing s' = .ok r) ∧
    (∀ typing' s' r', parse typing' s' = .ok r' → r.arguments = r'.arguments → r = r') := by
  have h := parse_eq_ok_iff.mp h
  refine ⟨r.length_arguments, ⟨r.spec, ofArguments?_arguments r, h.parse_spec⟩, ?_⟩
  intro typing' s' r' h' ha
  exact h.eq_of_arguments_eq (parse_eq_ok_iff.mp h') ha

-- The path has braces and a colon of its own, and the texts white space that is not kept.
theorem arguments_read_back_shelf :
    ∃ r, parse (.strict []) ⟨"Shelf", "List", "repeated string tags , name:string", "",
        " get : /v1/\x7bname=a b/*\x7d:go ", some " tags "⟩ = .ok r ∧
      ∃ s', RpcSpec.ofArguments? r.arguments = some s' ∧ parse (.strict []) s' = .ok r := by
  have h : parse (.strict []) ⟨"Shelf", "List", "repeated string tags , name:string", "",
      " get : /v1/\x7bname=a b/*\x7d:go ", some " tags "⟩ =
      .ok ⟨"Shelf", "List", [⟨"tags", .primitive .string, true⟩, ⟨"name", .primitive .string, false⟩], [],
        ⟨.get, "/v1/\x7bname=a b/*\x7d:go"⟩, some (.field "tags")⟩ := by decide +kernel
  exact ⟨_, h, (arguments_read_back h).2.1⟩

end Rpc
end Scaffold
