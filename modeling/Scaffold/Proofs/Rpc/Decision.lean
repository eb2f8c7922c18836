import Scaffold.Proofs.Rpc.Reading

namespace Scaffold

open Text

theorem Field.named_iff_mem {fs : List Field} {name : String} :
    named fs name = true ↔ name ∈ fs.map Field.name := by
  simp [named_iff]

theorem checkIdentifier_of_not_isIdentifier {role : NameRole} {value : String}
    (h : isIdentifier value.toList = false) :
    checkIdentifier role value = .error (.invalidIdentifier role value) := by
  simp [checkIdentifier, h]

section Placeholders

variable {request : List Field} {path parameter : String}

theorem checkBound_eq_ok_iff :
    checkBound request path parameter = .ok () ↔ rootField parameter ∈ request.map Field.name := by
  rw [←Field.named_iff_mem, checkBound]
  split <;> simp_all

theorem checkBound_eq_error_iff {e : SpecError} :
    checkBound request path parameter = .error e ↔
      rootField parameter ∉ request.map Field.name ∧ e = .unboundParameter path (rootField parameter) := by
  rw [←Field.named_iff_mem, checkBound]
  split
  case isTrue h  => simp [h]
  case isFalse h => simpa [h] using eq_comm

-- Placeholders are looked up from left to right, and the first that names no field decides.
theorem forM_checkBound_eq_error_iff {parameters : List String} {e : SpecError} :
    parameters.forM (checkBound request path) = .error e ↔
      ∃ earlier p later, parameters = earlier ++ p :: later ∧
        (∀ q ∈ earlier, rootField q ∈ request.map Field.name) ∧ rootField p ∉ request.map Field.name ∧
        e = .unboundParameter path (rootField p) := by
  simp only [forM_eq_error_iff, checkBound_eq_ok_iff, checkBound_eq_error_iff]

end Placeholders

namespace Body

-- What a selector selects among the fields of the request. White space around it does not count.
inductive Selected (request : List Field) : Option String → Option Body → Prop
  | absent : Selected request none none
  | blank {selector : String} : AllBlank selector.toList → Selected request (some selector) none
  | all {selector : String} : trimmedText selector = "*" → Selected request (some selector) (some .all)
  | field {selector : String} :
      ¬AllBlank selector.toList → trimmedText selector ≠ "*" →
      trimmedText selector ∈ request.map Field.name →
      Selected request (some selector) (some (.field (trimmedText selector)))

-- A selector that selects nothing although it is there.
structure Dangling (request : List Field) (selector : String) : Prop where
  notBlank : ¬AllBlank selector.toList
  notAll   : trimmedText selector ≠ "*"
  notField : trimmedText selector ∉ request.map Field.name

variable {request : List Field} {selector : Option String} {body : Option Body}

-- What is left of the choice once a selector is neither blank nor `*`.
theorem parse_of_text {s : String} (hb : ¬AllBlank s.toList) (ha : trimmedText s ≠ "*") :
    Body.parse request (some s) =
      if Field.named request (trimmedText s) then .ok (some (.field (trimmedText s)))
      else .error (.invalidBody (trimmedText s)) := by
  have he : trimmedText s ≠ "" := mt trimmedText_eq_empty_iff.mp hb
  simp only [Body.parse, Option.map_some]
  rw [←trimmedText]
  split
  case h_1 h => cases h
  case h_2 h => exact absurd (Option.some.inj h) he
  case h_3 h => exact absurd (Option.some.inj h) ha
  case h_4 h =>
    cases h
    rfl

theorem parse_of_selected (h : Selected request selector body) :
    Body.parse request selector = .ok body := by
  cases h
  case absent => rfl
  case blank s h =>
    have ht : trimmedText s = "" := trimmedText_eq_empty_iff.mpr h
    rw [Body.parse, Option.map_some, ←trimmedText, ht]
    rfl
  case all s h =>
    rw [Body.parse, Option.map_some, ←trimmedText, h]
    rfl
  case field hb ha hm => rw [parse_of_text hb ha, if_pos <| Field.named_iff_mem.mpr hm]

theorem parse_of_dangling {s : String} (h : Dangling request s) :
    Body.parse request (some s) = .error (.invalidBody (trimmedText s)) := by
  rw [parse_of_text h.notBlank h.notAll, if_neg <| Field.named_iff_mem.not.mpr h.notField]

theorem exists_selected_or_dangling (request : List Field) (selector : Option String) :
    (∃ body, Selected request selector body) ∨ (∃ s, selector = some s ∧ Dangling request s) := by
  cases selector
  case none => exact .inl ⟨_, .absent⟩
  case some s =>
    by_cases hb : AllBlank s.toList
    case pos => exact .inl ⟨_, .blank hb⟩
    case neg =>
      by_cases ha : trimmedText s = "*"
      case pos => exact .inl ⟨_, .all ha⟩
      case neg =>
        by_cases hm : trimmedText s ∈ request.map Field.name
        case pos => exact .inl ⟨_, .field hb ha hm⟩
        case neg => exact .inr ⟨s, rfl, hb, ha, hm⟩

theorem parse_eq_ok_iff : Body.parse request selector = .ok body ↔ Selected request selector body := by
  refine ⟨fun h => ?_, parse_of_selected⟩
  obtain ⟨body', hs⟩ | ⟨s, rfl, hd⟩ := exists_selected_or_dangling request selector
  case inl =>
    cases h.symm.trans <| parse_of_selected hs
    exact hs
  case inr => cases h.symm.trans <| parse_of_dangling hd

theorem Selected.field_mem {name : String} (h : Selected request selector (some (.field name))) :
    name ∈ request.map Field.name := by
  cases h
  assumption

end Body

namespace Rpc

variable {typing : Typing} {s : RpcSpec} {r : Rpc} {e : SpecError}
variable {req res : List Field} {m : Mapping} {ps : List String}

-- What holds once the names have been checked, then the messages, the mapping and the placeholders.
structure Named (s : RpcSpec) : Prop where
  service : isIdentifier s.service.toList = true
  rpc     : isIdentifier s.rpc.toList = true

structure MessagesRead (typing : Typing) (s : RpcSpec) (req res : List Field) : Prop extends Named s where
  request  : Field.parse typing s.request = .ok req
  response : Field.parse typing s.response = .ok res

structure MappingRead (typing : Typing) (s : RpcSpec) (req res : List Field) (m : Mapping) : Prop
    extends MessagesRead typing s req res where
  mapping : Mapping.parse s.http = .ok m

structure PathBound (typing : Typing) (s : RpcSpec) (req res : List Field) (m : Mapping)
    (ps : List String) : Prop extends MappingRead typing s req res m where
  parameters : Template.parameters m.path = .ok ps
  bound      : ∀ p ∈ ps, rootField p ∈ req.map Field.name

-- The first check that fails, with the error that it gives.
inductive Refused (typing : Typing) (s : RpcSpec) : SpecError → Prop
  | service :
      isIdentifier s.service.toList = false → Refused typing s (.invalidIdentifier .service s.service)
  | rpc :
      isIdentifier s.service.toList = true → isIdentifier s.rpc.toList = false →
      Refused typing s (.invalidIdentifier .rpc s.rpc)
  | request {e : SpecError} :
      Named s → Field.parse typing s.request = .error e → Refused typing s e
  | response {e : SpecError} {req : List Field} :
      Named s → Field.parse typing s.request = .ok req → Field.parse typing s.response = .error e →
      Refused typing s e
  | mapping {e : SpecError} {req res : List Field} :
      MessagesRead typing s req res → Mapping.parse s.http = .error e → Refused typing s e
  | placeholders {e : SpecError} {req res : List Field} {m : Mapping} :
      MappingRead typing s req res m → Template.parameters m.path = .error e → Refused typing s e
  | unbound {req res : List Field} {m : Mapping} {earlier later : List String} {p : String} :
      MappingRead typing s req res m → Template.parameters m.path = .ok (earlier ++ p :: later) →
      (∀ q ∈ earlier, rootField q ∈ req.map Field.name) → rootField p ∉ req.map Field.name →
      Refused typing s (.unboundParameter m.path (rootField p))
  | body {req res : List Field} {m : Mapping} {ps : List String} {selector : String} :
      PathBound typing s req res m ps → s.body = some selector → Body.Dangling req selector →
      Refused typing s (.invalidBody (trimmedText selector))

theorem parse_of_named (h : Named s) :
    parse typing s = do
      let req ← Field.parse typing s.request
      let res ← Field.parse typing s.response
      let m ← Mapping.parse s.http
      let ps ← Template.parameters m.path
      ps.forM (checkBound req m.path)
      let body ← Body.parse req s.body
      return ⟨s.service, s.rpc, req, res, m, body⟩ := by
  have hs : checkIdentifier .service s.service = .ok () := checkIdentifier_eq_ok_iff.mpr h.service
  have hn : checkIdentifier .rpc s.rpc = .ok () := checkIdentifier_eq_ok_iff.mpr h.rpc
  rw [parse, hs, ok_bind, hn, ok_bind]

theorem parse_of_mappingRead (h : MappingRead typing s req res m) :
    parse typing s = do
      let ps ← Template.parameters m.path
      ps.forM (checkBound req m.path)
      let body ← Body.parse req s.body
      return ⟨s.service, s.rpc, req, res, m, body⟩ := by
  rw [parse_of_named h.toNamed, h.request, ok_bind, h.response, ok_bind, h.mapping, ok_bind]

theorem parse_of_pathBound (h : PathBound typing s req res m ps) :
    parse typing s = do
      let body ← Body.parse req s.body
      return ⟨s.service, s.rpc, req, res, m, body⟩ := by
  have hb : ps.forM (checkBound req m.path) = .ok () :=
    forM_eq_ok_iff.mpr fun p hp => checkBound_eq_ok_iff.mpr <| h.bound p hp
  rw [parse_of_mappingRead h.toMappingRead, h.parameters, ok_bind, hb, ok_bind]

theorem parse_of_refused (h : Refused typing s e) : parse typing s = .error e := by
  cases h
  case service h => rw [parse, checkIdentifier_of_not_isIdentifier h, error_bind]
  case rpc hs h =>
    rw [parse, checkIdentifier_eq_ok_iff.mpr hs, ok_bind, checkIdentifier_of_not_isIdentifier h, error_bind]
  case request hn h     => rw [parse_of_named hn, h, error_bind]
  case response hn hq h => rw [parse_of_named hn, hq, ok_bind, h, error_bind]
  case mapping hm h =>
    rw [parse_of_named hm.toNamed, hm.request, ok_bind, hm.response, ok_bind, h, error_bind]
  case placeholders hm h => rw [parse_of_mappingRead hm, h, error_bind]
  case unbound req _ m earlier later p hm hp he h =>
    have hb : (earlier ++ p :: later).forM (checkBound req m.path) = .error _ :=
      forM_checkBound_eq_error_iff.mpr ⟨earlier, p, later, rfl, he, h, rfl⟩
    rw [parse_of_mappingRead hm, hp, ok_bind, hb, error_bind]
  case body hp hs h => rw [parse_of_pathBound hp, hs, Body.parse_of_dangling h, error_bind]

-- Going through the checks in their order, each either fails or leaves the rest to be done.
theorem refused_or_pathBound (typing : Typing) (s : RpcSpec) :
    (∃ e, Refused typing s e) ∨ ∃ req res m ps, PathBound typing s req res m ps := by
  cases hs : isIdentifier s.service.toList
  case false => exact .inl ⟨_, .service hs⟩
  cases hn : isIdentifier s.rpc.toList
  case false => exact .inl ⟨_, .rpc hs hn⟩
  cases hq : Field.parse typing s.request
  case error => exact .inl ⟨_, .request ⟨hs, hn⟩ hq⟩
  cases hp : Field.parse typing s.response
  case error => exact .inl ⟨_, .response ⟨hs, hn⟩ hq hp⟩
  cases hm : Mapping.parse s.http
  case error => exact .inl ⟨_, .mapping ⟨⟨hs, hn⟩, hq, hp⟩ hm⟩
  case ok req res m =>
    have hr : MappingRead typing s req res m := ⟨⟨⟨hs, hn⟩, hq, hp⟩, hm⟩
    cases ht : Template.parameters m.path
    case error => exact .inl ⟨_, .placeholders hr ht⟩
    case ok ps =>
      cases hb : ps.forM (checkBound req m.path)
      case ok =>
        have hbound := fun p hp => checkBound_eq_ok_iff.mp <| forM_eq_ok_iff.mp hb p hp
        exact .inr ⟨_, _, _, _, hr, ht, hbound⟩
      case error =>
        obtain ⟨earlier, p, later, rfl, he, h, -⟩ := forM_checkBound_eq_error_iff.mp hb
        exact .inl ⟨_, .unbound hr ht he h⟩

theorem exists_ok_or_refused (typing : Typing) (s : RpcSpec) :
    (∃ r, parse typing s = .ok r) ∨ ∃ e, Refused typing s e := by
  obtain h | ⟨req, res, m, ps, h⟩ := refused_or_pathBound typing s
  case inl => exact .inr h
  case inr =>
    obtain ⟨body, hs⟩ | ⟨selector, hs, hd⟩ := Body.exists_selected_or_dangling req s.body
    case inl =>
      refine .inl ⟨⟨s.service, s.rpc, req, res, m, body⟩, ?_⟩
      rw [parse_of_pathBound h, Body.parse_of_selected hs, ok_bind]
      rfl
    case inr => exact .inr ⟨_, .body h hs hd⟩

theorem parse_eq_error_iff : parse typing s = .error e ↔ Refused typing s e := by
  refine ⟨fun h => ?_, parse_of_refused⟩
  obtain ⟨r, hr⟩ | ⟨e', he⟩ := exists_ok_or_refused typing s
  case inl => cases h.symm.trans hr
  case inr =>
    cases h.symm.trans <| parse_of_refused he
    exact he

-- The parts of the RPC are what the checks have read, its names those of the request.
structure Assembled (typing : Typing) (s : RpcSpec) (r : Rpc) (ps : List String) : Prop
    extends PathBound typing s r.request r.response r.mapping ps where
  serviceKept : r.service = s.service
  nameKept    : r.name = s.rpc
  body        : Body.Selected r.request s.body r.body

theorem Assembled.parse_eq (h : Assembled typing s r ps) : parse typing s = .ok r := by
  rw [parse_of_pathBound h.toPathBound, Body.parse_of_selected h.body, ok_bind, ←h.serviceKept, ←h.nameKept]
  rfl

theorem ReadFrom.exists_assembled (h : ReadFrom typing s r) : ∃ ps, Assembled typing s r ps := by
  obtain ⟨ps, hps, hb⟩ := h.placeholders
  have hm : MappingRead typing s r.request r.response r.mapping :=
    ⟨⟨⟨h.isService, h.isName⟩, h.request, h.response⟩, h.mapping⟩
  have hp : PathBound typing s r.request r.response r.mapping ps :=
    ⟨hm, hps, fun p hp => Field.named_iff_mem.mp <| hb p hp⟩
  exact ⟨ps, hp, h.service, h.name, Body.parse_eq_ok_iff.mp h.body⟩

theorem parse_eq_ok_iff_assembled : parse typing s = .ok r ↔ ∃ ps, Assembled typing s r ps :=
  ⟨fun h => (parse_eq_ok_iff.mp h).exists_assembled, fun ⟨_, h⟩ => h.parse_eq⟩

-- All names that path and body use are those of request fields.
structure Closed (r : Rpc) : Prop where
  path : ∃ ps, Template.parameters r.mapping.path = .ok ps ∧
    ∀ p ∈ ps, rootField p ∈ r.request.map Field.name
  body : ∀ name, r.body = some (.field name) → name ∈ r.request.map Field.name

theorem Assembled.closed (h : Assembled typing s r ps) : r.Closed where
  path := ⟨ps, h.parameters, h.bound⟩
  body _ hn := (hn ▸ h.body).field_mem

theorem decides_in_order (typing : Typing) (s : RpcSpec) :
    (∀ r, parse typing s = .ok r ↔ ∃ ps, Assembled typing s r ps) ∧
    (∀ e, parse typing s = .error e ↔ Refused typing s e) ∧
    (∀ r, parse typing s = .ok r → r.Closed) := by
  refine ⟨fun _ => parse_eq_ok_iff_assembled, fun _ => parse_eq_error_iff, fun r h => ?_⟩
  obtain ⟨_, ha⟩ := parse_eq_ok_iff_assembled.mp h
  exact ha.closed

-- The selector has no field of its name either, but the second placeholder is looked at before it.
theorem decides_in_order_books :
    (∃ r, parse (.strict ["book"])
        ⟨"Shelf", "Put", "book:Book", "", "PUT:/v1/\x7bbook.id\x7d", some " * "⟩ = .ok r ∧ r.Closed) ∧
    parse .lenient
        ⟨"Shelf", "Find", "id:string", "", "GET:/\x7bid\x7d/\x7bauthor.name\x7d/\x7bx\x7d", some "y"⟩ =
      .error (.unboundParameter "/\x7bid\x7d/\x7bauthor.name\x7d/\x7bx\x7d" "author") := by
  constructor
  case left =>
    have h : parse (.strict ["book"])
        ⟨"Shelf", "Put", "book:Book", "", "PUT:/v1/\x7bbook.id\x7d", some " * "⟩ =
        .ok ⟨"Shelf", "Put", [⟨"book", .message "Book", false⟩], [],
          ⟨.put, "/v1/\x7bbook.id\x7d"⟩, some .all⟩ := by decide +kernel
    exact ⟨_, h, (decides_in_order _ _).2.2 _ h⟩
  case right =>
    have hm : MappingRead .lenient
        ⟨"Shelf", "Find", "id:string", "", "GET:/\x7bid\x7d/\x7bauthor.name\x7d/\x7bx\x7d", some "y"⟩
        [⟨"id", .primitive .string, false⟩] [] ⟨.get, "/\x7bid\x7d/\x7bauthor.name\x7d/\x7bx\x7d"⟩ := by
      refine ⟨⟨⟨?_, ?_⟩, ?_, ?_⟩, ?_⟩ <;> decide +kernel
    have ht : Template.parameters "/\x7bid\x7d/\x7bauthor.name\x7d/\x7bx\x7d" =
        .ok (["id"] ++ "author.name" :: ["x"]) := by decide +kernel
    exact ((decides_in_order _ _).2.1 _).mpr <| .unbound hm ht (by decide) (by decide)

end Rpc
end Scaffold
