import Scaffold.Proofs.Field.Spacing
import Scaffold.Proofs.Http.Template
import Scaffold.Proofs.Operation.Identity

namespace Scaffold

open Text

-- Characters that end or quote an argument, or that a shell takes for something else than themselves.
def hazards : List Char :=
  ['\x00', '\t', '\n', '\r', '!', '\x22', '#', '$', '%', '&', '\x27', '(', ')', '*', ';', '<', '>', '?', '[',
    '\x5c', ']', '^', '\x60', '{', '|', '}', '~']

-- An argument that is no option, and is taken as it stands. A body of all fields is an asterisk.
structure Harmless (a : String) : Prop where
  noOption : a.toList.head? ≠ some '-'
  literal  : a = "body=*" ∨ ∀ c ∈ a.toList, c ∉ hazards

-- Decided for the characters of a text, and not for all that there are.
theorem forall_mem_of_all {p : Char → Prop} [DecidablePred p] {s : List Char} (h : s.all (p ·) = true) :
    ∀ c ∈ s, p c := by
  simpa using h

theorem not_mem_hazards_of_isWordChar {c : Char} (h : isWordChar c = true) : c ∉ hazards := by
  have hn : ∀ d ∈ hazards, isWordChar d = false := forall_mem_of_all <| by decide
  intro hm
  rw [hn c hm] at h
  contradiction

theorem harmless_of_forall_mem {a : String} (h : ∀ c ∈ a.toList, isWordChar c = true ∨ c ∈ [':', ',', ' ', '=']) :
    Harmless a where
  noOption hd := by
    have hc := h '-' <| List.mem_of_mem_head? hd
    revert hc
    decide
  literal := by
    have hs : ∀ c ∈ [':', ',', ' ', '='], c ∉ hazards := forall_mem_of_all <| by decide
    exact .inr fun c hc => (h c hc).elim not_mem_hazards_of_isWordChar (hs c)

theorem harmless_of_isIdentifier {name : String} (h : isIdentifier name.toList = true) : Harmless name :=
  harmless_of_forall_mem fun _ hc => .inl <| isWordChar_of_mem_isIdentifier h hc

-- Fields as they are written for the generator.
structure FieldsText (text : String) : Prop where
  chars  : ∀ c ∈ text.toList, isWordChar c = true ∨ c ∈ [':', ',', ' ']
  spaced : Field.Spaced text.toList

namespace FieldsText

theorem harmless {text : String} (h : FieldsText text) : Harmless text := by
  refine harmless_of_forall_mem fun c hc => (h.chars c hc).imp_right fun hm => ?_
  exact List.mem_append_left ['='] hm

end FieldsText

namespace Field

variable {f : Field} {fs : List Field}

theorem WellFormed.chars_text (h : f.WellFormed) :
    ∀ c ∈ f.text.toList, isWordChar c = true ∨ c ∈ [':', ',', ' '] := by
  have hword {w : List Char} (hw : isIdentifier w = true) : ∀ c ∈ w, isWordChar c = true ∨ c ∈ [':', ',', ' '] :=
    fun c hc => .inl <| isWordChar_of_mem_isIdentifier hw hc
  have htype := hword h.type.isIdentifier_text
  rw [toList_text, value, List.forall_mem_append, List.forall_mem_cons]
  refine ⟨hword h.name, .inr <| by decide, ?_⟩
  cases f.repeated
  case false => exact htype
  case true =>
    rw [if_pos rfl, List.forall_mem_append, List.forall_mem_cons]
    exact ⟨hword <| by decide, .inr <| by decide, htype⟩

theorem fieldsText_textAll (h : ∀ f ∈ fs, f.WellFormed) : FieldsText (textAll fs) where
  chars := by
    rw [toList_textAll, forall_mem_intercalate_iff (.inr <| by decide), List.forall_mem_map]
    exact fun f hf => (h f hf).chars_text
  spaced := spaced_textAll h

end Field

theorem Verb.isUpper_of_mem_text (v : Verb) : ∀ c ∈ v.text.toList, c.isUpper = true := by
  refine forall_mem_of_all ?_
  cases v <;> decide

-- A mapping whose verb is in capitals and whose path is flat.
inductive MappingText : String → Prop
  | intro {verb : Verb} {path : String} {parts : List Template.Part} :
      (∀ c ∈ verb.text.toList, c.isUpper = true) →
      path.toList.head? = some '/' →
      (∀ c ∈ path.toList.getLast?, isBlank c = false) →
      Template.Spells parts path.toList →
      MappingText (verb.text ++ ":" ++ path)

-- What follows the mapping, if anything does.
inductive BodyArgument : List String → Prop
  | none : BodyArgument []
  | all : BodyArgument ["body=*"]
  | field {name : String} : isIdentifier name.toList = true → BodyArgument ["body=" ++ name]

theorem BodyArgument.harmless {args : List String} (h : BodyArgument args) : ∀ a ∈ args, Harmless a := by
  cases h
  case none => simp
  case all => simpa using ⟨by decide, .inl rfl⟩
  case field name hn =>
    rw [List.forall_mem_singleton]
    refine harmless_of_forall_mem ?_
    rw [String.toList_append, List.forall_mem_append]
    exact ⟨forall_mem_of_all <| by decide, fun c hc => .inl <| isWordChar_of_mem_isIdentifier hn hc⟩

namespace Rpc.ReadFrom

variable {typing : Typing} {s : RpcSpec} {r : Rpc} (h : ReadFrom typing s r)
include h

theorem mappingText : MappingText r.mapping.text := by
  obtain ⟨hslash, htrimmed⟩ := Mapping.wellFormed_of_parse h.mapping
  obtain ⟨_, hps, -⟩ := h.placeholders
  obtain ⟨_, hspells, -⟩ := Template.parameters_eq_ok_iff.mp hps
  exact .intro r.mapping.verb.isUpper_of_mem_text hslash htrimmed.last hspells

theorem bodyArgument : BodyArgument (r.body.map fun b => "body=" ++ b.text).toList := by
  have hbody := h.body
  revert hbody
  cases r.body
  case none => exact fun _ => .none
  case some b =>
    cases b
    case all        => exact fun _ => .all
    case field name =>
      intro hbody
      exact .field <| Field.isIdentifier_of_named h.wellFormed_request <| Body.named_of_parse hbody

end Rpc.ReadFrom

namespace Request

-- The arguments of a request, each of a kind that has been checked.
inductive Vetted : Request → List String → Prop
  | create {service fields name text : String} :
      isIdentifier name.toList = true →
      FieldsText text →
      Vetted (.create service fields) [name, text]
  | addRpc {spec : RpcSpec} {service rpc request response mapping : String} {body : List String} :
      isIdentifier service.toList = true →
      isIdentifier rpc.toList = true →
      FieldsText request →
      FieldsText response →
      MappingText mapping →
      BodyArgument body →
      Vetted (.addRpc spec) (["add-rpc", service, rpc, request, response, "http=" ++ mapping] ++ body)

variable {tool : Tool} {c : Config} {cwd : Location} {d : Disk} {r : Request} {t : Task} {args : List String}

theorem ReadAs.vetted {names : List String} (h : r.ReadAs c names t) (hr : ∀ service, r ≠ .remove service)
    (hr' : r ≠ .regenerate) : r.Vetted (t.invocation c).arguments := by
  cases h
  case create hi hf =>
    refine .create (by simpa using hi) <| Field.fieldsText_textAll fun f hm => ?_
    exact (Field.accepted_of_parse hf f hm).toWellFormed
  case addRpc spec rpc hp =>
    have hread := Rpc.parse_eq_ok_iff.mp hp
    refine .addRpc ?_ ?_ (Field.fieldsText_textAll hread.wellFormed_request)
      (Field.fieldsText_textAll hread.wellFormed_response) hread.mappingText hread.bodyArgument
    · exact hread.service ▸ hread.isService
    · exact hread.name ▸ hread.isName
  case remove     => exact absurd rfl <| hr _
  case regenerate => contradiction

-- The mapping stands at the sixth place, and no other argument has a path in it.
theorem Vetted.harmless (h : r.Vetted args) : ∀ a ∈ args.eraseIdx 5, Harmless a := by
  cases h
  case create hn ht => simpa using ⟨harmless_of_isIdentifier hn, ht.harmless⟩
  case addRpc service rpc request response mapping body hs hn hq hp hm hb =>
    have hmode : Harmless "add-rpc" := ⟨by decide, .inr <| forall_mem_of_all <| by decide⟩
    have hrest : ∀ a ∈ ["add-rpc", service, rpc, request, response], Harmless a := by
      simpa using ⟨hmode, harmless_of_isIdentifier hs, harmless_of_isIdentifier hn, hq.harmless, hp.harmless⟩
    exact List.forall_mem_append.mpr ⟨hrest, hb.harmless⟩

theorem given_of_refused {e : Failure} (tool : Tool) (h : Refused c (stems c cwd d) r e) :
    given (r.perform tool c cwd d) = [] := by
  rw [given, (perform_of_refused tool h).2.1, List.map_nil]

theorem vetted_of_mem_given (hr : ∀ service, r ≠ .remove service) (hr' : r ≠ .regenerate)
    (h : args ∈ given (r.perform tool c cwd d)) : r.Vetted args := by
  obtain ⟨t, ht⟩ | ⟨e, he⟩ := exists_readAs_or_refused c (stems c cwd d) r
  case inl =>
    rw [given_perform <| check_of_readAs ht, List.mem_singleton] at h
    exact h ▸ ht.vetted hr hr'
  case inr =>
    rw [given_of_refused tool he] at h
    contradiction

-- Whatever is accepted is sent once, and nothing else is sent.
theorem only_paths_are_free (tool : Tool) (c : Config) (cwd : Location) (d : Disk)
    (hr : ∀ service, r ≠ .remove service) (hr' : r ≠ .regenerate) :
    (∀ t, r.check c (stems c cwd d) = .ok t → ∃ args, given (r.perform tool c cwd d) = [args]) ∧
    ∀ args ∈ given (r.perform tool c cwd d), r.Vetted args ∧ ∀ a ∈ args.eraseIdx 5, Harmless a := by
  refine ⟨fun t ht => ⟨_, given_perform ht⟩, fun args h => ?_⟩
  have hv := vetted_of_mem_given hr hr' h
  exact ⟨hv, hv.harmless⟩

-- The path is sent as it was written, and would be run by a shell.
theorem only_paths_are_free_item :
    let r : Request :=
      .addRpc ⟨"Item", "Get", " id : string ", "repeated Item items", "get: /v1/\x7bid\x7d/$(x)", some " * "⟩
    let args :=
      ["add-rpc", "Item", "Get", "id:string", "items:repeated Item", "http=GET:/v1/\x7bid\x7d/$(x)", "body=*"]
    given (r.perform (fun _ _ => .failed "") (.ofRoot "/" "/p") [] .empty) = [args] ∧
      r.Vetted args ∧ (∀ a ∈ args.eraseIdx 5, Harmless a) ∧ ¬Harmless "http=GET:/v1/\x7bid\x7d/$(x)" := by
  intro r args
  have h : r.check (.ofRoot "/" "/p") (stems (.ofRoot "/" "/p") [] .empty) =
      .ok (.addRpc ⟨"Item", "Get", [⟨"id", .primitive .string, false⟩], [⟨"items", .message "Item", true⟩],
        ⟨.get, "/v1/\x7bid\x7d/$(x)"⟩, some .all⟩) := by decide +kernel
  have hgiven : given (r.perform (fun _ _ => .failed "") (.ofRoot "/" "/p") [] .empty) = [args] := by
    rw [given_perform h]
    decide +kernel
  obtain ⟨-, hsent⟩ := only_paths_are_free (r := r) (fun _ _ => .failed "") (.ofRoot "/" "/p") [] .empty
    (by simp [r]) (by simp [r])
  obtain ⟨hv, hharmless⟩ := hsent args (hgiven ▸ List.mem_singleton_self _)
  refine ⟨hgiven, hv, hharmless, fun hm => ?_⟩
  obtain heq | hliteral := hm.literal
  · revert heq
    decide
  · exact hliteral '$' (by decide +kernel) (by decide)

end Request
end Scaffold
