import Scaffold.CommandLine.Run
import Scaffold.Proofs.Artifact.Listing
import Scaffold.Proofs.Field.Strict
import Scaffold.Proofs.Operation.Perform
import Scaffold.Proofs.Rpc.Decision

namespace Scaffold

open Text

-- The same configuration with the one setting made.
def Config.strict (c : Config) : Config :=
  { c with strictTypes := true }

def Config.lenient (c : Config) : Config :=
  { c with strictTypes := false }

variable {c : Config} {names : List String} {r : Request} {t : Task}

namespace Rpc

variable {typing : Typing} {s : RpcSpec} {rpc : Rpc}

theorem parse_lenient_of_parse (h : parse typing s = .ok rpc) : parse .lenient s = .ok rpc := by
  have hr := parse_eq_ok_iff.mp h
  exact parse_eq_ok_iff.mpr { hr with
    request  := Field.parse_lenient_of_parse hr.request
    response := Field.parse_lenient_of_parse hr.response }

-- Request and response are read one after the other, so their fields are checked in that order.
theorem parse_of_lenient (typing : Typing) (h : parse .lenient s = .ok rpc) :
    parse typing s = (do
      (rpc.request ++ rpc.response).forM (Field.checkKnown typing)
      return rpc) := by
  have hr := parse_eq_ok_iff.mp h
  have hn : Named s := ⟨hr.isService, hr.isName⟩
  have hq := Field.parse_of_lenient typing hr.request
  have hp := Field.parse_of_lenient typing hr.response
  simp only [List.forM_eq_forM] at hq hp ⊢
  rw [List.forM_append]
  cases hfq : forM rpc.request (Field.checkKnown typing)
  case error =>
    rw [hfq, error_bind] at hq
    rw [parse_of_named hn, hq, error_bind, error_bind, error_bind]
  case ok =>
    rw [hfq, ok_bind] at hq
    cases hfp : forM rpc.response (Field.checkKnown typing)
    case error =>
      rw [hfp, error_bind] at hp
      rw [parse_of_named hn, hq, hp]
      rfl
    case ok =>
      rw [hfp, ok_bind] at hp
      exact parse_eq_ok_iff.mpr { hr with request := hq, response := hp }

end Rpc

-- `f` is the first of the fields whose type is not known, and `n` is the name of that type.
inductive Field.FirstUnknown (names : List String) : List Field → Field → String → Prop
  | intro {pre post : List Field} {f : Field} {n : String} :
      (∀ g ∈ pre, g.Known names) →
      f.type = .message n →
      lower n ∉ names.map lower →
      FirstUnknown names (pre ++ f :: post) f n

namespace Field.FirstUnknown

variable {fs : List Field} {f : Field} {n : String}

theorem mem (h : FirstUnknown names fs f n) : f ∈ fs := by
  cases h
  simp

theorem unknown (h : FirstUnknown names fs f n) : f.type = .message n ∧ lower n ∉ names.map lower := by
  obtain ⟨-, hn, hk⟩ := h
  exact ⟨hn, hk⟩

theorem not_forall_known (h : FirstUnknown names fs f n) : ¬∀ g ∈ fs, g.Known names :=
  fun hall => h.unknown.2 <| hall f h.mem n h.unknown.1

end Field.FirstUnknown

-- The fields of a task, in the order in which they are checked.
def Task.fields : Task → List Field
  | .create _ fields => fields
  | .addRpc rpc => rpc.request ++ rpc.response
  | .remove _ => []
  | .regenerate => []

namespace Request

-- The services that a request may refer to, if types are strict. A new service may refer to itself.
def known (names : List String) : Request → List String
  | .create service _ => names ++ [trimmedText service]
  | _ => names

theorem check_lenient_of_strict (h : r.check c.strict names = .ok t) : r.check c.lenient names = .ok t := by
  refine check_of_readAs ?_
  cases check_eq_ok_iff.mp h
  case create hi hf => exact .create hi <| Field.parse_lenient_of_parse hf
  case addRpc hr    => exact .addRpc <| Rpc.parse_lenient_of_parse hr
  case remove hn    => exact .remove hn
  case regenerate   => exact .regenerate

theorem check_strict_of_lenient (h : r.check c.lenient names = .ok t) :
    r.check c.strict names = (do
      orFailure (t.fields.forM (Field.checkKnown (.strict (r.known names))))
      return t) := by
  cases check_eq_ok_iff.mp h
  case create service fields fs hi hf =>
    have ht : c.strict.typing names (some (trimmedText service)) = .strict (names ++ [trimmedText service]) :=
      rfl
    have hf' := Field.parse_of_lenient (.strict (names ++ [trimmedText service])) hf
    simp only [check, createName_of_isIdentifier hi, ok_bind, ht, hf', Task.fields, known]
    cases fs.forM (Field.checkKnown (.strict (names ++ [trimmedText service]))) <;> rfl
  case addRpc s rpc hr =>
    have hr' := Rpc.parse_of_lenient (.strict names) hr
    have ht : c.strict.typing names none = .strict names := by
      simp [Config.typing, Config.strict]
    simp only [check, ht, hr', Task.fields, known]
    cases (rpc.request ++ rpc.response).forM (Field.checkKnown (.strict names)) <;> rfl
  case remove hn =>
    simp only [check, trimName_of_not_allBlank hn]
    rfl
  case regenerate => rfl

-- Strict types leave the request alone, or refuse it for the first of its fields that is not known.
theorem check_strict_eq_or (h : r.check c.lenient names = .ok t) :
    (∀ f ∈ t.fields, f.Known (r.known names)) ∧ r.check c.strict names = .ok t ∨
    ∃ f n, Field.FirstUnknown (r.known names) t.fields f n ∧
      r.check c.strict names = .error (.spec (.unknownType f.name n)) := by
  have hs := check_strict_of_lenient h
  cases hf : t.fields.forM (Field.checkKnown (.strict (r.known names)))
  case ok =>
    rw [hf] at hs
    exact .inl ⟨fun f hm => Field.checkKnown_strict_eq_ok_iff.mp <| forM_eq_ok_iff.mp hf f hm, hs⟩
  case error e =>
    rw [hf] at hs
    obtain ⟨pre, f, post, hsplit, hpre, he⟩ := forM_eq_error_iff.mp hf
    obtain ⟨n, hn, hk, rfl⟩ := Field.checkKnown_strict_eq_error_iff.mp he
    have hfirst : Field.FirstUnknown (r.known names) (pre ++ f :: post) f n :=
      .intro (fun g hg => Field.checkKnown_strict_eq_ok_iff.mp <| hpre g hg) hn hk
    exact .inr ⟨f, n, hsplit ▸ hfirst, hs⟩

-- The fields that a request has when it is read without strict types.
def fields : Request → List Field
  | create _ fields => (Field.parse .lenient fields).toOption.getD []
  | addRpc spec => ((Rpc.parse .lenient spec).toOption.map fun rpc => rpc.request ++ rpc.response).getD []
  | remove _ => []
  | regenerate => []

theorem fields_of_readAs (h : ReadAs c.lenient names r t) : r.fields = t.fields := by
  cases h
  case create hf =>
    have hf : Field.parse .lenient _ = .ok _ := hf
    simp [fields, Task.fields, hf, Except.toOption]
  case addRpc hr =>
    have hr : Rpc.parse .lenient _ = .ok _ := hr
    simp [fields, Task.fields, hr, Except.toOption]
  case remove     => rfl
  case regenerate => rfl

section Perform

variable {tool : Tool} {cwd : Location} {d : Disk}

-- How a task is carried out is no matter of types.
theorem perform_strict_of_readAs (tool : Tool) (h : ReadAs c.lenient (stems c cwd d) r t)
    (hs : ReadAs c.strict (stems c cwd d) r t) :
    launches (r.perform tool c.strict cwd d).journal = launches (r.perform tool c.lenient cwd d).journal ∧
      (r.perform tool c.strict cwd d).result = (r.perform tool c.lenient cwd d).result ∧
      (r.perform tool c.strict cwd d).disk = (r.perform tool c.lenient cwd d).disk := by
  have ht : t.perform tool c.strict d = t.perform tool c.lenient d := by cases t <;> rfl
  obtain ⟨hr, hl, hd⟩ := perform_of_readAs tool h
  obtain ⟨hr', hl', hd'⟩ := perform_of_readAs (c := c.strict) tool hs
  exact ⟨by rw [hl, hl', ht], by rw [hr, hr', ht], by rw [hd, hd', ht]⟩

-- Refused either way, carried out either way, or carried out only if types are not strict.
inductive StrictCase (tool : Tool) (c : Config) (cwd : Location) (d : Disk) (r : Request) : Prop
  | refused :
      launches (r.perform tool c.lenient cwd d).journal = [] →
      launches (r.perform tool c.strict cwd d).journal = [] →
      StrictCase tool c cwd d r
  | same :
      launches (r.perform tool c.lenient cwd d).journal ≠ [] →
      (∀ f ∈ r.fields, f.Known (r.known (stems c cwd d))) →
      launches (r.perform tool c.strict cwd d).journal = launches (r.perform tool c.lenient cwd d).journal ∧
        (r.perform tool c.strict cwd d).result = (r.perform tool c.lenient cwd d).result ∧
        (r.perform tool c.strict cwd d).disk = (r.perform tool c.lenient cwd d).disk →
      StrictCase tool c cwd d r
  | filtered {f : Field} {n : String} :
      launches (r.perform tool c.lenient cwd d).journal ≠ [] →
      launches (r.perform tool c.strict cwd d).journal = [] →
      Field.FirstUnknown (r.known (stems c cwd d)) r.fields f n →
      (r.perform tool c.strict cwd d).result = .error (.spec (.unknownType f.name n)) →
      StrictCase tool c cwd d r

-- Both settings list the same services, so the two checks differ in nothing but the types.
theorem strictCase (tool : Tool) (c : Config) (cwd : Location) (d : Disk) (r : Request) :
    StrictCase tool c cwd d r := by
  obtain ⟨t, ht⟩ | ⟨e, he⟩ := exists_readAs_or_refused c.lenient (stems c cwd d) r
  case inr =>
    obtain ⟨t, ht⟩ | ⟨e', he'⟩ := exists_readAs_or_refused c.strict (stems c cwd d) r
    case inl =>
      have hl := check_lenient_of_strict <| check_of_readAs ht
      cases hl.symm.trans <| check_of_refused he
    case inr =>
      exact .refused (perform_of_refused (c := c.lenient) tool he).2.1
        (perform_of_refused (c := c.strict) tool he').2.1
  case inl =>
    have hl : launches (r.perform tool c.lenient cwd d).journal ≠ [] := by
      rw [(runsOnce_of_readAs (c := c.lenient) tool ht).launches]
      exact List.cons_ne_nil _ _
    obtain ⟨hk, hs⟩ | ⟨f, n, hfirst, hs⟩ := check_strict_eq_or <| check_of_readAs ht
    case inl =>
      rw [←fields_of_readAs ht] at hk
      exact .same hl hk <| perform_strict_of_readAs tool ht <| check_eq_ok_iff.mp hs
    case inr =>
      rw [←fields_of_readAs ht] at hfirst
      obtain ⟨hr, hn, -⟩ := perform_of_refused (c := c.strict) tool (check_eq_error_iff.mp hs)
      exact .filtered hl hn hfirst hr

end Perform

end Request

namespace CommandLine

variable {w : World} {s : Session} {d : Disk} {cl : CommandLine} {what : String}

-- A strict command is its request under strict types, and any other leaves the setting as it is.
theorem run_of_request (h : cl.command.request? = some (what, r)) :
    run w s d cl = ((Config.resolve s d cl.root cl.config).mapError .unresolved).map fun c =>
      .ofOutcome what <| r.perform w.tool (if cl.command.isStrict then c.strict else c) s.cwd d := by
  have hg : cl.command ≠ .guide := by
    intro hg
    rw [hg] at h
    cases h
  rw [run, if_neg hg]
  cases Config.resolve s d cl.root cl.config
  case error => rfl
  case ok c =>
    have hc : { c with strictTypes := c.strictTypes || cl.command.isStrict } =
        if cl.command.isStrict then c.strict else c := by
      cases cl.command.isStrict <;> simp [Config.strict]
    simp only [Except.mapError, ok_bind, hc, runWith, h]
    rfl

-- The flag is what makes a command strict.
example :
    (parse ["create", "Order", "total:int64", "--strict"]).toOption.map (·.command.isStrict) = some true := by
  decide +kernel

end CommandLine

namespace Request

theorem strict_only_filters (tool : Tool) (c : Config) (cwd : Location) (d : Disk) (r : Request) :
    let on := r.perform tool c.strict cwd d
    let off := r.perform tool c.lenient cwd d
    let known := r.known (stems c cwd d)
    (launches on.journal ≠ [] ↔ launches off.journal ≠ [] ∧ ∀ f ∈ r.fields, f.Known known) ∧
    (launches on.journal ≠ [] →
      launches on.journal = launches off.journal ∧ on.result = off.result ∧ on.disk = off.disk) ∧
    (launches off.journal ≠ [] → launches on.journal = [] →
      ∃ f n, Field.FirstUnknown known r.fields f n ∧ on.result = .error (.spec (.unknownType f.name n))) ∧
    ((∃ service, r = .remove service) ∨ r = .regenerate → on = off) ∧
    (∀ w s d cl what, cl.command.request? = some (what, r) →
      CommandLine.run w s d cl = ((Config.resolve s d cl.root cl.config).mapError .unresolved).map fun k =>
        .ofOutcome what <| r.perform w.tool (if cl.command.isStrict then k.strict else k) s.cwd d) := by
  intro on off known
  have hplain (h : (∃ service, r = .remove service) ∨ r = .regenerate) : on = off := by
    obtain ⟨service, rfl⟩ | rfl := h <;> rfl
  cases strictCase tool c cwd d r
  case refused hoff hon =>
    exact ⟨iff_of_false (· hon) fun h => h.1 hoff, fun h => absurd hon h, fun h => absurd hoff h, hplain,
      fun _ _ _ _ _ => CommandLine.run_of_request⟩
  case same hoff hk heq =>
    have hon : launches on.journal ≠ [] := fun hn => hoff <| heq.1.symm.trans hn
    exact ⟨iff_of_true hon ⟨hoff, hk⟩, fun _ => heq, fun _ h => absurd h hon, hplain,
      fun _ _ _ _ _ => CommandLine.run_of_request⟩
  case filtered f n hoff hon hfirst hr =>
    exact ⟨iff_of_false (· hon) fun h => hfirst.not_forall_known h.2, fun h => absurd hon h,
      fun _ _ => ⟨f, n, hfirst, hr⟩, hplain, fun _ _ _ _ _ => CommandLine.run_of_request⟩

-- One service is listed.
theorem stems_user {d : Disk} (hd : d.get? ["proto"] = some .directory)
    (hu : d.get? ["proto", "user.proto"] = some (.file [] false)) (hc : d.children ["proto"] = ["user.proto"]) :
    stems (.ofRoot "/" "/") [] d = ["user"] := by
  have hdir : Inventory.directory (.ofRoot "/" "/") .protocol = "/proto" := by decide +kernel
  have hfile : d.isFile [] (Path.join "/proto" "user.proto") = true :=
    Disk.isFile_join_of_find (Inventory.find_proto hd) (by decide +kernel) (by decide +kernel) hu (by simp)
  have hname : Path.extension? "user.proto" = some "proto" ∧ Path.stem "user.proto" = "user" := by
    decide +kernel
  have hreserved : (Config.ofRoot "/" "/").layout.reserved = ["health"] := rfl
  have hstems : Inventory.stems? [] d (Inventory.directory (.ofRoot "/" "/") .protocol) "proto" = some ["user"] := by
    rw [hdir]
    exact Inventory.stems?_eq_some_iff.mpr ⟨_, Inventory.find_proto hd, by simp [hc, hfile, hname]⟩
  rw [stems, Inventory.list_of_stems?_eq_some hstems]
  simp [hreserved, Inventory.probe]

-- The type of the service itself is known, and one that is listed in any letter case; the other is not.
theorem strict_only_filters_order :
    let d := Disk.empty.put ["proto"] .directory |>.put ["proto", "user.proto"] (.file [] false)
    let r := Request.create "order" "buyer:USER,parent:Order,spirit:Ghost"
    let tool : Tool := fun _ d => .ran ⟨.exited 0, [], [], d⟩
    let on := r.perform tool (Config.ofRoot "/" "/").strict [] d
    launches (r.perform tool (Config.ofRoot "/" "/").lenient [] d).journal ≠ [] ∧
      launches on.journal = [] ∧ on.result = .error (.spec (.unknownType "spirit" "Ghost")) := by
  intro d r tool on
  obtain ⟨hiff, -, hfirst, -, -⟩ := strict_only_filters tool (.ofRoot "/" "/") [] d r
  have hs : stems (.ofRoot "/" "/") [] d = ["user"] :=
    stems_user (by decide +kernel) (by decide +kernel) (by decide +kernel)
  have hr : r.fields = [⟨"buyer", .message "USER", false⟩, ⟨"parent", .message "Order", false⟩,
    ⟨"spirit", .message "Ghost", false⟩] := by decide +kernel
  have hk : (r.known (stems (.ofRoot "/" "/") [] d)).map lower = ["user", "order"] := by
    rw [hs]
    decide +kernel
  have hoff : launches (r.perform tool (Config.ofRoot "/" "/").lenient [] d).journal ≠ [] := by
    decide +kernel
  have hon : launches on.journal = [] := by
    by_contra h
    have hg := (hiff.mp h).2 ⟨"spirit", .message "Ghost", false⟩ (by simp [hr]) "Ghost" rfl
    rw [hk] at hg
    revert hg
    decide +kernel
  refine ⟨hoff, hon, ?_⟩
  obtain ⟨f, n, h, he⟩ := hfirst hoff hon
  obtain ⟨hn, hunknown⟩ := h.unknown
  have hmem := h.mem
  simp only [hr, List.mem_cons, List.not_mem_nil, or_false] at hmem
  rw [hk] at hunknown
  obtain rfl | rfl | rfl := hmem <;> cases hn
  case inr.inr => exact he
  all_goals exact absurd (by decide +kernel) hunknown

end Request
end Scaffold
