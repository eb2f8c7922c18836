import Scaffold.Proofs.Operation.Perform

namespace Scaffold

open Text

theorem Field.textAll_injective {fs fs' : List Field} (h : ∀ f ∈ fs, f.WellFormed)
    (h' : ∀ f ∈ fs', f.WellFormed) (ht : textAll fs = textAll fs') : fs = fs' := by
  have hp := parse_textAll fun f hf => (h f hf).accepted_lenient
  rw [ht, parse_textAll fun f hf => (h' f hf).accepted_lenient] at hp
  exact (Except.ok.inj hp).symm

-- Adding an RPC takes at least six arguments, the other tasks take two.
theorem Rpc.length_arguments_ne_two (r : Rpc) : r.arguments.length ≠ 2 := by
  rw [length_arguments]
  split <;> decide

namespace Task

-- `t` creates a service called `remove`, and `t'` removes one that is called like the fields of `t`.
inductive Collides : Task → Task → Prop
  | intro {fs : List Field} : fs ≠ [] → Collides (.create "remove" fs) (.remove (Field.textAll fs))

-- What the checks leave to hold of a task for the generator.
inductive Checked : Task → Prop
  | create {service : String} {fs : List Field} :
      (∀ f ∈ fs, f.WellFormed) → Checked (.create service fs)
  | addRpc {typing : Typing} {s : RpcSpec} {rpc : Rpc} : Rpc.ReadFrom typing s rpc → Checked (.addRpc rpc)
  | remove {service : String} : service ≠ "" → Checked (.remove service)

variable {c : Config} {t t' : Task}

theorem Checked.of_readAs {stems : List String} {r : Request} (h : r.ReadAs c stems t)
    (hr : r ≠ .regenerate) : t.Checked := by
  cases h
  case create _ hf => exact .create fun f hm => (Field.accepted_of_parse hf f hm).toWellFormed
  case addRpc h    => exact .addRpc <| Rpc.parse_eq_ok_iff.mp h
  case remove h =>
    refine .remove fun he => h <| trim_eq_nil_iff.mp ?_
    simpa [trimmedText] using congrArg String.toList he
  case regenerate => contradiction

theorem collides_of_arguments_eq {service name : String} {fs : List Field} (hn : name ≠ "")
    (ha : [service, Field.textAll fs] = ["remove", name]) : Collides (.create service fs) (.remove name) := by
  obtain ⟨rfl, rfl⟩ : service = "remove" ∧ Field.textAll fs = name := by simpa using ha
  refine .intro fun he => hn ?_
  rw [he]
  rfl

theorem arguments_eq_iff (h : t.Checked) (h' : t'.Checked) :
    (t.invocation c).arguments = (t'.invocation c).arguments ↔
      t = t' ∨ t.Collides t' ∨ t'.Collides t := by
  constructor
  case mpr =>
    rintro (rfl | hc | hc)
    case inl => rfl
    all_goals
      cases hc
      rfl
  case mp =>
    intro ha
    -- The number of arguments parts `addRpc` from the rest, the first argument `remove` from most of `create`.
    cases h <;> cases h'
    case create.create service fs hw service' fs' hw' =>
      obtain ⟨rfl, ht⟩ : service = service' ∧ Field.textAll fs = Field.textAll fs' := by
        simpa [invocation] using ha
      exact .inl <| by rw [Field.textAll_injective hw hw' ht]
    case create.remove _ hn => exact .inr <| .inl <| collides_of_arguments_eq hn ha
    case remove.create hn _ _ _ => exact .inr <| .inr <| collides_of_arguments_eq hn ha.symm
    case addRpc.addRpc hr _ _ _ hr' => exact .inl <| by rw [hr.eq_of_arguments_eq hr' ha]
    case remove.remove service _ service' _ =>
      have : service = service' := by simpa [invocation] using ha
      exact .inl <| by rw [this]
    case create.addRpc rpc _ | remove.addRpc rpc _ =>
      exact absurd (congrArg List.length ha).symm <| Rpc.length_arguments_ne_two rpc
    case addRpc.create rpc _ _ _ _ | addRpc.remove rpc _ _ _ =>
      exact absurd (congrArg List.length ha) <| Rpc.length_arguments_ne_two rpc

end Task

namespace Request

-- What the generator was given in each of its launches.
def given (o : Outcome Report) : List (List String) :=
  (launches o.journal).map Invocation.arguments

variable {tool tool' : Tool} {c : Config} {cwd cwd' : Location} {d d' : Disk} {r r' : Request} {t t' : Task}

theorem given_perform (h : r.check c (stems c cwd d) = .ok t) :
    given (r.perform tool c cwd d) = [(t.invocation c).arguments] := by
  rw [given, (runsOnce_of_readAs tool <| check_eq_ok_iff.mp h).launches, List.map_singleton]

theorem same_arguments_iff (h : r.check c (stems c cwd d) = .ok t)
    (h' : r'.check c (stems c cwd' d') = .ok t') (hr : r ≠ .regenerate) (hr' : r' ≠ .regenerate) :
    given (r.perform tool c cwd d) = given (r'.perform tool' c cwd' d') ↔
      t = t' ∨ t.Collides t' ∨ t'.Collides t := by
  rw [given_perform h, given_perform h', List.singleton_inj]
  exact Task.arguments_eq_iff (.of_readAs (check_eq_ok_iff.mp h) hr) (.of_readAs (check_eq_ok_iff.mp h') hr')

-- Not even the texts of the two requests need to agree.
theorem same_arguments_iff_remove :
    given (perform (fun _ _ => .failed "") (.ofRoot "/" "/p") [] (.create " remove " "a : string") .empty) =
      given (perform (fun _ _ => .failed "") (.ofRoot "/" "/p") [] (.remove "a:string") .empty) := by
  have h : check (.ofRoot "/" "/p") (stems (.ofRoot "/" "/p") [] .empty) (.create " remove " "a : string") =
      .ok (.create "remove" [⟨"a", .primitive .string, false⟩]) := by decide +kernel
  have h' : check (.ofRoot "/" "/p") (stems (.ofRoot "/" "/p") [] .empty) (.remove "a:string") =
      .ok (.remove "a:string") := by decide +kernel
  exact (same_arguments_iff h h' (by simp) (by simp)).mpr <| .inr <| .inl <| .intro (by simp)

-- Both requests pass their checks, are no other than what they say, and give the generator the same.
theorem create_given_as_remove :
    check (.ofRoot "/" "/p") [] (.create "remove" "a:string") =
        .ok (.create "remove" [⟨"a", .primitive .string, false⟩]) ∧
      check (.ofRoot "/" "/p") [] (.remove "a:string") = .ok (.remove "a:string") ∧
      given (perform (fun _ _ => .failed "") (.ofRoot "/" "/p") [] (.create "remove" "a:string") .empty) =
        [["remove", "a:string"]] ∧
      given (perform (fun _ _ => .failed "") (.ofRoot "/" "/p") [] (.remove "a:string") .empty) =
        [["remove", "a:string"]] := by
  refine ⟨?_, ?_, ?_, ?_⟩ <;> decide +kernel

end Request
end Scaffold
