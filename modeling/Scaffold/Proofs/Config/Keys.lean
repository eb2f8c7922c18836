import Scaffold.Config.Basic

namespace Scaffold

-- What can be set in a file, in its layout as well.
inductive Key
  | codegen
  | buildTool
  | buildTarget
  | healthUrl
  | strictTypes
  | protoDir
  | servicesDir
  | modelsDir
  | bindingsDir
  | protoExtension
  | sourceExtension
  | reserved
deriving DecidableEq, Repr

abbrev Key.Value : Key → Type
  | strictTypes => Bool
  | reserved => List String
  | _ => String

namespace Settings

def get? (s : Settings) : (k : Key) → Option k.Value
  | .codegen => s.codegen
  | .buildTool => s.buildTool
  | .buildTarget => s.buildTarget
  | .healthUrl => s.healthUrl
  | .strictTypes => s.strictTypes
  | .protoDir => s.layout.protoDir
  | .servicesDir => s.layout.servicesDir
  | .modelsDir => s.layout.modelsDir
  | .bindingsDir => s.layout.bindingsDir
  | .protoExtension => s.layout.protoExtension
  | .sourceExtension => s.layout.sourceExtension
  | .reserved => s.layout.reserved

-- Every key of `m` is that of the later settings, or of the earlier ones where the later ones are silent.
def Merges (earlier later m : Settings) : Prop :=
  ∀ k, m.get? k = (later.get? k <|> earlier.get? k)

theorem merges_over (s base : Settings) : base.Merges s (s.over base) := by
  intro k
  cases k <;> rfl

theorem merges_self (s : Settings) : s.Merges s s := by
  intro k
  cases s.get? k <;> rfl

-- What is laid over settings that it has been laid over before need not have been there before.
theorem merges_over_over (s t : Settings) : (t.over s).Merges s (s.over t) := by
  intro k
  rw [merges_over s t k, merges_over t s k]
  cases s.get? k <;> cases t.get? k <;> rfl

end Settings

namespace Config

variable {c c' : Config} {a b m s : Settings}

def get (c : Config) : (k : Key) → k.Value
  | .codegen => c.codegen
  | .buildTool => c.buildTool
  | .buildTarget => c.buildTarget
  | .healthUrl => c.healthUrl
  | .strictTypes => c.strictTypes
  | .protoDir => c.layout.protoDir
  | .servicesDir => c.layout.servicesDir
  | .modelsDir => c.layout.modelsDir
  | .bindingsDir => c.layout.bindingsDir
  | .protoExtension => c.layout.protoExtension
  | .sourceExtension => c.layout.sourceExtension
  | .reserved => c.layout.reserved

-- What a setting comes to. Only the generator is seen from the root, the directories stay as they are written.
def place (c : Config) : (k : Key) → k.Value → k.Value
  | .codegen, path => Path.join c.root path
  | _, v => v

theorem eq_of_get (hr : c.root = c'.root) (h : ∀ k, c.get k = c'.get k) : c = c' := by
  have hl : c.layout = c'.layout := by
    rw [Layout.mk.injEq]
    exact ⟨h .protoDir, h .servicesDir, h .modelsDir, h .bindingsDir, h .protoExtension, h .sourceExtension,
      h .reserved⟩
  rw [Config.mk.injEq]
  exact ⟨hr, hl, h .codegen, h .buildTool, h .buildTarget, h .healthUrl, h .strictTypes⟩

theorem get_apply (c : Config) (s : Settings) (k : Key) :
    (c.apply s).get k = ((s.get? k).map (c.place k)).getD (c.get k) := by
  cases k
  case codegen => rfl
  all_goals exact congrArg (Option.getD · _) Option.map_id'.symm

theorem place_apply (c : Config) (s : Settings) (k : Key) : (c.apply s).place k = c.place k := by
  cases k <;> rfl

theorem get_apply_of_eq_none {k : Key} (h : s.get? k = none) : (c.apply s).get k = c.get k := by
  rw [get_apply, h]
  rfl

theorem get_apply_of_eq_some {k : Key} {v : k.Value} (h : s.get? k = some v) :
    (c.apply s).get k = c.place k v := by
  rw [get_apply, h]
  rfl

-- The root, which the generator is seen from, is the same for both files.
theorem apply_apply (c : Config) (h : a.Merges b m) : (c.apply a).apply b = c.apply m := by
  refine eq_of_get rfl fun k => ?_
  rw [get_apply, get_apply, get_apply, place_apply, h k]
  cases b.get? k <;> rfl

theorem apply_self (c : Config) (s : Settings) : (c.apply s).apply s = c.apply s :=
  c.apply_apply s.merges_self

theorem apply_apply_self (c : Config) (s t : Settings) : ((c.apply s).apply t).apply s = (c.apply t).apply s := by
  rw [c.apply_apply <| t.merges_over s, c.apply_apply <| s.merges_over_over t, c.apply_apply <| s.merges_over t]

theorem later_file_wins (c : Config) (a b : Settings) (env : Environment) :
    a.Merges b (b.over a) ∧
    (∀ m, a.Merges b m → (c.apply a).apply b = c.apply m) ∧
    (c.apply a).apply a = c.apply a ∧
    (∀ k, a.get? k = none → (c.apply a).get k = c.get k) ∧
    (∀ k v, a.get? k = some v → (c.apply a).get k = c.place k v) ∧
    (c.apply a).root = c.root ∧
    -- The environment is laid over a file like another file.
    (c.applyEnvironment env).root = c.root ∧
    (c.applyEnvironment env).applyEnvironment env = c.applyEnvironment env ∧
    ((c.applyEnvironment env).apply a).applyEnvironment env = (c.apply a).applyEnvironment env :=
  ⟨b.merges_over a, fun _ => c.apply_apply, c.apply_self a, fun _ => get_apply_of_eq_none,
    fun _ _ => get_apply_of_eq_some, c.apply_preserves_root a, c.applyEnvironment_preserves_root env,
    c.apply_self _, c.apply_apply_self _ a⟩

-- The generator of the later file is seen from the root, and not from where that of the earlier one lies.
theorem later_file_wins_gen :
    let c := ofRoot "/" "/app"
    let a : Settings := { codegen := some "tools/gen", layout := { protoDir := some "api" } }
    let b : Settings := { codegen := some "gen", layout := { reserved := some [] } }
    (c.apply a).get .codegen = "/app/tools/gen" ∧ (c.apply a).get .reserved = ["health"] ∧
      (c.apply a).apply b = c.apply (b.over a) ∧ (c.apply (b.over a)).get .codegen = "/app/gen" ∧
      (c.apply (b.over a)).get .protoDir = "api" ∧ (c.apply (b.over a)).get .reserved = [] := by
  intro c a b
  obtain ⟨hm, hmerged, -, hnone, hsome, -⟩ := later_file_wins c a b []
  refine ⟨?_, (hnone .reserved rfl).trans rfl, hmerged _ hm, ?_, rfl, rfl⟩
  · exact (hsome .codegen "tools/gen" rfl).trans <| by decide +kernel
  · decide +kernel

end Config
end Scaffold
