import Scaffold.Proofs.Config.Layers

namespace Scaffold

-- What is laid over a configuration: the settings of a file, or those of the environment.
inductive Override
  | file (f : Settings)
  | environment (env : Environment)

namespace Path

variable {cwd p q : String}

theorem absolute?_eq_none_iff : absolute? cwd p = none ↔ p = "" := by
  rw [absolute?]
  split <;> simp_all

end Path

namespace Config

variable {cwd root : String} {c : Config} {s : Session} {d : Disk} {given file : Option String}

def override (c : Config) : Override → Config
  | .file f => c.apply f
  | .environment env => c.applyEnvironment env

-- One after the other, each over those before it.
def overrideAll (c : Config) (os : List Override) : Config :=
  os.foldl override c

-- What the inventory and the tools are given to work with.
def paths (c : Config) : List String :=
  [c.root, c.codegen, c.protoDir, c.servicesDir, c.modelsDir, c.bindingsDir]

def Anchored (c : Config) : Prop :=
  ∀ p ∈ c.paths, Path.isAbsolute p = true

theorem anchored_iff :
    c.Anchored ↔ Path.isAbsolute c.root = true ∧ Path.isAbsolute c.codegen = true := by
  constructor
  case mp => exact fun h => ⟨h _ (by simp [paths]), h _ (by simp [paths])⟩
  case mpr =>
    rintro ⟨hr, hg⟩
    simp [Anchored, paths, hr, hg, protoDir, servicesDir, modelsDir, bindingsDir, Path.isAbsolute_join]

theorem override_preserves_root (c : Config) (o : Override) : (c.override o).root = c.root := by
  cases o
  case file f          => exact c.apply_preserves_root f
  case environment env => exact c.applyEnvironment_preserves_root env

theorem overrideAll_preserves_root (c : Config) (os : List Override) : (c.overrideAll os).root = c.root := by
  induction os generalizing c
  case nil            => rfl
  case cons o os ih => exact (ih _).trans <| c.override_preserves_root o

theorem isAbsolute_codegen_apply (hr : Path.isAbsolute c.root = true) (hg : Path.isAbsolute c.codegen = true)
    (f : Settings) : Path.isAbsolute (c.apply f).codegen = true := by
  rw [apply]
  cases f.codegen
  case none   => exact hg
  case some p => exact Path.isAbsolute_join hr p

namespace Anchored

-- A generator that is named is seen from the root, so it is absolute if the root is.
theorem override (h : c.Anchored) (o : Override) : (c.override o).Anchored := by
  obtain ⟨hr, hg⟩ := anchored_iff.mp h
  refine anchored_iff.mpr ⟨(c.override_preserves_root o).symm ▸ hr, ?_⟩
  cases o
  case file f          => exact isAbsolute_codegen_apply hr hg f
  case environment env => exact isAbsolute_codegen_apply hr hg (.ofEnvironment env)

theorem overrideAll (h : c.Anchored) (os : List Override) : (c.overrideAll os).Anchored := by
  induction os generalizing c
  case nil          => exact h
  case cons o os ih => exact ih <| h.override o

end Anchored

theorem root_ofRoot_of_empty (cwd : String) : (ofRoot cwd "").root = "" := by
  simp [ofRoot, Path.absolute?]

theorem anchored_ofRoot (hcwd : Path.isAbsolute cwd = true) (hr : root ≠ "") : (ofRoot cwd root).Anchored := by
  obtain ⟨r, ha⟩ := Option.ne_none_iff_exists'.mp <| mt Path.absolute?_eq_none_iff.mp hr
  have habs : Path.isAbsolute (ofRoot cwd root).root = true := by
    rw [ofRoot, ha]
    exact Path.isAbsolute_of_absolute? hcwd ha
  exact anchored_iff.mpr ⟨habs, Path.isAbsolute_join habs _⟩

theorem anchored_overrideAll_iff (hcwd : Path.isAbsolute cwd = true) (root : String) (os : List Override) :
    ((ofRoot cwd root).overrideAll os).Anchored ↔ root ≠ "" := by
  refine ⟨?_, fun hr => (anchored_ofRoot hcwd hr).overrideAll os⟩
  rintro h rfl
  have habs := (anchored_iff.mp h).1
  rw [overrideAll_preserves_root, root_ofRoot_of_empty] at habs
  contradiction

-- A configuration that is resolved has the file and the environment laid over its defaults.
theorem exists_eq_overrideAll_of_resolve (h : resolve s d given file = .ok c) :
    ∃ os, c = (ofRoot (Disk.pathOf s.cwd) (rootOf s given)).overrideAll os := by
  obtain ⟨f, -, rfl, -⟩ := resolve_eq_ok_iff.mp h
  exact ⟨[.file f, .environment s.env], layered_eq s given f⟩

theorem anchored_iff_root_ne_empty (hcwd : Path.isAbsolute cwd = true) (root : String) (os : List Override) :
    let c := (ofRoot cwd root).overrideAll os
    c.root = (ofRoot cwd root).root ∧ (c.Anchored ↔ root ≠ "") ∧
    -- What is anchored lies at one place, wherever a tool is started.
    (c.Anchored → ∀ p ∈ c.paths, ∀ (d : Disk) (l l' : Location) (last : Bool),
      d.locate l p last = d.locate l' p last) ∧
    ∀ s d given file c', Disk.pathOf s.cwd = cwd → rootOf s given = root → resolve s d given file = .ok c' →
      (c'.overrideAll os).root = (ofRoot cwd root).root ∧ ((c'.overrideAll os).Anchored ↔ root ≠ "") := by
  refine ⟨overrideAll_preserves_root _ _, anchored_overrideAll_iff hcwd root os, ?place, ?resolved⟩
  case place => exact fun h p hp d l l' last => d.locate_of_isAbsolute (h p hp) l l' last
  case resolved =>
    rintro s d given file _ rfl rfl hc
    obtain ⟨os', rfl⟩ := exists_eq_overrideAll_of_resolve hc
    rw [overrideAll, overrideAll, ←List.foldl_append]
    exact ⟨overrideAll_preserves_root _ (os' ++ os), anchored_overrideAll_iff hcwd _ (os' ++ os)⟩

-- The environment names a root that is seen from the working directory, and a generator in it.
theorem anchored_iff_root_ne_empty_app :
    let s : Session :=
      ⟨["work"], [("PROTOSMITH_ROOT", "./app//"), ("PROTOSMITH_HEALTH_URL", "http://[::1]:9/health")]⟩
    let os : List Override :=
      [.file { codegen := some "../gen", layout := { protoDir := some "" } },
        .environment [("PROTOSMITH_CODEGEN", "bin/gen")]]
    ∃ c, resolve s .empty none none = .ok c ∧ (c.overrideAll os).Anchored ∧
      (c.overrideAll os).paths = ["/work/app/", "/work/app/bin/gen", "/work/app/", "/work/app/services",
        "/work/app/models", "/work/app/pb"] := by
  intro s os
  have hroot : projectRoot s none = "/work/app/" := by decide +kernel
  have hc : resolve s .empty none none = .ok (layered s none {}) :=
    resolve_of_empty_disk (hroot ▸ by decide) rfl rfl
  have hcwd : Path.isAbsolute (Disk.pathOf s.cwd) = true := by decide
  obtain ⟨-, -, -, hresolved⟩ := anchored_iff_root_ne_empty hcwd (rootOf s none) os
  exact ⟨_, hc, (hresolved _ _ _ _ _ rfl rfl hc).2.mpr (by decide), by decide +kernel⟩

-- An empty root has no absolute form, and everything below it is looked for wherever a tool is started.
theorem empty_root_not_anchored :
    let s : Session := ⟨["work"], [("PROTOSMITH_ROOT", ""), ("PROTOSMITH_HEALTH_URL", "http://[::1]:9/health")]⟩
    ∃ c, resolve s .empty none none = .ok c ∧
      c.paths = ["", "gen_service.sh", "proto", "services", "models", "pb"] ∧ ¬c.Anchored := by
  intro s
  have hmissing : Disk.empty.holds s.cwd (Path.join (projectRoot s none) "protosmith.toml") = false := by
    have hpath : Path.join (projectRoot s none) "protosmith.toml" = "protosmith.toml" := by decide +kernel
    have hs : Disk.steps "protosmith.toml" = ["protosmith.toml"] := by decide +kernel
    have hsize : "protosmith.toml".utf8ByteSize = 15 := by decide +kernel
    have hrel : Path.isAbsolute "protosmith.toml" = false := by decide
    have hwork : Disk.empty.get? s.cwd = none := rfl
    simp [Disk.holds, Disk.find?, Disk.find, Disk.locate, Disk.walk, Disk.maxPath, hpath, hs, hsize, hrel, hwork,
      Except.toOption]
  have hurl : Url.check "http://[::1]:9/health" = .ok () := rfl
  have hc : resolve s .empty none none = .ok (layered s none {}) :=
    resolve_eq_ok_iff.mpr ⟨{}, .missing hmissing, rfl, hurl⟩
  refine ⟨_, hc, by decide +kernel, fun h => ?_⟩
  have hroot := (anchored_iff.mp h).1
  revert hroot
  decide +kernel

end Config
end Scaffold
