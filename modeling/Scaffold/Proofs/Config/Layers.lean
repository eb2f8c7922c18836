import Scaffold.Config.Resolve
import Scaffold.Proofs.Disk.Walk

namespace Scaffold.Config

open Text

-- A file is there, can be read as text, and holds the settings.
structure Reads (cwd : Location) (d : Disk) (path : String) (f : Settings) : Prop where
  present : d.holds cwd path = true
  text : ∃ content text, d.read cwd path = .ok content ∧ ofOctets? content = some text ∧
    Settings.ofText? text = some f

-- The settings of the file that is given, or of the default one below the root, which may be missing.
inductive Loads (s : Session) (d : Disk) (root : String) : Option String → Settings → Prop
  | given {path f} : Reads s.cwd d path f → Loads s d root (some path) f
  | standard {f} : Reads s.cwd d (Path.join root "protosmith.toml") f → Loads s d root none f
  | missing : d.holds s.cwd (Path.join root "protosmith.toml") = false → Loads s d root none {}

-- The root that is given, or that of the environment, or the current directory, in its absolute form if it has
-- one.
def projectRoot (s : Session) (root : Option String) : String :=
  let r := (root <|> s.env.lookup "PROTOSMITH_ROOT").getD (Disk.pathOf s.cwd)
  (Path.absolute? (Disk.pathOf s.cwd) r).getD r

-- The environment over the settings of the file over the defaults.
def layered (s : Session) (root : Option String) (f : Settings) : Config where
  root := projectRoot s root
  layout :=
    { protoDir := f.layout.protoDir.getD "proto"
      servicesDir := f.layout.servicesDir.getD "services"
      modelsDir := f.layout.modelsDir.getD "models"
      bindingsDir := f.layout.bindingsDir.getD "pb"
      protoExtension := f.layout.protoExtension.getD "proto"
      sourceExtension := f.layout.sourceExtension.getD "go"
      reserved := f.layout.reserved.getD ["health"] }
  codegen := Path.join (projectRoot s root)
    ((s.env.lookup "PROTOSMITH_CODEGEN" <|> f.codegen).getD "gen_service.sh")
  buildTool := (s.env.lookup "PROTOSMITH_BUILD_TOOL" <|> f.buildTool).getD "make"
  buildTarget := f.buildTarget.getD "proto"
  healthUrl := (s.env.lookup "PROTOSMITH_HEALTH_URL" <|> f.healthUrl).getD "http://localhost:8080/health"
  strictTypes := f.strictTypes.getD false

variable {s : Session} {cwd : Location} {d : Disk} {root file : Option String} {path r : String}
variable {f : Settings} {c : Config}

theorem load_eq_ok_none_iff : load cwd d path = .ok none ↔ d.holds cwd path = false := by
  fun_cases load cwd d path <;> simp_all

theorem load_eq_ok_some_iff : load cwd d path = .ok (some f) ↔ Reads cwd d path f := by
  constructor
  case mp =>
    fun_cases load cwd d path
    case case5 hd content hr text ht f' hs =>
      rintro ⟨⟩
      exact ⟨by simpa using hd, content, text, hr, ht, hs⟩
    all_goals rintro ⟨⟩
  case mpr =>
    rintro ⟨hd, content, text, hr, ht, hs⟩
    simp [load, hd, hr, ht, hs]

-- A default file that is missing settles nothing.
theorem loads_iff : Loads s d r file f ↔ ∃ o, loadFor s d r file = .ok o ∧ o.getD {} = f := by
  constructor
  case mp =>
    rintro (h | h | h)
    case given    => exact ⟨some f, by rw [loadFor, load_eq_ok_some_iff.mpr h]; rfl, rfl⟩
    case standard => exact ⟨some f, load_eq_ok_some_iff.mpr h, rfl⟩
    case missing  => exact ⟨none, load_eq_ok_none_iff.mpr h, rfl⟩
  case mpr =>
    rintro ⟨o, h, rfl⟩
    cases file
    case none =>
      cases o
      case none   => exact .missing <| load_eq_ok_none_iff.mp h
      case some f => exact .standard <| load_eq_ok_some_iff.mp h
    case some path =>
      obtain ⟨o', h', ho⟩ := bind_eq_ok_iff.mp h
      cases o'
      case none => cases ho
      case some f =>
        cases ho
        exact .given <| load_eq_ok_some_iff.mp h'

-- Putting the layers over one another, from the weakest to the strongest one, leaves the strongest values.
theorem layered_eq (s : Session) (root : Option String) (f : Settings) :
    layered s root f = ((ofRoot (Disk.pathOf s.cwd) (rootOf s root)).apply f).applyEnvironment s.env := by
  have hover (a b : Option String) (v : String) : (a <|> b).getD v = a.getD (b.getD v) := by
    cases a <;> rfl
  have hjoin (a : Option String) (v : String) :
      Path.join (projectRoot s root) (a.getD v) =
        (a.map (Path.join (projectRoot s root))).getD (Path.join (projectRoot s root) v) := by
    cases a <;> rfl
  simp only [layered, hover, hjoin]
  rfl

theorem validate_eq_ok_iff : validate c = .ok () ↔ Url.check c.healthUrl = .ok () := by
  rw [validate]
  cases Url.check c.healthUrl <;> simp [Except.mapError]

theorem resolve_eq_ok_iff :
    resolve s d root file = .ok c ↔
      ∃ f, Loads s d (projectRoot s root) file f ∧ c = layered s root f ∧ Url.check c.healthUrl = .ok () := by
  have hroot : (ofRoot (Disk.pathOf s.cwd) (rootOf s root)).root = projectRoot s root := rfl
  simp only [resolve, bind_eq_ok_iff, loads_iff, hroot, pure, Except.pure, Except.ok.injEq]
  constructor
  case mp =>
    rintro ⟨o, ho, _, hurl, rfl⟩
    exact ⟨o.getD {}, ⟨o, ho, rfl⟩, (layered_eq ..).symm, validate_eq_ok_iff.mp hurl⟩
  case mpr =>
    rintro ⟨_, ⟨o, ho, rfl⟩, rfl, hurl⟩
    rw [layered_eq] at hurl ⊢
    exact ⟨o, ho, (), validate_eq_ok_iff.mpr hurl, rfl⟩

-- On an empty disk the environment is laid over the defaults, and nothing stands between them.
theorem resolve_of_empty_disk {url : String} (hr : projectRoot s root ≠ "")
    (he : s.env.lookup "PROTOSMITH_HEALTH_URL" = some url) (hurl : Url.check url = .ok ()) :
    resolve s .empty root none = .ok (layered s root {}) := by
  have hmissing : Disk.empty.holds s.cwd (Path.join (projectRoot s root) "protosmith.toml") = false :=
    Disk.holds_join_empty hr (by decide +kernel) _
  have hwins : (layered s root {}).healthUrl = url := by simp [layered, he]
  exact resolve_eq_ok_iff.mpr ⟨{}, .missing hmissing, rfl, hwins ▸ hurl⟩

theorem strongest_layer_wins (s : Session) (d : Disk) (root file : Option String) :
    (∀ c, resolve s d root file = .ok c ↔
      ∃ f, Loads s d (projectRoot s root) file f ∧ c = layered s root f ∧ Url.check c.healthUrl = .ok ()) ∧
    ((∃ c, resolve s d root file = .ok c) ↔
      ∃ f, Loads s d (projectRoot s root) file f ∧ Url.check (layered s root f).healthUrl = .ok ()) ∧
    -- A URL that is put over another one is all that counts.
    ∀ f url, Loads s d (projectRoot s root) file f → s.env.lookup "PROTOSMITH_HEALTH_URL" = some url →
      Url.check url = .ok () → resolve s d root file = .ok (layered s root f) := by
  refine ⟨fun c => resolve_eq_ok_iff, ?succeeds, fun f url hf he hurl => ?overridden⟩
  case succeeds =>
    simp only [resolve_eq_ok_iff]
    constructor
    · rintro ⟨_, f, hf, rfl, hurl⟩
      exact ⟨f, hf, hurl⟩
    · rintro ⟨f, hf, hurl⟩
      exact ⟨_, f, hf, rfl, hurl⟩
  case overridden =>
    have hwins : (layered s root f).healthUrl = url := by simp [layered, he]
    exact resolve_eq_ok_iff.mpr ⟨f, hf, rfl, hwins ▸ hurl⟩

-- The default file is read below the root that the environment names. Its URL is none, but has no say.
theorem strongest_layer_wins_root :
    let s : Session :=
      ⟨["home"], [("PROTOSMITH_ROOT", "/"), ("PROTOSMITH_HEALTH_URL", "http://[::1]:9/health")]⟩
    let text := "health_url = \"nope\"\ncodegen = \"gen\"\n[layout]\nproto_dir = \"api\""
    let d := Disk.empty.put ["protosmith.toml"] (.file (octets text) false)
    let f : Settings := { healthUrl := some "nope", codegen := some "gen", layout := { protoDir := some "api" } }
    Loads s d (projectRoot s none) none f ∧ ∃ c, resolve s d none none = .ok c ∧
      c.root = "/" ∧ c.codegen = "/gen" ∧ c.healthUrl = "http://[::1]:9/health" ∧ c.buildTool = "make" ∧
      c.layout = { Layout.standard with protoDir := "api" } := by
  intro s text d f
  have hroot : projectRoot s none = "/" := by decide +kernel
  have hget : d.get? ["protosmith.toml"] = some (.file (octets text) false) := by decide +kernel
  have hfind : d.find ["home"] "/protosmith.toml" = .ok (["protosmith.toml"], .file (octets text) false) := by
    have hs : Disk.steps "/protosmith.toml" = ["protosmith.toml"] := by decide +kernel
    refine Disk.find_of_walk (by decide) (by decide) (by decide +kernel) ?_ hget
    rw [hs, Disk.walk_singleton_eq_ok_iff (by decide) fun _ t => by simp [hget]]
    exact ⟨rfl, by decide +kernel, rfl⟩
  have hpath : Path.join (projectRoot s none) "protosmith.toml" = "/protosmith.toml" := by decide +kernel
  have hf : Loads s d (projectRoot s none) none f := by
    refine .standard ⟨?_, octets text, text, ?_, by decide +kernel, by decide +kernel⟩
    all_goals rw [hpath]
    · simp [Disk.holds, Disk.find?, hfind, s, Except.toOption]
    · simp [Disk.read, hfind, s]
  have hurl : Url.check "http://[::1]:9/health" = .ok () := rfl
  obtain ⟨-, -, hwins⟩ := strongest_layer_wins s d none none
  exact ⟨hf, _, hwins f _ hf rfl hurl, hroot, by decide +kernel, rfl, rfl, rfl⟩

end Scaffold.Config
