import Scaffold.CommandLine.Run
import Scaffold.Proofs.CommandLine.Json
import Scaffold.Proofs.Config.Layers
import Scaffold.Proofs.Operation.Perform
import Scaffold.Proofs.Operation.Wording

namespace Scaffold

open Text

variable {w : World} {s : Session} {d : Disk} {c : CommandLine} {args : List String} {config : Config} {k : Command}

namespace Command

-- What a command tries to do, and the request that does it.
inductive Asks : Command → String → Request → Prop
  | create {service fields strict} :
      Asks (.create service fields strict) ("generate service '" ++ service ++ "'") (.create service fields)
  | addRpc {spec strict} :
      Asks (.addRpc spec strict) ("add RPC '" ++ spec.rpc ++ "' to service '" ++ spec.service ++ "'")
        (.addRpc spec)
  | remove {service} : Asks (.remove service) ("remove service '" ++ service ++ "'") (.remove service)
  | regenerate : Asks .regenerate "regenerate proto files" .regenerate

-- The other commands look at the project, and show it as JSON or not.
inductive Looks : Command → Bool → Prop
  | list {json} : Looks (.list json) json
  | status {json} : Looks (.status json) json

-- The paths that a command shows.
inductive ShowsPath (config : Config) (cwd : Location) (d : Disk) : Command → String → Prop
  | listed {json} {set : ArtifactSet} {path : String} :
      set ∈ (Inventory.list config cwd d).services →
      path ∈ [set.protocolPath, set.servicePath, set.modelPath] →
      ShowsPath config cwd d (.list json) path
  | root {json} : ShowsPath config cwd d (.status json) config.root

-- A command can be strict, it cannot be less strict than its configuration.
def configured (k : Command) (config : Config) : Config :=
  { config with strictTypes := config.strictTypes || k.isStrict }

theorem Looks.ne_guide {json : Bool} (h : k.Looks json) : k ≠ .guide := by
  cases h <;> exact Command.noConfusion

theorem Looks.configured_eq {json : Bool} (h : k.Looks json) (config : Config) : k.configured config = config := by
  cases h <;> simp [configured, isStrict]

end Command

namespace Result

-- What was written is shown as it is, where it is text.
structure Verbatim (written : Octets) (shown : String) : Prop where
  text : ∀ text, written = octets text → shown = text
  empty : shown = "" ↔ written = []

theorem verbatim_ofOctets (written : Octets) : Verbatim written (ofOctets written) where
  text text h := h ▸ ofOctets_octets text
  empty       := ofOctets_eq_empty_iff

def failureText (what kind message : String) : String :=
  "❌ Failed to " ++ what ++ " [" ++ kind ++ "]:\n\n" ++ message ++ "\n"

-- An empty line stands before what a tool wrote, and nothing after it.
def successText (headline output : String) : String :=
  headline ++ "\n" ++ if output = "" then "" else "\n" ++ output

-- What is shown of an operation, by the way it ended: refused, without a tool that could be launched, or with
-- a tool that failed or succeeded.
inductive Tells (tool : Tool) (d : Disk) (what : String) (o : Outcome Report) : Result → Prop
  | refused {f : Failure} {kind message : String} :
      f.Refuses kind message → o.result = .error f → launches o.journal = [] →
      Tells tool d what o ⟨1, "", failureText what kind message, d, o.journal⟩
  | notLaunched {i : Invocation} {message : String} :
      o.result = .error (.notLaunched i.program message) → launches o.journal = [i] → tool i d = .failed message →
      Tells tool d what o ⟨1, "", failureText what "InvocationError" message, d, o.journal⟩
  | failed {i : Invocation} {run : Run} {stdout stderr : String} :
      o.result = .error (.toolFailed run.ending.code? stdout stderr) →
      launches o.journal = [i] → tool i d = .ran run → run.ending ≠ .exited 0 →
      Verbatim run.stdout stdout → Verbatim run.stderr stderr →
      Tells tool d what o ⟨1, stdout, failureText what "ExternalToolFailure" stderr, run.disk, o.journal⟩
  | done {i : Invocation} {run : Run} {operation : Operation} {headline output : String} :
      o.result = .ok ⟨operation, output⟩ → operation.Headline headline →
      launches o.journal = [i] → tool i d = .ran run → run.ending = .exited 0 → Verbatim run.stdout output →
      Tells tool d what o ⟨0, successText headline output, "", run.disk, o.journal⟩

variable {tool : Tool} {what : String} {o : Outcome Report} {r : Result}

theorem renderReport_eq (report : Report) :
    CommandLine.renderReport report = successText (CommandLine.headline report.operation) report.output := by
  rw [CommandLine.renderReport, successText]
  split
  case isTrue h  => rw [String.append_empty]
  case isFalse h =>
    have hline : "\n\n" = "\n" ++ "\n" := rfl
    simp only [hline, String.append_assoc]

theorem ofOutcome_of_ok {report : Report} (h : o.result = .ok report) :
    ofOutcome what o =
      ⟨0, successText (CommandLine.headline report.operation) report.output, "", o.disk, o.journal⟩ := by
  simp only [ofOutcome, h, renderReport_eq]

theorem ofOutcome_of_error {f : Failure} (h : o.result = .error f) :
    ofOutcome what o = ⟨1, f.output?.getD "", failureText what f.kind f.message, o.disk, o.journal⟩ := by
  rw [ofOutcome, h]
  rfl

theorem output?_of_isRefusal {f : Failure} (h : f.isRefusal = true) : f.output? = none := by
  cases f <;> first | rfl | contradiction

theorem tells_of_runsOnce {operation : Operation} {i : Invocation} (h : RunsOnce tool d operation i o) :
    Tells tool d what o (ofOutcome what o) := by
  cases hl : tool i d
  case failed message =>
    have hd : o.disk = d := by rw [h.disk, hl]; rfl
    have ho := (h.notLaunched _ message).mpr ⟨hl, rfl⟩
    rw [ofOutcome_of_error ho, hd]
    exact .notLaunched ho h.launches hl
  case ran run =>
    have hd : o.disk = run.disk := by rw [h.disk, hl]; rfl
    by_cases he : run.ending = .exited 0
    case pos =>
      have ho := (h.ok _).mpr ⟨run, hl, he, rfl⟩
      rw [ofOutcome_of_ok ho, hd]
      exact .done ho operation.headline_headline h.launches hl he (verbatim_ofOctets _)
    case neg =>
      have ho := (h.failed run.ending.code? _ _).mpr ⟨run, hl, he, Ending.eq_code?_iff.mp rfl, rfl, rfl⟩
      rw [ofOutcome_of_error ho, hd]
      exact .failed ho h.launches hl he (verbatim_ofOctets _) (verbatim_ofOctets _)

-- Either the checks refuse a request or its tool is launched, and the latter ends in one of three ways.
theorem tells_perform (tool : Tool) (config : Config) (cwd : Location) (d : Disk) (what : String) (request : Request) :
    Tells tool d what (request.perform tool config cwd d) (ofOutcome what (request.perform tool config cwd d)) := by
  obtain ⟨t, ht⟩ | ⟨f, hf⟩ := Request.exists_readAs_or_refused config (Request.stems config cwd d) request
  case inl => exact tells_of_runsOnce <| Request.runsOnce_of_readAs tool ht
  case inr =>
    obtain ⟨ho, hl, hd⟩ := Request.perform_of_refused tool hf
    rw [ofOutcome_of_error ho, output?_of_isRefusal hf.isRefusal, hd]
    exact .refused (Failure.refuses_message hf.isRefusal) ho hl

namespace Tells

theorem exitCode_eq_zero_iff (h : Tells tool d what o r) : r.exitCode = 0 ↔ ∃ report, o.result = .ok report := by
  cases h <;> simp_all

theorem exitCode_eq_one_iff (h : Tells tool d what o r) : r.exitCode = 1 ↔ ∃ f, o.result = .error f := by
  cases h <;> simp_all

end Tells

end Result

namespace CommandLine

-- The whole program ends as the run of its command does. Only the log has something to say before.
structure Execution.Follows (x : Execution) (log : Log.Config) (r : Result) : Prop where
  exitCode : x.exitCode = r.exitCode
  stdout : x.stdout = r.stdout
  stderr : x.stderr = Log.Filter.warnings log ++ r.stderr
  disk : x.disk = r.disk

variable {e : ConfigError} {error : RunError} {r : Result} {w' : World}

theorem run_guide (h : c.command = .guide) : run w s d c = .ok (.success guide d []) := by
  rw [run, if_pos h]

theorem run_of_resolve_error (h : c.command ≠ .guide) (hc : Config.resolve s d c.root c.config = .error e) :
    run w s d c = .error (.unresolved e) := by
  rw [run, if_neg h, hc]
  rfl

theorem run_of_resolve_ok (h : c.command ≠ .guide) (hc : Config.resolve s d c.root c.config = .ok config) :
    run w s d c = runWith w s d (c.command.configured config) c.command := by
  rw [run, if_neg h, hc]
  rfl

theorem runWith_of_asks {what : String} {request : Request} (h : k.Asks what request) :
    runWith w s d config k = .ok (.ofOutcome what (request.perform w.tool config s.cwd d)) := by
  cases h <;> rfl

-- As JSON a command shows its paths as they are spelled, or nothing at all.
theorem runWith_of_looks (w : World) (s : Session) (d : Disk) (config : Config) {json : Bool} (h : k.Looks json) :
    ∃ output events, runWith w s d config k = Result.ofOutput output d events ∧
      (output.isSome = true ↔ (json = true → ∀ path, k.ShowsPath config s.cwd d path → w.spelling.IsText path)) := by
  cases h
  case list =>
    refine ⟨_, _, rfl, ?_⟩
    cases json
    case false => simp
    case true =>
      rw [if_pos rfl, Option.isSome_map, isSome_jsonOfListing?_iff]
      refine ⟨fun h _ path hpath => ?_, fun h set hset path hpath => h rfl path <| .listed hset hpath⟩
      cases hpath with | listed hset hpath => exact h _ hset _ hpath
  case status =>
    refine ⟨_, _, rfl, ?_⟩
    cases json
    case false => simp
    case true =>
      rw [if_pos rfl, Option.isSome_map, isSome_jsonOfSnapshot?_iff]
      refine ⟨fun h _ path hpath => ?_, fun h => h rfl _ .root⟩
      cases hpath
      exact h

theorem execute_of_run_error (hp : parse args = .ok c) (h : run w s d c = .error error) :
    (execute w s d args).exitCode = 1 ∧ (execute w s d args).stdout = "" ∧ (execute w s d args).disk = d := by
  simp only [execute, hp, h, and_self]

theorem execute_of_run_ok (hp : parse args = .ok c) (h : run w s d c = .ok r) :
    (execute w s d args).Follows (logConfig s c) r := by
  simp only [execute, hp, h]
  exact ⟨rfl, rfl, rfl, rfl⟩

-- The rest of the world shows in a run, or it does not matter.
theorem execute_of_run_eq (hp : parse args = .ok c) (h : run w' s d c = run w s d c)
    (hw : w'.spelling = w.spelling) : execute w' s d args = execute w s d args := by
  simp only [execute, hp, h, hw]

section Looks

variable {json : Bool} (hk : c.command.Looks json) (hc : Config.resolve s d c.root c.config = .ok config)

include hk hc

theorem run_of_looks : run w s d c = runWith w s d config c.command :=
  hk.configured_eq config ▸ run_of_resolve_ok hk.ne_guide hc

theorem run_of_looks_of_tool (tool : Tool) : run ⟨tool, w.probe, w.spelling⟩ s d c = run w s d c := by
  rw [run_of_looks hk hc, run_of_looks hk hc]
  cases c with | mk root file verbose command => cases hk <;> rfl

theorem exists_run_of_isText
    (h : json = true → ∀ path, c.command.ShowsPath config s.cwd d path → w.spelling.IsText path) :
    ∃ text events, run w s d c = .ok (.success text d events) := by
  obtain ⟨output, events, hr, hsome⟩ := runWith_of_looks w s d config hk
  obtain ⟨text, rfl⟩ := Option.isSome_iff_exists.mp (hsome.mpr h)
  exact ⟨text, events, (run_of_looks hk hc).trans hr⟩

theorem exists_run_of_not_isText {path : String} (hj : json = true)
    (hpath : c.command.ShowsPath config s.cwd d path) (hn : ¬w.spelling.IsText path) :
    ∃ events, run w s d c = .error (.unserialized events) := by
  obtain ⟨output, events, hr, hsome⟩ := runWith_of_looks w s d config hk
  cases output
  case none      => exact ⟨events, (run_of_looks hk hc).trans hr⟩
  case some text => exact absurd (hsome.mp rfl hj path hpath) hn

end Looks

theorem execute_tells_outcome (w : World) (s : Session) (d : Disk) (args : List String) (c : CommandLine)
    (hp : parse args = .ok c) :
    let x := execute w s d args
    (c.command = .guide →
      run w s d c = .ok ⟨0, guide, "", d, []⟩ ∧ x.exitCode = 0 ∧ x.stdout = guide ∧ x.disk = d) ∧
    (∀ e, c.command ≠ .guide → Config.resolve s d c.root c.config = .error e →
      run w s d c = .error (.unresolved e) ∧ x.exitCode = 1 ∧ x.stdout = "" ∧ x.disk = d ∧
      -- No tool, and no server either, has any part in it.
      ∀ tool probe, execute ⟨tool, probe, w.spelling⟩ s d args = x) ∧
    ∀ config, c.command ≠ .guide → Config.resolve s d c.root c.config = .ok config →
      (∀ json, c.command.Looks json →
        x.disk = d ∧ (∀ tool, execute ⟨tool, w.probe, w.spelling⟩ s d args = x) ∧
        ((json = true → ∀ path, c.command.ShowsPath config s.cwd d path → w.spelling.IsText path) →
          ∃ r, run w s d c = .ok r ∧ x.Follows (logConfig s c) r ∧
            r.exitCode = 0 ∧ r.stderr = "" ∧ launches r.journal = []) ∧
        ∀ path, json = true → c.command.ShowsPath config s.cwd d path → ¬w.spelling.IsText path →
          (∃ events, run w s d c = .error (.unserialized events)) ∧ x.exitCode = 1 ∧ x.stdout = "") ∧
      ∀ what request, c.command.Asks what request →
        let o := request.perform w.tool (c.command.configured config) s.cwd d
        ∃ r, run w s d c = .ok r ∧ x.Follows (logConfig s c) r ∧
          (r.exitCode = 0 ↔ ∃ report, o.result = .ok report) ∧ (r.exitCode = 1 ↔ ∃ f, o.result = .error f) ∧
          r.Tells w.tool d what o := by
  refine ⟨fun hg => ?guide, fun e hg hc => ?unresolved,
    fun config hg hc => ⟨fun json hk => ?looks, fun what request hk => ?asks⟩⟩
  case guide =>
    have hr := run_guide (w := w) (s := s) (d := d) hg
    have hx := execute_of_run_ok hp hr
    exact ⟨hr, hx.exitCode, hx.stdout, hx.disk⟩
  case unresolved =>
    have hr w' : run w' s d c = .error (.unresolved e) := run_of_resolve_error hg hc
    obtain ⟨hcode, hout, hd⟩ := execute_of_run_error hp (hr w)
    exact ⟨hr w, hcode, hout, hd, fun _ _ => execute_of_run_eq hp ((hr _).trans (hr w).symm) rfl⟩
  case looks =>
    have htool tool : execute ⟨tool, w.probe, w.spelling⟩ s d args = execute w s d args :=
      execute_of_run_eq hp (run_of_looks_of_tool hk hc tool) rfl
    have hok h : ∃ text events, run w s d c = .ok (.success text d events) := exists_run_of_isText hk hc h
    refine ⟨?disk, htool, fun h => ?text, fun path hj hpath hn => ?octets⟩
    case text =>
      obtain ⟨text, events, hr⟩ := hok h
      exact ⟨_, hr, execute_of_run_ok hp hr, rfl, rfl, launches_map_event events⟩
    case octets =>
      obtain ⟨events, hr⟩ := exists_run_of_not_isText hk hc hj hpath hn
      obtain ⟨hcode, hout, -⟩ := execute_of_run_error hp hr
      exact ⟨⟨events, hr⟩, hcode, hout⟩
    case disk =>
      by_cases h : json = true → ∀ path, c.command.ShowsPath config s.cwd d path → w.spelling.IsText path
      case pos =>
        obtain ⟨text, events, hr⟩ := hok h
        exact (execute_of_run_ok hp hr).disk
      case neg =>
        push Not at h
        obtain ⟨hj, path, hpath, hn⟩ := h
        obtain ⟨events, hr⟩ := exists_run_of_not_isText hk hc hj hpath hn
        exact (execute_of_run_error hp hr).2.2
  case asks =>
    have hr := (run_of_resolve_ok (w := w) hg hc).trans (runWith_of_asks hk)
    have ht := Result.tells_perform w.tool (c.command.configured config) s.cwd d what request
    exact ⟨_, hr, execute_of_run_ok hp hr, ht.exitCode_eq_zero_iff, ht.exitCode_eq_one_iff, ht⟩

-- A generator that gives up halfway. What it wrote to either stream is shown on that stream, as it is.
theorem execute_tells_outcome_half_done :
    let w : World := ⟨fun _ d => .ran ⟨.exited 3, octets "half", octets "in use\n", d⟩, .silent, octets⟩
    let s : Session := ⟨["app"], [("PROTOSMITH_HEALTH_URL", "http://[::1]:9/health")]⟩
    let x := execute w s .empty ["create", " Shelf", "name:string", "--strict"]
    x.exitCode = 1 ∧ x.stdout = "half" ∧
      x.stderr = "❌ Failed to generate service ' Shelf' [ExternalToolFailure]:\n\nin use\n\n" := by
  intro w s x
  let k : Command := .create " Shelf" "name:string" true
  have hp : parse ["create", " Shelf", "name:string", "--strict"] = .ok ⟨none, none, false, k⟩ := by
    decide +kernel
  have hroot : Config.projectRoot s none = "/app" := by decide +kernel
  have hc : Config.resolve s .empty none none = .ok (Config.layered s none {}) :=
    Config.resolve_of_empty_disk (hroot ▸ by decide) rfl rfl
  obtain ⟨-, -, hresolved⟩ := execute_tells_outcome w s .empty _ _ hp
  obtain ⟨-, hasks⟩ := hresolved _ (by simp [k]) hc
  obtain ⟨r, -, hx, -, -, ht⟩ := hasks _ _ .create
  have hwarn : Log.Filter.warnings (logConfig s ⟨none, none, false, k⟩) = "" := by decide +kernel
  have ho : (Request.perform w.tool (k.configured (Config.layered s none {})) s.cwd
      (.create " Shelf" "name:string") .empty).result = .error (.toolFailed (some 3) "half" "in use\n") := by
    decide +kernel
  cases ht
  case failed hran _ hout herr =>
    cases hran
    refine ⟨hx.exitCode, hx.stdout.trans (hout.text "half" rfl), hx.stderr.trans ?_⟩
    rw [hwarn, herr.text "in use\n" rfl]
    rfl
  case refused hf h _ =>
    cases h.symm.trans ho
    contradiction
  case notLaunched h _ _ => cases h.symm.trans ho
  case done h _ _ _ _ _  => cases h.symm.trans ho

-- A tool writes an octet of no text, and the name of the root is older than UTF-8: one octet for each character.
-- The first is not shown as it is, and the second not at all.
theorem execute_not_verbatim :
    let w : World := ⟨fun _ d => .ran ⟨.exited 0, [0xFF], [], d⟩, .silent,
      fun path => path.toList.map fun c => UInt8.ofNat c.toNat⟩
    let s : Session := ⟨["caf\u00e9"], [("PROTOSMITH_HEALTH_URL", "http://[::1]:9/health")]⟩
    let x := execute w s .empty ["regenerate"]
    let y := execute w s .empty ["status", "--json"]
    (∃ config, Config.resolve s .empty none none = .ok config) ∧
      x.exitCode = 0 ∧ (¬∃ front, octets x.stdout = front ++ [0xFF]) ∧ y.exitCode = 1 ∧ y.stdout = "" := by
  intro w s x y
  have hroot : Config.projectRoot s none = "/caf\u00e9" := by decide +kernel
  have hc : Config.resolve s .empty none none = .ok (Config.layered s none {}) :=
    Config.resolve_of_empty_disk (hroot ▸ by decide) rfl rfl
  obtain ⟨hcode, hfront⟩ : x.exitCode = 0 ∧ ¬∃ front, octets x.stdout = front ++ [0xFF] := by
    have hp : parse ["regenerate"] = .ok ⟨none, none, false, .regenerate⟩ := by decide +kernel
    have hr := (run_of_resolve_ok (w := w) (c := ⟨none, none, false, .regenerate⟩) (by simp) hc).trans
      (runWith_of_asks .regenerate)
    have ho : (Request.perform w.tool (Command.regenerate.configured (Config.layered s none {})) s.cwd
        .regenerate .empty).result = .ok ⟨.regenerate, "\uFFFD"⟩ := by decide +kernel
    rw [Result.ofOutcome_of_ok ho] at hr
    have hx := execute_of_run_ok hp hr
    refine ⟨hx.exitCode, ?_⟩
    rintro ⟨front, hfront⟩
    have hlast := congrArg List.getLast? (hx.stdout ▸ hfront)
    rw [List.getLast?_concat] at hlast
    revert hlast
    decide +kernel
  obtain ⟨hcode', hout⟩ : y.exitCode = 1 ∧ y.stdout = "" := by
    have hp : parse ["status", "--json"] = .ok ⟨none, none, false, .status true⟩ := by decide +kernel
    have hn : ¬w.spelling.IsText (Config.layered s none {}).root := by
      rw [←Spelling.isSome_text?_iff]
      decide +kernel
    obtain ⟨events, hr⟩ := exists_run_of_not_isText (w := w) (c := ⟨none, none, false, .status true⟩) .status hc rfl
      .root hn
    obtain ⟨hcode, hout, -⟩ := execute_of_run_error hp hr
    exact ⟨hcode, hout⟩
  exact ⟨⟨_, hc⟩, hcode, hfront, hcode', hout⟩

end CommandLine
end Scaffold
