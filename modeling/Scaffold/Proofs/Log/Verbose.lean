import Scaffold.CommandLine.Run
import Scaffold.Proofs.Log.Decision

namespace Scaffold

open Text

namespace Log

namespace Level

variable {l : Level} {s : String}

theorem ofText_eq_trace_iff : ofText s = trace ↔ lower s = "trace" := by
  rw [ofText]
  split_ifs <;> simp_all

theorem rank_trace_le_iff : trace.rank ≤ l.rank ↔ l = trace := by
  cases l <;> decide

theorem rank_le_debug_iff : l.rank ≤ debug.rank ↔ l ≠ trace := by
  cases l <;> decide

end Level

namespace Threshold

variable {l m : Level}

-- All that passes `t` passes `u`, and beyond that nothing past debug does.
structure Raised (t u : Threshold) : Prop where
  kept    : ∀ l, t.passes l = true → u.passes l = true
  bounded : ∀ l, u.passes l = true → t.passes l = true ∨ l.rank ≤ Level.debug.rank

theorem Raised.refl (t : Threshold) : t.Raised t where
  kept _    := id
  bounded _ := .inl

theorem passes_upTo_iff : (upTo l).passes m = true ↔ m.rank ≤ l.rank :=
  decide_eq_true_iff

theorem raised_upTo (h : m.rank = max l.rank Level.debug.rank) : (upTo l).Raised (upTo m) := by
  constructor <;> intro k <;> rw [passes_upTo_iff, passes_upTo_iff, h, le_max_iff]
  case kept    => exact .inl
  case bounded => exact id

end Threshold

namespace Filter

variable {R : Threshold → Threshold → Prop}
variable {f g : Filter} {e : Event} {t u : Threshold} {d : Selector × Threshold}

-- For each directive of `f` there is one in `g` with its selector, and `R` relates their thresholds.
def Meets (R : Threshold → Threshold → Prop) (f g : Filter) : Prop :=
  ∀ d ∈ f, ∃ t, (d.1, t) ∈ g ∧ R d.2 t

-- What is added takes the same place in both filters.
theorem Meets.add (hR : ∀ t, R t t) (h : f.Meets R g) (a : Directive) : (f.add a).Meets R (g.add a) := by
  cases ha : a.dynamic
  case true => rwa [add_of_dynamic ha, add_of_dynamic ha]
  case false =>
    intro d hd
    obtain rfl | ⟨hd, hs⟩ := (mem_add_iff ha).mp hd
    case inl => exact ⟨_, (mem_add_iff ha).mpr <| .inl rfl, hR _⟩
    case inr =>
      obtain ⟨t, ht, hr⟩ := h d hd
      exact ⟨t, (mem_add_iff ha).mpr <| .inr ⟨ht, hs⟩, hr⟩

-- Both filters have the same selectors.
structure Alike (R : Threshold → Threshold → Prop) (f g : Filter) : Prop where
  forth : f.Meets R g
  back  : g.Meets (flip R) f

theorem alike_ofLevel (h : R t u) : (ofLevel t).Alike R (ofLevel u) := by
  constructor <;> simp [Meets, ofLevel, flip, h]

namespace Alike

theorem refl (hR : ∀ t, R t t) (f : Filter) : f.Alike R f where
  forth d hd := ⟨d.2, hd, hR _⟩
  back d hd  := ⟨d.2, hd, hR _⟩

theorem symm (h : f.Alike R g) : g.Alike (flip R) f where
  forth := h.back
  back  := h.forth

theorem add (hR : ∀ t, R t t) (h : f.Alike R g) (a : Directive) : (f.add a).Alike R (g.add a) where
  forth := h.forth.add hR a
  back  := h.back.add (R := flip R) hR a

theorem addAll (hR : ∀ t, R t t) (h : f.Alike R g) (as : List Directive) :
    (as.foldl Filter.add f).Alike R (as.foldl Filter.add g) := by
  induction as generalizing f g
  case nil          => exact h
  case cons a as ih => exact ih <| h.add hR a

-- Which selector decides does not depend on the thresholds.
theorem decides (h : f.Alike R g) (hd : f.Decides e d) : ∃ t, g.Decides e (d.1, t) ∧ R d.2 t := by
  obtain ⟨t, ht, hr⟩ := h.forth d hd.mem
  refine ⟨t, ⟨ht, hd.selects, fun d' hd' hs => ?_⟩, hr⟩
  obtain ⟨t', ht', -⟩ := h.back d' hd'
  exact hd.precedes (d'.1, t') ht' hs

theorem exists_of_passes (h : f.Alike R g) (hf : f.Distinct) (hg : g.Distinct) (hp : f.passes e = true) :
    ∃ t u, R t u ∧ t.passes e.level = true ∧ (u.passes e.level = true → g.passes e = true) := by
  obtain ⟨d, hd, hp⟩ := (passes_iff hf).mp hp
  obtain ⟨u, hu, hr⟩ := h.decides hd
  exact ⟨d.2, u, hr, hp, fun hp => (passes_iff hg).mpr ⟨_, hu, hp⟩⟩

end Alike

theorem passes_ofLevel : (ofLevel t).passes e = t.passes e.level := by
  simp [passes, decisive?, ofLevel, Selector.selects, Selector.matchesTarget]

end Filter

namespace Config

@[simp]
theorem verbose_preserves_targets (c : Config) : c.verbose.targets = c.targets := by
  rw [verbose]
  split <;> rfl

@[simp]
theorem verbose_preserves_located (c : Config) : c.verbose.located = c.located := by
  rw [verbose]
  split <;> rfl

-- Debug is asked for unless that much is logged anyhow.
theorem rank_level_verbose (c : Config) :
    (Level.ofText c.verbose.level).rank = max (Level.ofText c.level).rank Level.debug.rank := by
  rw [verbose]
  split
  case isTrue h => obtain h | h := h <;> simp [Level.ofText, h, Level.rank]
  case isFalse h =>
    have hdebug : Level.ofText "debug" = .debug := by decide
    have hle : (Level.ofText c.level).rank ≤ Level.debug.rank :=
      Level.rank_le_debug_iff.mpr fun ht => h <| .inl <| Level.ofText_eq_trace_iff.mp ht
    rw [hdebug, max_eq_right hle]

end Config

namespace Filter

variable {env : Environment} {c : Config} {f : Filter} {e : Event}

-- The level is not looked at.
theorem ofConfig_verbose_of_parse? (h : (env.lookup "RUST_LOG").bind parse? = some f) (c : Config) :
    ofConfig env c.verbose = ofConfig env c := by
  rw [ofConfig_of_parse? h, ofConfig_of_parse? h, c.verbose_preserves_targets]

theorem alike_verbose (env : Environment) (c : Config) :
    (ofConfig env c).Alike Threshold.Raised (ofConfig env c.verbose) := by
  cases h : (env.lookup "RUST_LOG").bind parse?
  case some f =>
    rw [ofConfig_verbose_of_parse? h]
    exact .refl .refl _
  case none =>
    rw [ofConfig_of_level h, ofConfig_of_level h, c.verbose_preserves_targets]
    exact (alike_ofLevel <| Threshold.raised_upTo c.rank_level_verbose).addAll .refl _

theorem passes_verbose (h : (ofConfig env c).passes e = true) : (ofConfig env c.verbose).passes e = true := by
  obtain ⟨t, u, hr, ht, hu⟩ :=
    (alike_verbose env c).exists_of_passes (distinct_ofConfig ..) (distinct_ofConfig ..) h
  exact hu <| hr.kept _ ht

theorem passes_of_verbose (h : (ofConfig env c.verbose).passes e = true) :
    (ofConfig env c).passes e = true ∨ e.level.rank ≤ Level.debug.rank := by
  obtain ⟨u, t, hr, hu, ht⟩ :=
    (alike_verbose env c).symm.exists_of_passes (distinct_ofConfig ..) (distinct_ofConfig ..) h
  exact (hr.bounded _ hu).imp_left ht

theorem passes_ofConfig_iff (h : env.lookup "RUST_LOG" = none) (ht : c.targets = none) :
    (ofConfig env c).passes e = true ↔ e.level.rank ≤ (Level.ofText c.level).rank := by
  have hc : ofConfig env c = ofLevel (.upTo (.ofText c.level)) := by
    rw [ofConfig_of_level (h ▸ rfl), ht]
    rfl
  rw [hc, passes_ofLevel, Threshold.passes_upTo_iff]

theorem passes_verbose_iff (h : env.lookup "RUST_LOG" = none) (ht : c.targets = none) :
    (ofConfig env c.verbose).passes e = true ↔ e.level.rank ≤ Level.debug.rank ∨ lower c.level = "trace" := by
  rw [passes_ofConfig_iff h (c.verbose_preserves_targets.trans ht), c.rank_level_verbose, le_max_iff, or_comm,
    ←Level.ofText_eq_trace_iff]
  refine or_congr_right' fun hd => ?_
  have ht : e.level = .trace := not_not.mp <| mt Level.rank_le_debug_iff.mpr hd
  rw [ht, Level.rank_trace_le_iff]

theorem warnings_verbose (c : Config) : warnings c.verbose = warnings c := by
  rw [warnings, warnings, c.verbose_preserves_targets]

end Filter

end Log

namespace CommandLine

open Log Filter

variable {w : World} {s : Session} {d : Disk} {c : CommandLine} {args args' : List String}

-- What is run does not depend on how it is logged.
theorem execute_verbose (hp : parse args = .ok { c with verbose := false })
    (hp' : parse args' = .ok { c with verbose := true }) :
    (execute w s d args).log.Sublist (execute w s d args').log ∧
      execute w s d args' = { execute w s d args with log := (execute w s d args').log } := by
  have hr (b : Bool) : run w s d { c with verbose := b } = run w s d c := rfl
  have hl : logConfig s { c with verbose := true } = (logConfig s { c with verbose := false }).verbose := rfl
  simp only [execute, hp, hp', hr, hl, warnings_verbose, Config.verbose_preserves_located]
  cases run w s d c
  all_goals exact ⟨List.monotone_filter_right _ fun _ => passes_verbose, rfl⟩

-- A verbose run shows every event that is shown without it, whatever the environment says.
theorem verbose_hides_nothing (s : Session) :
    let c := Log.Config.ofEnvironment s.env
    let plain := ofConfig s.env c
    let verbose := ofConfig s.env c.verbose
    (∀ e, plain.passes e = true → verbose.passes e = true) ∧
    (∀ e, verbose.passes e = true → plain.passes e = true ∨ e.level.rank ≤ Level.debug.rank) ∧
    (∀ text f, s.env.lookup "RUST_LOG" = some text → parse? text = some f → verbose = plain) ∧
    (s.env.lookup "RUST_LOG" = none → s.env.lookup "PROTOSMITH_LOG_TARGET_FILTER" = none →
      -- Traces are only shown if they are asked for by name.
      ∀ e, verbose.passes e = true ↔ e.level.rank ≤ Level.debug.rank ∨ lower c.level = "trace") ∧
    ∀ (w : World) (d : Disk) (cl : CommandLine) (args args' : List String),
      parse args = .ok { cl with verbose := false } → parse args' = .ok { cl with verbose := true } →
      let x := execute w s d args
      let x' := execute w s d args'
      x.log.Sublist x'.log ∧ x' = { x with log := x'.log } := by
  refine ⟨fun e => passes_verbose, fun e => passes_of_verbose, fun text f ht hf => ?read,
    fun hr ht e => passes_verbose_iff hr ht, fun w d cl args args' => execute_verbose⟩
  case read =>
    have h : (s.env.lookup "RUST_LOG").bind parse? = some f := by rw [ht, Option.bind_some, hf]
    exact ofConfig_verbose_of_parse? h _

-- Directives for fields, one of them unreadable, over a level. Then `RUST_LOG` alone, empty, and nothing at all.
theorem verbose_hides_nothing_error :
    let filter := "[\x7bprogram\x7d]=off, =, [\x7berror\x7d]=INFO"
    let s : Session :=
      ⟨["app"], [("RUST_LOG", "="), ("PROTOSMITH_LOG_LEVEL", "Error"), ("PROTOSMITH_LOG_TARGET_FILTER", filter)]⟩
    let plain (s : Session) := ofConfig s.env (.ofEnvironment s.env)
    let verbose (s : Session) := ofConfig s.env (Log.Config.ofEnvironment s.env).verbose
    let e : Event := ⟨.info, "protosmith::status", "health endpoint unreachable", ["url", "error"]⟩
    (plain s).passes e = true ∧ (verbose s).passes e = true ∧
      (verbose s).passes { e with level := .debug } = false ∧
      (plain s).passes { e with level := .debug, fields := ["url"] } = false ∧
      (verbose s).passes { e with level := .debug, fields := ["url"] } = true ∧
      (∀ w d, (execute w s d ["list"]).log.Sublist (execute w s d ["list", "--verbose"]).log) ∧
      verbose ⟨["app"], [("RUST_LOG", "")]⟩ = plain ⟨["app"], [("RUST_LOG", "")]⟩ ∧
      (verbose ⟨["app"], []⟩).passes { e with level := .debug } = true := by
  intro filter s plain verbose e
  obtain ⟨hpasses, -, -, -, hrun⟩ := verbose_hides_nothing s
  have hplain : (plain s).passes e = true := by decide +kernel
  have hlist : parse ["list"] = .ok ⟨none, none, false, .list false⟩ := by decide +kernel
  have hlist' : parse ["list", "--verbose"] = .ok ⟨none, none, true, .list false⟩ := by decide +kernel
  refine ⟨hplain, hpasses e hplain, by decide +kernel, by decide +kernel, by decide +kernel, ?run, ?empty, ?unset⟩
  case run => exact fun w d => (hrun w d ⟨none, none, true, .list false⟩ _ _ hlist hlist').1
  case empty => exact (verbose_hides_nothing _).2.2.1 _ _ rfl rfl
  case unset => exact ((verbose_hides_nothing _).2.2.2.1 rfl rfl _).mpr <| .inl <| by decide

end CommandLine

end Scaffold
