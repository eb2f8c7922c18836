import Scaffold.CommandLine.Parser
import Scaffold.Proofs.Checks

namespace Scaffold.CommandLine

-- A path that is given is a path.
structure PathsGiven (cl : CommandLine) : Prop where
  root   : cl.root ≠ some ""
  config : cl.config ≠ some ""

namespace Given

-- No path that was given is empty.
structure PathsGiven (g : Given) : Prop where
  root   : g.root ≠ some ""
  config : g.config ≠ some ""

namespace PathsGiven

variable {g g' : Given} {l : Level}

theorem initial : PathsGiven {} where
  root := by simp
  config := by simp

theorem set {s : Setting} {value : String} (hg : g.PathsGiven) (h : g.set s value = .ok g') : g'.PathsGiven := by
  unfold Given.set at h
  split at h
  case isTrue => cases h
  case isFalse =>
    cases s
    case root =>
      obtain ⟨hv, h⟩ := ite_eq_iff.mp h |>.resolve_left (nomatch ·.2)
      cases h
      exact ⟨by simpa using hv, hg.config⟩
    case config =>
      obtain ⟨hv, h⟩ := ite_eq_iff.mp h |>.resolve_left (nomatch ·.2)
      cases h
      exact ⟨hg.root, by simpa using hv⟩
    all_goals
      cases h
      exact ⟨hg.root, hg.config⟩

theorem raise {f : Flag} (hg : g.PathsGiven) (h : g.raise f = .ok g') : g'.PathsGiven := by
  cases f
  case help | version => cases h
  all_goals
    simp only [Given.raise] at h
    split at h
    case isTrue => cases h
    case isFalse =>
      cases h
      exact ⟨hg.root, hg.config⟩

theorem settle (hg : g.PathsGiven) (h : g.settle = .ok g') : g'.PathsGiven := by
  rw [Given.settle] at h
  split at h
  · cases h
    exact hg
  · cases h
  · exact set (g := { g with pending := none }) ⟨hg.root, hg.config⟩ h

theorem takeLong {name : String} {value : Option String} (hg : g.PathsGiven)
    (h : takeLong l g name value = .ok g') : g'.PathsGiven := by
  unfold CommandLine.takeLong at h
  split at h
  case h_1 =>
    obtain ⟨g₁, h₁, h⟩ := bind_eq_ok_iff.mp h
    exact (hg.settle h₁).set h
  case h_2 =>
    obtain ⟨g₁, h₁, h⟩ := bind_eq_ok_iff.mp h
    cases h
    exact ⟨(hg.settle h₁).root, (hg.settle h₁).config⟩
  case h_4 =>
    obtain ⟨g₁, h₁, h⟩ := bind_eq_ok_iff.mp h
    exact (hg.settle h₁).raise h
  all_goals cases h

theorem takeShort {c : Char} (hg : g.PathsGiven) (h : takeShort l g c = .ok g') : g'.PathsGiven := by
  rw [CommandLine.takeShort] at h
  split at h
  · obtain ⟨g₁, h₁, h⟩ := bind_eq_ok_iff.mp h
    exact (hg.settle h₁).raise h
  · cases h

theorem takeShorts {flags : List Char} (hg : g.PathsGiven)
    (h : flags.foldlM (CommandLine.takeShort l) g = .ok g') : g'.PathsGiven := by
  induction flags generalizing g
  case nil =>
    cases h
    exact hg
  case cons c flags ih =>
    obtain ⟨g₁, h₁, h⟩ := bind_eq_ok_iff.mp h
    exact ih (hg.takeShort h₁) h

theorem takeArgument {trailing : Bool} {arg : String} (hg : g.PathsGiven)
    (h : takeArgument l trailing g arg = .ok g') : g'.PathsGiven := by
  rw [CommandLine.takeArgument] at h
  split at h
  · obtain ⟨g₁, h₁, h⟩ := bind_eq_ok_iff.mp h
    cases h
    exact ⟨(hg.settle h₁).root, (hg.settle h₁).config⟩
  · split at h <;> cases h

theorem scan {trailing : Bool} {args : List String} {found : Option (Name × List String)} (hg : g.PathsGiven)
    (h : scan l trailing g args = .ok (g', found)) : g'.PathsGiven := by
  fun_induction CommandLine.scan l trailing g args
  -- The end of the arguments, or a command.
  case case1 | case3 =>
    cases h
    exact hg
  -- A question for help.
  case case4 => cases h
  -- The separator.
  case case5 ih => exact ih hg h
  -- Long options, and short ones in one word.
  case case6 ih =>
    obtain ⟨g₁, h₁, h⟩ := bind_eq_ok_iff.mp h
    exact ih g₁ (hg.takeLong h₁) h
  case case7 ih =>
    obtain ⟨g₁, h₁, h⟩ := bind_eq_ok_iff.mp h
    exact ih g₁ (hg.takeShorts h₁) h
  -- The value of the option before it.
  case case8 ih => exact ih ⟨hg.root, hg.config⟩ h
  -- Arguments that are no options.
  case case2 ih | case9 ih =>
    obtain ⟨g₁, h₁, h⟩ := bind_eq_ok_iff.mp h
    exact ih g₁ (hg.takeArgument h₁) h

end PathsGiven
end Given

theorem orElse_ne {α : Type} {a b v : Option α} (ha : a ≠ v) (hb : b ≠ v) : (a <|> b) ≠ v := by
  cases a
  case none   => exact hb
  case some _ => exact ha

variable {cl : CommandLine}

theorem pathsGiven_of_parse {args : List String} (h : parse args = .ok cl) : cl.PathsGiven := by
  obtain ⟨⟨g₁, found⟩, hscan₁, h⟩ := bind_eq_ok_iff.mp h
  have hg₁ := Given.PathsGiven.initial.scan hscan₁
  cases found
  case none =>
    obtain ⟨_, -, h⟩ := bind_eq_ok_iff.mp h
    cases h
  case some found =>
    obtain ⟨⟨g₂, _⟩, hscan₂, h⟩ := bind_eq_ok_iff.mp h
    obtain ⟨i, hi, h⟩ := bind_eq_ok_iff.mp h
    obtain ⟨command, -, h⟩ := bind_eq_ok_iff.mp h
    obtain ⟨o, ho, h⟩ := bind_eq_ok_iff.mp h
    cases h
    have hinner := (Given.PathsGiven.initial.scan hscan₂).settle hi
    have houter := hg₁.settle ho
    exact ⟨orElse_ne hinner.root houter.root, orElse_ne hinner.config houter.config⟩

end Scaffold.CommandLine
