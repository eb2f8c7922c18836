import Scaffold.Proofs.CommandLine.Choice
import Scaffold.Proofs.CommandLine.Paths

namespace Scaffold

namespace Command

open CommandLine

def name : Command → Name
  | list _ => .list
  | create .. => .create
  | addRpc .. => .addRpc
  | remove _ => .remove
  | regenerate => .regenerate
  | status _ => .status
  | guide => .guide

def choices : Command → List Choice
  | list json => if json then [.raise .json] else []
  | create _ _ strict => if strict then [.raise .strict] else []
  | addRpc spec strict =>
    .set .http spec.http :: (spec.body.map (.set .body)).toList ++ if strict then [.raise .strict] else []
  | status json => if json then [.raise .json] else []
  | _ => []

def arguments : Command → List String
  | create service fields _ => [service, fields]
  | addRpc spec _ => [spec.service, spec.rpc, spec.request, spec.response]
  | remove service => [service]
  | _ => []

-- Commands without arguments need no separator.
def trailer (c : Command) : List String :=
  if c.arguments = [] then [] else "--" :: c.arguments

end Command

namespace CommandLine

-- The options for all commands.
def shared (cl : CommandLine) : List Choice :=
  (cl.root.map (.set .root)).toList ++ (cl.config.map (.set .config)).toList ++
    if cl.verbose then [.raise .verbose] else []

def write (cl : CommandLine) (outer inner : List Choice) : List String :=
  outer.map Choice.word ++ cl.command.name.text :: inner.map Choice.word ++ cl.command.trailer

-- All options of a command line, in any order. Only those for all commands may stand before the command.
structure Placed (cl : CommandLine) (outer inner : List Choice) : Prop where
  perm   : (outer ++ inner).Perm (cl.shared ++ cl.command.choices)
  shared : ∀ o ∈ outer, o.Shared

variable {l : Level} {g : Given}

theorem scan_outer_command (hs : g.pending = none) (n : Name) (rest : List String) :
    scan .outer false g (n.text :: rest) = .ok (g, some (n, rest)) := by
  have hword : (some n.text).filter isCommandWord = some n.text := by
    simp [Option.filter, isCommandWord_text]
  have hw : g.isAwaiting = false := by simp [Given.isAwaiting, hs]
  rw [scan]
  simp [hw, hword, Name.ofText?_text]

-- Behind the separator everything is an argument, as long as there is room.
theorem scan_arguments (hs : g.pending = none) {args : List String}
    (hc : g.arguments.length + args.length ≤ l.capacity) :
    scan l true g args = .ok ({ g with arguments := g.arguments ++ args }, none) := by
  induction args generalizing g
  case nil => simp [scan]
  case cons arg args ih =>
    rw [List.length_cons] at hc
    have hroom : g.arguments.length < l.capacity := by omega
    rw [scan, if_pos rfl, takeArgument, if_pos hroom, Given.settle_of_settled hs, ok_bind]
    refine (ih (g := { g with arguments := g.arguments ++ [arg] }) hs ?_).trans ?_
    · simp; omega
    · simp

theorem scan_separator (n : Name) (g : Given) (args : List String) :
    scan (.inner n) false g ("--" :: args) = scan (.inner n) true g args := by
  have hs : Shape.of "--" = .separator := rfl
  rw [scan]
  simp [hs]

end CommandLine

namespace Command

open CommandLine

variable {c : Command} {g : Given} {os : List Choice} {o : Choice}

theorem length_arguments (c : Command) : c.arguments.length = c.name.capacity := by
  cases c <;> rfl

theorem scan_trailer (c : Command) (h : g.Holds os) :
    scan (.inner c.name) false g c.trailer = .ok ({ g with arguments := c.arguments }, none) := by
  rw [trailer]
  split
  case isTrue hn => rw [scan, hn, ←h.arguments]
  case isFalse =>
    have hroom : g.arguments.length + c.arguments.length ≤ c.name.capacity := by
      simp [h.arguments, c.length_arguments]
    rw [scan_separator, scan_arguments h.settled hroom, h.arguments, List.nil_append]

-- The command's own options are none of those for all commands, and can be read among its arguments.
structure Own (c : Command) (o : Choice) : Prop where
  notShared : ¬o.Shared
  valid     : o.Valid
  known     : (Level.inner c.name).Knows o

theorem own_of_mem (h : o ∈ c.choices) : c.Own o := by
  cases c
  case list json | status json =>
    obtain ⟨-, rfl⟩ : json = true ∧ o = .raise .json := by simpa [choices] using h
    exact ⟨id, trivial, rfl, rfl⟩
  case create strict =>
    obtain ⟨-, rfl⟩ : strict = true ∧ o = .raise .strict := by simpa [choices] using h
    exact ⟨id, trivial, rfl, rfl⟩
  case addRpc spec strict =>
    obtain rfl | ⟨_, -, rfl⟩ | ⟨-, rfl⟩ : o = .set .http spec.http ∨
        (∃ b, spec.body = some b ∧ .set .body b = o) ∨ strict = true ∧ o = .raise .strict := by
      simpa [choices] using h
    · exact ⟨id, trivial, rfl⟩
    · exact ⟨id, trivial, rfl⟩
    · exact ⟨id, trivial, rfl, rfl⟩
  all_goals cases h

theorem build_of_options (ha : g.arguments = c.arguments) (ho : ∀ o, ¬o.Shared → (g.Has o ↔ o ∈ c.choices)) :
    build c.name g = .ok c := by
  have hjson : g.json = true ↔ .raise .json ∈ c.choices := ho (.raise .json) id
  have hstrict : g.strict = true ↔ .raise .strict ∈ c.choices := ho (.raise .strict) id
  have hhttp (v : String) : g.http = some v ↔ .set .http v ∈ c.choices := ho (.set .http v) id
  have hbody (v : String) : g.body = some v ↔ .set .body v ∈ c.choices := ho (.set .body v) id
  cases c
  case list json =>
    have hj : g.json = json := Bool.eq_iff_iff.mpr <| by simpa [choices] using hjson
    exact congrArg (Except.ok <| list ·) hj
  case status json =>
    have hj : g.json = json := Bool.eq_iff_iff.mpr <| by simpa [choices] using hjson
    exact congrArg (Except.ok <| status ·) hj
  case create service fields strict =>
    have hs : g.strict = strict := Bool.eq_iff_iff.mpr <| by simpa [choices] using hstrict
    simp [build, name, ha, arguments, hs]
  case addRpc spec strict =>
    have hs : g.strict = strict := Bool.eq_iff_iff.mpr <| by simpa [choices] using hstrict
    have hh : g.http = some spec.http := (hhttp _).mpr <| by simp [choices]
    have hb : g.body = spec.body := Option.ext fun v => by simpa [choices] using hbody v
    simp [build, name, ha, arguments, hs, hh, hb]
  case remove service => simp [build, name, ha, arguments]
  all_goals rfl

end Command

namespace CommandLine

variable {cl : CommandLine} {o : Choice} {outer inner : List Choice}

theorem mem_shared_iff :
    o ∈ cl.shared ↔ (∃ v, cl.root = some v ∧ .set .root v = o) ∨ (∃ v, cl.config = some v ∧ .set .config v = o) ∨
      cl.verbose = true ∧ o = .raise .verbose := by
  simp [shared]

theorem shared_of_mem_shared (h : o ∈ cl.shared) : o.Shared := by
  obtain ⟨_, -, rfl⟩ | ⟨_, -, rfl⟩ | ⟨-, rfl⟩ := mem_shared_iff.mp h
  all_goals trivial

theorem PathsGiven.valid_of_mem_shared (hp : cl.PathsGiven) (h : o ∈ cl.shared) : o.Valid := by
  obtain ⟨_, hr, rfl⟩ | ⟨_, hc, rfl⟩ | ⟨-, rfl⟩ := mem_shared_iff.mp h
  · rintro rfl
    exact hp.root hr
  · rintro rfl
    exact hp.config hc
  · trivial

-- No option is used twice, so none conflicts with another one.
theorem nodup_names (cl : CommandLine) : ((cl.shared ++ cl.command.choices).map Choice.name).Nodup := by
  have hshared : (cl.shared.map Choice.name).Sublist ["root", "config", "verbose"] := by
    cases hr : cl.root <;> cases hc : cl.config <;> cases hv : cl.verbose <;>
      simp [shared, hr, hc, hv, Choice.name, Setting.text, Flag.text]
  have hchoices : (cl.command.choices.map Choice.name).Sublist ["http", "body", "json", "strict"] := by
    cases cl.command
    case list json | status json => cases json <;> simp [Command.choices, Choice.name, Flag.text]
    case create strict           => cases strict <;> simp [Command.choices, Choice.name, Flag.text]
    case addRpc spec strict =>
      cases hb : spec.body <;> cases strict <;> simp [Command.choices, hb, Choice.name, Setting.text, Flag.text]
    all_goals exact List.nil_sublist _
  rw [List.map_append]
  exact List.Nodup.sublist (hshared.append hchoices) (by decide)

-- What was given on both sides of the command, or on one of them, is what is said of the command line.
theorem orElse_eq_of_iff {α : Type} {a b v : Option α} (h : ∀ x, a = some x ∨ b = some x ↔ v = some x) :
    (a <|> b) = v := by
  cases a
  case none => exact Option.ext fun x => by simpa using h x
  case some x => exact ((h x).mp <| .inl rfl).symm

namespace Placed

variable (h : cl.Placed outer inner)
include h

theorem mem_iff_of_shared (ho : o.Shared) : o ∈ inner ∨ o ∈ outer ↔ o ∈ cl.shared := by
  have hown : o ∉ cl.command.choices := fun hm => (Command.own_of_mem hm).notShared ho
  have hp := h.perm.mem_iff (a := o)
  simp only [List.mem_append, hown, or_false] at hp
  rw [or_comm, hp]

theorem mem_iff_of_not_shared (ho : ¬o.Shared) : o ∈ inner ↔ o ∈ cl.command.choices := by
  have hs : o ∉ cl.shared := mt shared_of_mem_shared ho
  have hout : o ∉ outer := fun hm => ho <| h.shared o hm
  have hp := h.perm.mem_iff (a := o)
  simpa only [List.mem_append, hs, hout, false_or] using hp

theorem mem_choices_of_mem (ho : o ∈ outer ∨ o ∈ inner) : o ∈ cl.shared ∨ o ∈ cl.command.choices :=
  List.mem_append.mp <| h.perm.mem_iff.mp <| List.mem_append.mpr ho

theorem known_of_mem_inner (ho : o ∈ inner) : (Level.inner cl.command.name).Knows o := by
  obtain hs | hc := h.mem_choices_of_mem (.inr ho)
  · exact Level.knows_of_shared _ <| shared_of_mem_shared hs
  · exact (Command.own_of_mem hc).known

theorem valid_of_mem (hp : cl.PathsGiven) (ho : o ∈ outer ∨ o ∈ inner) : o.Valid := by
  obtain hs | hc := h.mem_choices_of_mem ho
  · exact hp.valid_of_mem_shared hs
  · exact (Command.own_of_mem hc).valid

theorem nodup_names : (outer.map Choice.name).Nodup ∧ (inner.map Choice.name).Nodup := by
  have hn := (h.perm.map Choice.name).nodup_iff.mpr cl.nodup_names
  rw [List.map_append, List.nodup_append] at hn
  exact ⟨hn.1, hn.2.1⟩

theorem exists_scan_outer (hp : cl.PathsGiven) :
    ∃ g, scan .outer false {} (cl.write outer inner) =
      .ok (g, some (cl.command.name, inner.map Choice.word ++ cl.command.trailer)) ∧ g.Holds outer := by
  obtain ⟨g, hscan, hg⟩ := Given.holds_nil.exists_scan (l := .outer) outer
    (fun o ho => Level.knows_of_shared _ <| h.shared o ho) (fun o ho => h.valid_of_mem hp <| .inl ho)
    (by simpa using h.nodup_names.1) (cl.command.name.text :: (inner.map Choice.word ++ cl.command.trailer))
  rw [List.append_nil] at hg
  refine ⟨g, ?_, hg⟩
  rw [write, List.append_assoc, List.cons_append, hscan, scan_outer_command hg.settled]

theorem exists_scan_inner (hp : cl.PathsGiven) :
    ∃ g : Given, scan (.inner cl.command.name) false {} (inner.map Choice.word ++ cl.command.trailer) =
      .ok ({ g with arguments := cl.command.arguments }, none) ∧ g.Holds inner := by
  obtain ⟨g, hscan, hg⟩ := Given.holds_nil.exists_scan (l := .inner cl.command.name) inner
    (fun o => h.known_of_mem_inner) (fun o ho => h.valid_of_mem hp <| .inr ho)
    (by simpa using h.nodup_names.2) cl.command.trailer
  rw [List.append_nil] at hg
  exact ⟨g, hscan.trans <| cl.command.scan_trailer hg, hg⟩

theorem parse_write (hp : cl.PathsGiven) : parse (cl.write outer inner) = .ok cl := by
  obtain ⟨g₁, hscan₁, hg₁⟩ := h.exists_scan_outer hp
  obtain ⟨g₂, hscan₂, hg₂⟩ := h.exists_scan_inner hp
  have hbuild : build cl.command.name { g₂ with arguments := cl.command.arguments } = .ok cl.command := by
    refine Command.build_of_options rfl fun o ho => ?_
    rw [←h.mem_iff_of_not_shared ho, ←hg₂.options]
    cases o <;> rfl
  have hshared (o : Choice) (ho : o.Shared) : g₂.Has o ∨ g₁.Has o ↔ o ∈ cl.shared := by
    rw [hg₂.options, hg₁.options, h.mem_iff_of_shared ho]
  have hroot : (g₂.root <|> g₁.root) = cl.root :=
    orElse_eq_of_iff fun v => (hshared (.set .root v) trivial).trans <| by simp [mem_shared_iff]
  have hconfig : (g₂.config <|> g₁.config) = cl.config :=
    orElse_eq_of_iff fun v => (hshared (.set .config v) trivial).trans <| by simp [mem_shared_iff]
  have hverbose : (g₁.verbose || g₂.verbose) = cl.verbose := by
    rw [Bool.or_comm, Bool.eq_iff_iff, Bool.or_eq_true]
    exact (hshared (.raise .verbose) trivial).trans <| by simp [mem_shared_iff]
  have hsettle : Given.settle { g₂ with arguments := cl.command.arguments } =
      .ok { g₂ with arguments := cl.command.arguments } := Given.settle_of_settled hg₂.settled
  rw [parse, hscan₁, ok_bind]
  simp only [hscan₂, ok_bind, hsettle, hbuild, Given.settle_of_settled hg₁.settled, hroot, hconfig, hverbose]
  rfl

end Placed

-- Each option for all commands stands on the side that is chosen for it.
theorem placed_filter (cl : CommandLine) (before : Choice → Bool) :
    cl.Placed (cl.shared.filter before) (cl.shared.filter (!before ·) ++ cl.command.choices) where
  perm := by
    rw [←List.append_assoc]
    exact (List.filter_append_perm before cl.shared).append_right _
  shared _ ho := shared_of_mem_shared <| List.mem_of_mem_filter ho

-- The command lines that can be written are those without empty paths.
theorem exists_parse_eq_ok_iff : (∃ args, parse args = .ok cl) ↔ cl.PathsGiven :=
  ⟨fun ⟨_, h⟩ => pathsGiven_of_parse h, fun hp => ⟨_, (cl.placed_filter fun _ => true).parse_write hp⟩⟩

-- A command line is read back as it was written, whichever texts it holds and wherever its options for all
-- commands stand. Any choice of a side for each of them is a placement.
theorem read_back_from_every_placement (hp : cl.PathsGiven) :
    (∀ outer inner, cl.Placed outer inner → parse (cl.write outer inner) = .ok cl) ∧
      ∀ before : Choice → Bool,
        cl.Placed (cl.shared.filter before) (cl.shared.filter (!before ·) ++ cl.command.choices) :=
  ⟨fun _ _ h => h.parse_write hp, cl.placed_filter⟩

-- Values that look like options, commands and separators.
theorem read_back_from_every_placement_addRpc :
    let cl : CommandLine := ⟨some "=--", some "list", true, .addRpc ⟨"--", "-v", "", "help", "", some ""⟩ true⟩
    let outer : List Choice := [.set .root "=--"]
    let inner : List Choice :=
      [.raise .strict, .set .config "list", .set .http "", .raise .verbose, .set .body ""]
    cl.write outer inner =
        ["--root==--", "add-rpc", "--strict", "--config=list", "--http=", "--verbose", "--body=", "--", "--", "-v",
          "", "help"] ∧
      cl.Placed outer inner ∧ parse (cl.write outer inner) = .ok cl := by
  intro cl outer inner
  have hp : cl.PathsGiven := ⟨by decide, by decide⟩
  have hplaced : cl.Placed outer inner := ⟨by decide, by simp [outer, Choice.Shared]⟩
  exact ⟨by decide, hplaced, (read_back_from_every_placement hp).1 outer inner hplaced⟩

end CommandLine

end Scaffold
