import Scaffold.Proofs.Operation.Perform
import Scaffold.Proofs.Operation.Toolchain

namespace Scaffold

open Text

-- A project in use: its disk, and the requests that succeeded so far, the latest one first.
structure Trace where
  disk : Disk
  done : List Request

namespace Trace

variable (tool : Tool) (c : Config) (cwd : Location)

def after (s : Trace) (r : Request) : Trace :=
  let o := r.perform tool c cwd s.disk
  ⟨o.disk, if o.result.toBool then r :: s.done else s.done⟩

def run (s : Trace) (rs : List Request) : Trace :=
  rs.foldl (after tool c cwd) s

end Trace

namespace Request

-- The stem of the service that is there or gone once the request succeeded.
def settles? : Request → Option String
  | create service _ => some (lower (trimmedText service))
  | remove service => some (lower (trimmedText service))
  | addRpc _ => none
  | regenerate => none

def isCreate : Request → Bool
  | create .. => true
  | _ => false

-- A request whose names the generator cannot take for something else.
def Plain : Request → Prop
  | create service _ => trimmedText service ≠ "remove"
  | remove service => AllBlank service.toList ∨ isIdentifier (trim service.toList) = true
  | addRpc _ => True
  | regenerate => True

end Request

-- Of the requests about a service, the latest one created it.
def Standing (done : List Request) (x : String) : Prop :=
  ∃ r, done.find? (fun r => r.settles? = some x) = some r ∧ r.isCreate = true

variable {tool : Tool} {c : Config} {cwd : Location} {home : Homes} {d : Disk} {s : Trace} {r : Request}
variable {t : Task} {done : List Request} {x : String}

theorem not_standing_nil : ¬Standing [] x := by
  simp [Standing]

theorem standing_cons : Standing (r :: done) x ↔
    if r.settles? = some x then r.isCreate = true else Standing done x := by
  rw [Standing, List.find?_cons]
  by_cases h : r.settles? = some x
  case pos => simp [h]
  case neg => simp [h, Standing]

theorem standing_create {service fields : String} :
    Standing (.create service fields :: done) x ↔ x = lower (trimmedText service) ∨ Standing done x := by
  simp only [standing_cons, Request.settles?, Option.some_inj]
  by_cases h : lower (trimmedText service) = x
  case pos => simp [h, Request.isCreate]
  case neg => simp [h, Ne.symm h]

theorem standing_remove {service : String} :
    Standing (.remove service :: done) x ↔ x ≠ lower (trimmedText service) ∧ Standing done x := by
  simp only [standing_cons, Request.settles?, Option.some_inj]
  by_cases h : lower (trimmedText service) = x
  case pos => simp [h, Request.isCreate]
  case neg => simp [h, Ne.symm h]

theorem standing_of_settles?_eq_none (h : r.settles? = none) : Standing (r :: done) x ↔ Standing done x := by
  simp [standing_cons, h]

namespace Trace

section After

variable {e : Failure}

theorem after_of_refused (h : r.Refused c (Request.stems c cwd s.disk) e) : s.after tool c cwd r = s := by
  obtain ⟨hr, -, hd⟩ := Request.perform_of_refused tool h
  rw [after, hr, hd]
  rfl

-- The disk is as the tool left it, and the request is done if the tool succeeded.
theorem after_of_readAs (tool : Tool) (h : r.ReadAs c (Request.stems c cwd s.disk) t) :
    (s.after tool c cwd r).disk = (tool (t.invocation c) s.disk).disk s.disk ∧
      ((tool (t.invocation c) s.disk).Succeeds → (s.after tool c cwd r).done = r :: s.done) ∧
      (¬(tool (t.invocation c) s.disk).Succeeds → (s.after tool c cwd r).done = s.done) := by
  have ho := Request.runsOnce_of_readAs tool h
  refine ⟨ho.disk, fun ⟨run, hl, he⟩ => ?_, fun hn => ?_⟩
  case refine_1 =>
    have hr := (ho.ok _).mpr ⟨run, hl, he, rfl⟩
    simp [after, hr, Except.toBool]
  case refine_2 =>
    cases hr : (r.perform tool c cwd s.disk).result
    case error => simp [after, hr, Except.toBool]
    case ok report =>
      obtain ⟨run, hl, he, -⟩ := (ho.ok report).mp hr
      exact absurd ⟨run, hl, he⟩ hn

end After

section Step

variable (h : Mirrors c cwd home (Standing s.done) s.disk)

include h

theorem mirrors_after_of_givesUp (hread : r.ReadAs c (Request.stems c cwd s.disk) t)
    (hg : (tool (t.invocation c) s.disk).GivesUp s.disk) :
    Mirrors c cwd home (Standing (s.after tool c cwd r).done) (s.after tool c cwd r).disk := by
  obtain ⟨hdisk, -, hsame⟩ := after_of_readAs tool hread
  rw [hdisk, hsame hg.fails]
  exact h.of_same hg.same

omit h in
-- A request that is about no service alone leaves them all as they are, however it ends.
theorem mirrors_after_of_settles?_eq_none (hread : r.ReadAs c (Request.stems c cwd s.disk) t)
    (hr : r.settles? = none)
    (hm : Mirrors c cwd home (Standing s.done) ((tool (t.invocation c) s.disk).disk s.disk)) :
    Mirrors c cwd home (Standing (s.after tool c cwd r).done) (s.after tool c cwd r).disk := by
  obtain ⟨hdisk, hdone, hsame⟩ := after_of_readAs tool hread
  rw [hdisk]
  by_cases hok : (tool (t.invocation c) s.disk).Succeeds
  case neg => rwa [hsame hok]
  case pos =>
    rw [hdone hok]
    exact hm.of_iff fun x => (standing_of_settles?_eq_none hr).symm

-- One step, whichever request it is.
theorem mirrors_after (ht : Toolchain tool c cwd home) (hr : r.Plain) :
    Mirrors c cwd home (Standing (s.after tool c cwd r).done) (s.after tool c cwd r).disk := by
  obtain ⟨t, hread⟩ | ⟨e, he⟩ := Request.exists_readAs_or_refused c (Request.stems c cwd s.disk) r
  case inr => rwa [after_of_refused he]
  case inl =>
    obtain ⟨hdisk, hdone, -⟩ := after_of_readAs tool hread
    cases hread
    case create service fields fs hi hf =>
      have hname : isIdentifier (trimmedText service).toList = true := by rwa [toList_trimmedText]
      obtain hg | ⟨-, hok, hw⟩ :=
        ht.create s.disk (trimmedText service) (Field.textAll fs) h.site h.tidy hname hr
      case inl => exact mirrors_after_of_givesUp h (.create hi hf) hg
      case inr =>
        rw [hdone hok, hdisk]
        exact (h.writes (isStem_lower hname) hw).of_iff fun x => standing_create.symm
    case remove service hb =>
      have hname : isIdentifier (trimmedText service).toList = true := by
        rw [toList_trimmedText]
        exact hr.resolve_left hb
      obtain hg | ⟨hok, hw⟩ := ht.remove s.disk (trimmedText service) h.site h.tidy hname
      case inl => exact mirrors_after_of_givesUp h (.remove hb) hg
      case inr =>
        rw [hdone hok, hdisk]
        exact (h.removes (isStem_lower hname) hw).of_iff fun x => standing_remove.symm
    case addRpc spec rpc hp =>
      have hparts := Rpc.parse_eq_ok_iff.mp hp
      have hname : isIdentifier rpc.service.toList = true := hparts.service ▸ hparts.isService
      obtain hg | he := ht.addRpc s.disk rpc.service rpc.arguments.tail.tail h.site h.tidy hname
      case inl => exact mirrors_after_of_givesUp h (.addRpc hp) hg
      case inr => exact mirrors_after_of_settles?_eq_none (.addRpc hp) rfl <| h.edits he
    case regenerate =>
      exact mirrors_after_of_settles?_eq_none .regenerate rfl <| h.builds <| ht.build s.disk h.site h.tidy

theorem mirrors_run (ht : Toolchain tool c cwd home) {rs : List Request} (hr : ∀ r ∈ rs, r.Plain) :
    Mirrors c cwd home (Standing (s.run tool c cwd rs).done) (s.run tool c cwd rs).disk := by
  induction rs generalizing s
  case nil => exact h
  case cons r rs ih =>
    rw [List.forall_mem_cons] at hr
    exact ih (mirrors_after h ht hr.1) hr.2

end Step

end Trace

-- The folders of artifacts are missing or empty.
structure Homes.Bare (home : Homes) (d : Disk) : Prop where
  folder : ∀ k, k ≠ .binding → d.get? (home k) = none ∨ home.HasFolder d k
  empty : ∀ k, k ≠ .binding → ∀ n, d.get? (home k ++ [n]) = none

theorem Site.mirrors_nothing (hs : Site c cwd home d) (hb : home.Bare d) :
    Mirrors c cwd home (Standing []) d where
  site := hs
  tidy := ⟨hb.folder, fun k hk n e he => by simp [hb.empty k hk n] at he⟩
  named x hx := absurd hx not_standing_nil
  fits x hx := absurd hx not_standing_nil
  occupied k hk n := by simp [hb.empty k hk n, not_standing_nil]

theorem Trace.run_shows_standing (hs : Site c cwd home d) (hb : home.Bare d) (ht : Toolchain tool c cwd home)
    (rs : List Request) (hr : ∀ r ∈ rs, r.Plain) :
    let s := Trace.run tool c cwd ⟨d, []⟩ rs
    let listed := (Inventory.list c cwd s.disk).services
    (∀ n, isIdentifier n.toList = true →
      ((Inventory.find c cwd s.disk n).isComplete = true ↔ Standing s.done (lower n)) ∧
      ((Inventory.find c cwd s.disk n).isAbsent = true ↔ ¬Standing s.done (lower n))) ∧
    (listed.map ArtifactSet.stem).Pairwise (· < ·) ∧
    (∀ x, x ∈ listed.map ArtifactSet.stem ↔ Standing s.done x ∧ x ≠ "health") ∧
    ∀ a ∈ listed, a = Inventory.find c cwd s.disk a.stem ∧ a.isComplete = true := by
  have h := mirrors_run (s := ⟨d, []⟩) (hs.mirrors_nothing hb) ht hr
  exact ⟨fun n hn => ⟨h.find_isComplete_iff hn, h.find_isAbsent_iff hn⟩, h.list_services⟩

-- The root of a project keeps its place whatever is done in the folders below it. It need not be there.
theorem Site.shop (hd : ∀ t, d.get? ["shop"] ≠ some (.link t)) :
    Site (.ofRoot "/" "/shop") [] (.below ["shop"]) d := by
  have hr : (Config.ofRoot "/" "/shop").root = "/shop" := by decide +kernel
  refine .of_root rfl (by simp [hr]) (by rw [hr]; decide) fun d' ht _ l => ?_
  have hd' : d'.get? ["shop"] = d.get? ["shop"] := by
    refine ht.outside _ fun k hp => ?_
    have := hp.length_le
    simp [Homes.below] at this
  have hsteps : Disk.steps "/shop" = ["shop"] := by decide +kernel
  have hwalk : d'.walk true Disk.maxLinks [] ["shop"] = .ok l ↔ l = ["shop"] := by
    rw [Disk.walk_singleton_eq_ok_iff (by decide) fun _ t => hd' ▸ hd t]
    exact ⟨fun h => h.2.2, fun h => ⟨rfl, by decide, h⟩⟩
  have habs : Path.isAbsolute "/shop" = true := by decide
  rw [hr, Disk.find_eq_ok_iff, Disk.locate_eq_ok_iff, hsteps, habs, if_pos rfl, hwalk]
  constructor
  · rintro ⟨⟨-, -, -, rfl⟩, he⟩
    exact ⟨rfl, he⟩
  · rintro ⟨rfl, he⟩
    exact ⟨⟨by decide, by decide, by decide, rfl⟩, he⟩

-- A project with an empty folder of protocol definitions and no others, and the tools of reference.
theorem Trace.run_shows_standing_shop :
    let c := Config.ofRoot "/" "/shop"
    let tool := Tool.reference c (.below ["shop"])
    let d := Disk.empty.put ["shop"] .directory |>.put ["shop", "proto"] .directory
    let rs : List Request := [
      .create " Item " "name:string",
      .create "ITEM" "name:string",
      .create "Health" "ok:bool",
      .addRpc ⟨"item", "Get", "id:int64", "item:Item", "GET:/items/\x7bid\x7d", none⟩,
      .create "Order" "total:int64,items:repeated Item",
      .regenerate,
      .remove "iTEM\n"]
    let s := Trace.run tool c [] ⟨d, []⟩ rs
    (Inventory.find c [] s.disk "ORDER").isComplete = true ∧
      (Inventory.find c [] s.disk "Item").isAbsent = true ∧
      ∀ x, x ∈ (Inventory.list c [] s.disk).services.map ArtifactSet.stem ↔ x = "order" := by
  intro c tool d rs s
  have hd t : d.get? ["shop"] ≠ some (.link t) := by
    have hdir : d.get? ["shop"] = some .directory := by decide +kernel
    simp [hdir]
  have hb : (Homes.below ["shop"]).Bare d := by
    constructor
    all_goals intro k hk
    case folder =>
      cases k
      case protocol => exact .inr ⟨by decide +kernel, by decide +kernel⟩
      case binding  => contradiction
      all_goals exact .inl <| by decide +kernel
    case empty =>
      intro n
      have hl m (hm : m.length ≤ 2) : Homes.below ["shop"] k ++ [n] ≠ m := by
        rintro rfl
        simp [Homes.below] at hm
      rw [Disk.get?_put (hl [] (by decide)) (by decide), if_neg (hl _ (by decide)),
        Disk.get?_put (hl [] (by decide)) (by decide), if_neg (hl _ (by decide))]
      rfl
  have ht : Toolchain tool c [] (.below ["shop"]) :=
    Tool.reference_toolchain fun k => by cases k <;> decide
  have hr : ∀ r ∈ rs, r.Plain := by
    simp only [rs, List.forall_mem_cons, Request.Plain, List.not_mem_nil, false_implies, implies_true, true_and,
      and_true]
    refine ⟨?_, ?_, ?_, ?_, .inr ?_⟩ <;> decide +kernel
  obtain ⟨hfind, -, hlist, -⟩ := run_shows_standing (.shop hd) hb ht rs hr
  have hdone : s.done = [.remove "iTEM\n", .regenerate, .create "Order" "total:int64,items:repeated Item",
      .addRpc ⟨"item", "Get", "id:int64", "item:Item", "GET:/items/\x7bid\x7d", none⟩,
      .create "Health" "ok:bool", .create " Item " "name:string"] := by
    decide +kernel
  -- The second request fails, for there is an item.
  have hs x : Standing s.done x ↔ x = "order" ∨ x = "health" := by
    have hitem : lower (trimmedText "iTEM\n") = "item" := by decide +kernel
    have hitem' : lower (trimmedText " Item ") = "item" := by decide +kernel
    have horder : lower (trimmedText "Order") = "order" := by decide +kernel
    have hhealth : lower (trimmedText "Health") = "health" := by decide +kernel
    rw [hdone, standing_remove, standing_of_settles?_eq_none rfl, standing_create,
      standing_of_settles?_eq_none rfl, standing_create, standing_create, hitem, hitem', horder, hhealth]
    simp only [not_standing_nil, or_false]
    grind
  have hfound : lower "ORDER" = "order" := by decide +kernel
  have hgone : lower "Item" = "item" := by decide +kernel
  refine ⟨(hfind "ORDER" (by decide)).1.mpr ?_, (hfind "Item" (by decide)).2.mpr ?_, fun x => ?_⟩
  case refine_1 => exact (hs _).mpr <| .inl hfound
  case refine_2 =>
    rw [hgone]
    exact fun h => by simpa using (hs _).mp h
  case refine_3 =>
    refine (hlist x).trans <| (and_congr_left' (hs x)).trans ?_
    grind

end Scaffold
