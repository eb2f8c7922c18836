import Scaffold.Operation.Basic
import Scaffold.Proofs.Artifact.Mirror

namespace Scaffold

open Text

variable {c : Config} {cwd : Location} {home : Homes} {d d' : Disk} {k : ArtifactClass} {x : String}

namespace Launch

def Succeeds (l : Launch) : Prop :=
  ∃ run, l = .ran run ∧ run.ending = .exited 0

-- Does not succeed, and changes nothing.
structure GivesUp (l : Launch) (d : Disk) : Prop where
  fails : ¬l.Succeeds
  same : ∀ p, (l.disk d).get? p = d.get? p

end Launch

-- Tools may give up whenever they like, but as far as they succeed they do what is asked for, with names in
-- lower case. No service is created that is already there, and an RPC can only be added to one that is.
-- Nothing is asked of them for other arguments, or while the folders of a project are in disorder.
structure Toolchain (tool : Tool) (c : Config) (cwd : Location) (home : Homes) : Prop where
  create : ∀ d name fields, Site c cwd home d → home.Tidy d → isIdentifier name.toList = true →
    name ≠ "remove" →
    let l := tool ⟨c.codegen, [name, fields], c.root⟩ d
    l.GivesUp d ∨
      d.get? (home.place c .protocol (lower name)) = none ∧ l.Succeeds ∧
        home.Writes c (lower name) d (l.disk d)
  addRpc : ∀ d service rest, Site c cwd home d → home.Tidy d → isIdentifier service.toList = true →
    let l := tool ⟨c.codegen, "add-rpc" :: service :: rest, c.root⟩ d
    l.GivesUp d ∨ home.Edits c (lower service) d (l.disk d)
  remove : ∀ d name, Site c cwd home d → home.Tidy d → isIdentifier name.toList = true →
    let l := tool ⟨c.codegen, ["remove", name], c.root⟩ d
    l.GivesUp d ∨ l.Succeeds ∧ home.Removes c (lower name) d (l.disk d)
  build : ∀ d, Site c cwd home d → home.Tidy d →
    home.Builds d ((tool ⟨c.buildTool, [c.buildTarget], c.root⟩ d).disk d)

section Reference

instance (c : Config) (k : ArtifactClass) (x : String) : Decidable (Fits c k x) :=
  decidable_of_iff
    ((Inventory.fileName x (Inventory.extension c k)).utf8ByteSize ≤ Disk.maxName ∧
      (Inventory.path c k x).utf8ByteSize ≤ Disk.maxPath)
    ⟨fun h => ⟨h.1, h.2⟩, fun h => ⟨h.name, h.path⟩⟩

-- The classes of which each service has an artifact.
def ArtifactClass.owned : List ArtifactClass :=
  [.protocol, .service, .model]

theorem ArtifactClass.mem_owned_iff : k ∈ owned ↔ k ≠ .binding := by
  cases k <;> decide

-- Tools that know where the folders of their project are.
namespace Reference

-- There is a place for the artifact, or for its folder and then for the artifact.
structure HasRoom (c : Config) (home : Homes) (d : Disk) (k : ArtifactClass) (x : String) : Prop where
  parent : d.get? (home k).dropLast = some .directory
  fits : Fits c k x

instance (home : Homes) (d : Disk) : Decidable (HasRoom c home d k x) :=
  decidable_of_iff (d.get? (home k).dropLast = some .directory ∧ Fits c k x)
    ⟨fun h => ⟨h.1, h.2⟩, fun h => ⟨h.parent, h.fits⟩⟩

def write (c : Config) (home : Homes) (x : String) (content : Octets) (d : Disk) : Disk :=
  ArtifactClass.owned.foldl
    (fun d k => (d.put (home k) .directory).put (home.place c k x) (.file content false)) d

def remove (c : Config) (home : Homes) (x : String) (d : Disk) : Disk :=
  ArtifactClass.owned.foldl (fun d k => d.erase (home.place c k x)) d

def success (d : Disk) : Launch :=
  .ran ⟨.exited 0, [], [], d⟩

def failure (d : Disk) : Launch :=
  .ran ⟨.exited 1, [], [], d⟩

def generate (c : Config) (home : Homes) (d : Disk) : List String → Launch
  | ["remove", name] => success (remove c home (lower name) d)
  | "add-rpc" :: service :: rest =>
    let p := home.place c .protocol (lower service)
    if (d.get? p).isSome then success (d.put p (.file (octets ("\n".intercalate rest)) false)) else failure d
  | [name, fields] =>
    let x := lower name
    if (d.get? (home.place c .protocol x)).isNone ∧ ∀ k ∈ ArtifactClass.owned, HasRoom c home d k x then
      success (write c home x (octets fields) d)
    else failure d
  | _ => failure d

end Reference

def Tool.reference (c : Config) (home : Homes) : Tool :=
  fun i d =>
    if i.program = c.codegen then Reference.generate c home d i.arguments
    else .ran ⟨.exited 0, [], [], d.put (home .binding) .directory⟩

namespace Reference

variable {content : Octets} {l m : Location} {e : Entry}

theorem get?_put_of_ne_nil (hm : m ≠ []) (hn : m.all isEntryName = true) :
    (d.put m e).get? l = if l = m then some e else d.get? l := by
  cases l
  case nil  => rw [if_neg hm.symm, Disk.get?, Disk.get?]
  case cons => exact Disk.get?_put (by simp) hn

theorem get?_erase_of_ne_nil (hm : m ≠ []) : (d.erase m).get? l = if l = m then none else d.get? l := by
  cases l
  case nil  => rw [if_neg hm.symm, Disk.get?, Disk.get?]
  case cons => exact Disk.get?_erase (by simp)

theorem givesUp_failure : (failure d).GivesUp d where
  fails := by
    rintro ⟨run, hr, he⟩
    cases hr
    cases he
  same _ := rfl

theorem succeeds_success : (success d).Succeeds :=
  ⟨_, rfl, rfl⟩

theorem get?_remove :
    (remove c home x d).get? l =
      if ∃ k ∈ ArtifactClass.owned, l = home.place c k x then none else d.get? l := by
  have hplace (d : Disk) (k : ArtifactClass) :
      (d.erase (home.place c k x)).get? l = if l = home.place c k x then none else d.get? l :=
    get?_erase_of_ne_nil (by simp [Homes.place])
  simp only [remove, ArtifactClass.owned, List.foldl, hplace, List.mem_cons, List.not_mem_nil, or_false,
    exists_eq_or_imp, exists_eq_left]
  grind

theorem removes_remove : home.Removes c x d (remove c home x d) := by
  constructor
  case file =>
    intro k hk
    rw [get?_remove, if_pos ⟨k, ArtifactClass.mem_owned_iff.mpr hk, rfl⟩]
  case rest =>
    intro l hl
    rw [get?_remove, if_neg]
    rintro ⟨k, hk, hp⟩
    exact hl k (ArtifactClass.mem_owned_iff.mp hk) hp

section Names

variable (hs : Site c cwd home d) (hn : ∀ k, (home k).all isEntryName = true)
  (hx : isIdentifier x.toList = true)

include hs hn hx

theorem get?_put_place (d' : Disk) (k : ArtifactClass) (e : Entry) (l : Location) :
    (d'.put (home.place c k x) e).get? l = if l = home.place c k x then some e else d'.get? l := by
  have hname := Inventory.isEntryName_fileName_of_isIdentifier hx (hs.isIdentifier_extension k)
  refine get?_put_of_ne_nil (by simp [Homes.place]) ?_
  simp only [Homes.place, List.all_append, hn k, Bool.true_and, List.all_cons, hname, List.all_nil]

-- No place of an artifact is a folder, so the order in which folders are made and files are written is no
-- matter.
theorem get?_write :
    (write c home x content d).get? l =
      if ∃ k ∈ ArtifactClass.owned, l = home.place c k x then some (.file content false)
      else if ∃ k ∈ ArtifactClass.owned, l = home k then some .directory
      else d.get? l := by
  have hhome (d : Disk) (k : ArtifactClass) (e : Entry) :
      (d.put (home k) e).get? l = if l = home k then some e else d.get? l :=
    get?_put_of_ne_nil (hs.home_ne_nil k) (hn k)
  have hplace (d : Disk) (k : ArtifactClass) (e : Entry) := get?_put_place hs hn hx d k e l
  have hne (k k' : ArtifactClass) : home.place c k x ≠ home k' := hs.ne_home k k' _
  simp only [write, ArtifactClass.owned, List.foldl, hplace, hhome, List.mem_cons, List.not_mem_nil, or_false,
    exists_eq_or_imp, exists_eq_left]
  grind

theorem writes_write (hroom : ∀ k ∈ ArtifactClass.owned, HasRoom c home d k x) :
    home.Writes c x d (write c home x content d) := by
  constructor
  case folder =>
    intro k hk
    have hk := ArtifactClass.mem_owned_iff.mpr hk
    constructor
    case directory =>
      rw [get?_write hs hn hx, if_neg, if_pos ⟨k, hk, rfl⟩]
      rintro ⟨k', -, hp⟩
      exact hs.ne_home k' k _ hp.symm
    case parent =>
      rw [get?_write hs hn hx, if_neg, if_neg, (hroom k hk).parent]
      all_goals rintro ⟨k', -, hp⟩
      · exact hs.not_prefix_parent k k' <| hp ▸ List.prefix_rfl
      · exact hs.not_prefix_parent k k' <| hp ▸ List.prefix_append ..
  case file =>
    intro k hk
    rw [get?_write hs hn hx, if_pos ⟨k, ArtifactClass.mem_owned_iff.mpr hk, rfl⟩]
    exact ⟨_, rfl, rfl⟩
  case fits => exact fun k hk => (hroom k <| ArtifactClass.mem_owned_iff.mpr hk).fits
  case rest =>
    intro l hl
    rw [get?_write hs hn hx, if_neg, if_neg]
    all_goals rintro ⟨k, hk, hp⟩
    · exact (hl k <| ArtifactClass.mem_owned_iff.mp hk).1 hp
    · exact (hl k <| ArtifactClass.mem_owned_iff.mp hk).2 hp

theorem edits_put {e : Entry} (hb : (d.get? (home.place c .protocol x)).isSome = true) (he : e.isFile = true) :
    home.Edits c x d (d.put (home.place c .protocol x) e) where
  before := Option.isSome_iff_ne_none.mp hb
  file := ⟨e, by rw [get?_put_place hs hn hx, if_pos rfl], he⟩
  rest l hl := by rw [get?_put_place hs hn hx, if_neg hl]

end Names

theorem generate_create {name fields : String} (hi : isIdentifier name.toList = true) (hr : name ≠ "remove") :
    generate c home d [name, fields] =
      if (d.get? (home.place c .protocol (lower name))).isNone ∧
          ∀ k ∈ ArtifactClass.owned, HasRoom c home d k (lower name) then
        success (write c home (lower name) (octets fields) d)
      else failure d := by
  have ha : name ≠ "add-rpc" := by
    rintro rfl
    revert hi
    decide
  unfold generate
  split <;> simp_all

end Reference

theorem Tool.reference_toolchain (hn : ∀ k, (home k).all isEntryName = true) :
    Toolchain (.reference c home) c cwd home where
  create d name fields hs ht hi hr := by
    have hg : Tool.reference c home ⟨c.codegen, [name, fields], c.root⟩ d = _ :=
      (if_pos rfl).trans <| Reference.generate_create hi hr
    rw [hg]
    split
    case isFalse => exact .inl Reference.givesUp_failure
    case isTrue h =>
      exact .inr ⟨by simpa using h.1, Reference.succeeds_success,
        Reference.writes_write hs hn (isIdentifier_lower hi) h.2⟩
  addRpc d service rest hs ht hi := by
    have hg : Tool.reference c home ⟨c.codegen, "add-rpc" :: service :: rest, c.root⟩ d = _ := if_pos rfl
    rw [hg]
    simp only [Reference.generate]
    split
    case isFalse  => exact .inl Reference.givesUp_failure
    case isTrue h => exact .inr <| Reference.edits_put hs hn (isIdentifier_lower hi) h rfl
  remove d name hs ht hi := by
    have hg : Tool.reference c home ⟨c.codegen, ["remove", name], c.root⟩ d = _ := if_pos rfl
    rw [hg]
    exact .inr ⟨Reference.succeeds_success, Reference.removes_remove⟩
  build d hs ht l hl := by
    have hput : (d.put (home .binding) .directory).get? l = d.get? l := by
      rw [Reference.get?_put_of_ne_nil (hs.home_ne_nil _) (hn _), if_neg]
      rintro rfl
      exact hl List.prefix_rfl
    simp only [Tool.reference]
    split
    case isFalse => exact hput
    case isTrue  => simp [Reference.generate, Reference.failure, Launch.disk]

end Reference
end Scaffold
