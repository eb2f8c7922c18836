import Scaffold.Proofs.Artifact.Listing
import Scaffold.Proofs.Artifact.Site
import Scaffold.Proofs.Text.Case

namespace Scaffold

open Text

variable {c : Config} {cwd : Location} {home : Homes} {d d' : Disk} {k k' : ArtifactClass}
variable {x y n : String} {live : String → Prop}

namespace Homes

-- Writes the artifacts of a service, of any content, and makes the folders that they need.
structure Writes (home : Homes) (c : Config) (x : String) (d d' : Disk) : Prop where
  folder : ∀ k, k ≠ .binding → home.HasFolder d' k
  file : ∀ k, k ≠ .binding → ∃ e, d'.get? (home.place c k x) = some e ∧ e.isFile = true
  fits : ∀ k, k ≠ .binding → Fits c k x
  rest : ∀ l, (∀ k, k ≠ .binding → l ≠ home k ∧ l ≠ home.place c k x) → d'.get? l = d.get? l

-- Removes the artifacts of a service, as far as they are there.
structure Removes (home : Homes) (c : Config) (x : String) (d d' : Disk) : Prop where
  file : ∀ k, k ≠ .binding → d'.get? (home.place c k x) = none
  rest : ∀ l, (∀ k, k ≠ .binding → l ≠ home.place c k x) → d'.get? l = d.get? l

-- Changes what the protocol definition of a service holds.
structure Edits (home : Homes) (c : Config) (x : String) (d d' : Disk) : Prop where
  before : d.get? (home.place c .protocol x) ≠ none
  file : ∃ e, d'.get? (home.place c .protocol x) = some e ∧ e.isFile = true
  rest : ∀ l, l ≠ home.place c .protocol x → d'.get? l = d.get? l

-- Works in the folder of bindings only.
def Builds (home : Homes) (d d' : Disk) : Prop :=
  ∀ l, ¬home .binding <+: l → d'.get? l = d.get? l

end Homes

-- An identifier in lower case, as services have it for a stem.
structure IsStem (x : String) : Prop where
  isIdentifier : isIdentifier x.toList = true
  lower : lower x = x

theorem isStem_lower (h : isIdentifier n.toList = true) : IsStem (lower n) where
  isIdentifier := isIdentifier_lower h
  lower := lower_lower n

structure Mirrors (c : Config) (cwd : Location) (home : Homes) (live : String → Prop) (d : Disk) : Prop where
  site : Site c cwd home d
  tidy : home.Tidy d
  named : ∀ x, live x → IsStem x
  fits : ∀ x, live x → ∀ k, k ≠ .binding → Fits c k x
  occupied : ∀ k, k ≠ .binding → ∀ n,
    d.get? (home k ++ [n]) ≠ none ↔ ∃ k' x, live x ∧ home k ++ [n] = home.place c k' x

namespace Mirrors

variable (h : Mirrors c cwd home live d)

include h

theorem of_iff {live' : String → Prop} (hl : ∀ x, live x ↔ live' x) : Mirrors c cwd home live' d :=
  (funext fun x => propext (hl x) : live = live') ▸ h

-- A disk on which all places in the folders hold what they held before, files in place of files.
theorem of_same_kinds (hout : ∀ l, (∀ k, ¬home k <+: l) → d'.get? l = d.get? l)
    (hfolder : ∀ k, k ≠ .binding → d'.get? (home k) = d.get? (home k))
    (hkind : ∀ k, k ≠ .binding → ∀ n,
      (d'.get? (home k ++ [n])).map Entry.isFile = (d.get? (home k ++ [n])).map Entry.isFile) :
    Mirrors c cwd home live d' := by
  have ht : home.Tended d d' := ⟨hout, fun k hk hd => (hfolder k hk).trans hd⟩
  constructor
  case site  => exact h.site.tended ht
  case named => exact h.named
  case fits  => exact h.fits
  case tidy =>
    constructor
    case folder =>
      exact fun k hk => (h.tidy.folder k hk).imp (hfolder k hk).trans (h.site.hasFolder_of_tended ht hk)
    case file =>
      intro k hk n e he
      have hm := hkind k hk n
      rw [he] at hm
      obtain ⟨e', he', hf⟩ := Option.map_eq_some_iff.mp hm.symm
      have hfile := h.tidy.file k hk n e' he'
      exact ⟨hf ▸ hfile.1, hfolder k hk ▸ hfile.2⟩
  case occupied =>
    intro k hk n
    rw [←h.occupied k hk n]
    have hm := congrArg Option.isNone (hkind k hk n)
    simp only [Option.isNone_map] at hm
    rw [ne_eq, ne_eq, ←Option.isNone_iff_eq_none, ←Option.isNone_iff_eq_none, hm]

theorem of_same (hsame : ∀ l, d'.get? l = d.get? l) : Mirrors c cwd home live d' :=
  h.of_same_kinds (fun l _ => hsame l) (fun k _ => hsame _) (fun k _ n => by rw [hsame])

theorem builds (hb : home.Builds d d') : Mirrors c cwd home live d' :=
  h.of_same_kinds (fun l hl => hb l <| hl .binding) (fun _ hk => hb _ <| h.site.not_binding_prefix_home hk)
    (fun _ hk n => by rw [hb _ <| h.site.not_binding_prefix hk n])

theorem edits (he : home.Edits c x d d') : Mirrors c cwd home live d' := by
  have hb : ArtifactClass.protocol ≠ .binding := by decide
  refine h.of_same_kinds (fun l hl => he.rest l ?_) (fun k _ => he.rest _ ?_) fun k _ n => ?_
  case refine_1 =>
    rintro rfl
    exact hl .protocol <| List.prefix_append ..
  case refine_2 => exact (h.site.ne_home .protocol k _).symm
  case refine_3 =>
    by_cases hl : home k ++ [n] = home.place c .protocol x
    case neg => rw [he.rest _ hl]
    case pos =>
      obtain ⟨e, he₁, hf₁⟩ := he.file
      obtain ⟨e', he₂⟩ := Option.ne_none_iff_exists'.mp he.before
      have hf₂ := (h.tidy.file _ hb _ _ he₂).1
      rw [hl, he₁, he₂, Option.map_some, Option.map_some, hf₁, hf₂]

-- A place in the folders is one of those that are written, or holds what it held before.
theorem writes (hx : IsStem x) (hw : home.Writes c x d d') :
    Mirrors c cwd home (fun y => y = x ∨ live y) d' := by
  have hrest {k n} (hn : ¬∃ k', k' ≠ .binding ∧ home k ++ [n] = home.place c k' x) :
      d'.get? (home k ++ [n]) = d.get? (home k ++ [n]) :=
    hw.rest _ fun k' hk' => ⟨h.site.ne_home k k' n, fun hp => hn ⟨k', hk', hp⟩⟩
  constructor
  case site =>
    refine h.site.tended ⟨fun l hl => hw.rest l fun k _ => ⟨?_, ?_⟩, fun k hk _ => (hw.folder k hk).directory⟩
    all_goals rintro rfl
    · exact hl k List.prefix_rfl
    · exact hl k <| List.prefix_append ..
  case tidy =>
    refine ⟨fun k hk => .inr <| hw.folder k hk, fun k hk n e he => ⟨?_, (hw.folder k hk).directory⟩⟩
    by_cases hn : ∃ k', k' ≠ .binding ∧ home k ++ [n] = home.place c k' x
    case neg => exact (h.tidy.file k hk n e <| hrest hn ▸ he).1
    case pos =>
      obtain ⟨k', hk', hp⟩ := hn
      obtain ⟨e', he', hf⟩ := hw.file k' hk'
      rw [hp, he'] at he
      exact Option.some.inj he ▸ hf
  case named =>
    rintro y (rfl | hy)
    · exact hx
    · exact h.named y hy
  case fits =>
    rintro y (rfl | hy)
    · exact hw.fits
    · exact h.fits y hy
  case occupied =>
    intro k hk n
    by_cases hn : ∃ k', k' ≠ .binding ∧ home k ++ [n] = home.place c k' x
    case pos =>
      obtain ⟨k', hk', hp⟩ := hn
      obtain ⟨e, he, -⟩ := hw.file k' hk'
      exact iff_of_true (by simp [hp, he]) ⟨k', x, .inl rfl, hp⟩
    case neg =>
      rw [hrest hn, h.occupied k hk]
      constructor
      · rintro ⟨k', y, hy, hp⟩
        exact ⟨k', y, .inr hy, hp⟩
      · rintro ⟨k', y, rfl | hy, hp⟩
        · exact absurd ⟨k', h.site.ne_binding_of_eq_place hk hp, hp⟩ hn
        · exact ⟨k', y, hy, hp⟩

theorem removes (hx : IsStem x) (hr : home.Removes c x d d') :
    Mirrors c cwd home (fun y => y ≠ x ∧ live y) d' := by
  have hfolder k : d'.get? (home k) = d.get? (home k) :=
    hr.rest _ fun k' _ => (h.site.ne_home k' k _).symm
  have hgone {k n} (hk : k ≠ .binding) (hn : d'.get? (home k ++ [n]) ≠ none) :
      (∀ k', home k ++ [n] ≠ home.place c k' x) ∧ d'.get? (home k ++ [n]) = d.get? (home k ++ [n]) := by
    have hp k' (hp : home k ++ [n] = home.place c k' x) : False :=
      hn <| hp ▸ hr.file k' (h.site.ne_binding_of_eq_place hk hp)
    exact ⟨hp, hr.rest _ fun k' _ => hp k'⟩
  have ht : home.Tended d d' := by
    refine ⟨fun l hl => hr.rest l fun k _ => ?_, fun k _ hd => (hfolder k).trans hd⟩
    rintro rfl
    exact hl k <| List.prefix_append ..
  constructor
  case site => exact h.site.tended ht
  case tidy =>
    constructor
    case folder =>
      exact fun k hk => (h.tidy.folder k hk).imp (hfolder k).trans (h.site.hasFolder_of_tended ht hk)
    case file =>
      intro k hk n e he
      have hd := (hgone hk (he ▸ Option.some_ne_none e)).2
      exact hfolder k ▸ h.tidy.file k hk n e (hd ▸ he)
  case named => exact fun y hy => h.named y hy.2
  case fits  => exact fun y hy => h.fits y hy.2
  case occupied =>
    intro k hk n
    constructor
    case mp =>
      intro hn
      obtain ⟨hx', hd⟩ := hgone hk hn
      obtain ⟨k', y, hy, hp⟩ := (h.occupied k hk n).mp (hd ▸ hn)
      exact ⟨k', y, ⟨fun he => hx' k' (he ▸ hp), hy⟩, hp⟩
    case mpr =>
      rintro ⟨k', y, ⟨hne, hy⟩, hp⟩
      rw [hr.rest]
      · exact (h.occupied k hk n).mpr ⟨k', y, hy, hp⟩
      · exact fun k'' _ hq =>
          hne <| h.site.place_inj (h.named y hy).isIdentifier hx.isIdentifier (hp.symm.trans hq)

theorem get?_place_ne_none_iff (hk : k ≠ .binding) (hx : isIdentifier x.toList = true) :
    d.get? (home.place c k x) ≠ none ↔ live x := by
  rw [Homes.place, h.occupied k hk]
  constructor
  case mpr => exact fun hl => ⟨k, x, hl, rfl⟩
  case mp =>
    rintro ⟨k', y, hy, hp⟩
    exact h.site.place_inj hx (h.named y hy).isIdentifier hp ▸ hy

theorem isFile_path_iff (hk : k ≠ .binding) (hx : isIdentifier x.toList = true) :
    d.isFile cwd (Inventory.path c k x) = true ↔ live x := by
  rw [h.site.isFile_path_iff h.tidy hk hx, h.get?_place_ne_none_iff hk hx]
  exact ⟨fun hl => hl.2, fun hl => ⟨h.fits x hl k hk, hl⟩⟩

theorem find_isComplete_iff (hn : isIdentifier n.toList = true) :
    (Inventory.find c cwd d n).isComplete = true ↔ live (lower n) := by
  have hf k (hk : k ≠ ArtifactClass.binding) := h.isFile_path_iff hk (isIdentifier_lower hn)
  simp only [ArtifactSet.isComplete, Inventory.find, Inventory.probe, Inventory.stem, Bool.and_eq_true,
    hf .protocol (by decide), hf .service (by decide), hf .model (by decide), and_self]

theorem find_isAbsent_iff (hn : isIdentifier n.toList = true) :
    (Inventory.find c cwd d n).isAbsent = true ↔ ¬live (lower n) := by
  have hf k (hk : k ≠ ArtifactClass.binding) := h.isFile_path_iff hk (isIdentifier_lower hn)
  simp only [ArtifactSet.isAbsent, Inventory.find, Inventory.probe, Inventory.stem, Bool.not_eq_true',
    Bool.eq_false_iff, ne_eq, Bool.or_eq_true, hf .protocol (by decide), hf .service (by decide),
    hf .model (by decide), or_self]

theorem hasStem_iff :
    Inventory.HasStem cwd d (Inventory.directory c .protocol) (Inventory.extension c .protocol) x ↔
      live x := by
  have hb : ArtifactClass.protocol ≠ .binding := by decide
  have hleads := h.site.leads d ⟨fun _ _ => rfl, fun _ _ hd => hd⟩ h.tidy _ hb
  constructor
  case mp =>
    rintro ⟨hl, hn, -, he⟩
    obtain ⟨rfl, -⟩ := (hleads _).mp hl
    rw [Disk.mem_children_iff, Option.isSome_iff_ne_none] at hn
    obtain ⟨k', x, hx, hp⟩ := (h.occupied _ hb _).mp hn
    have hn := List.singleton_inj.mp (List.append_inj' hp rfl).2
    have hne := ne_empty_of_isIdentifier (h.named x hx).isIdentifier
    rwa [hn, Inventory.stem_fileName hne (h.site.isExtension_extension k')]
  case mpr =>
    intro hl
    have hx := (h.named x hl).isIdentifier
    have hne := ne_empty_of_isIdentifier hx
    have he := h.site.isExtension_extension .protocol
    have hplace := (h.get?_place_ne_none_iff hb hx).mpr hl
    obtain ⟨e, hget⟩ := Option.ne_none_iff_exists'.mp hplace
    have hdir := (hleads _).mpr ⟨rfl, (h.tidy.file _ hb _ e hget).2⟩
    rw [←Inventory.stem_fileName hne he]
    refine .intro hdir ?_ ((h.isFile_path_iff hb hx).mpr hl) (Inventory.extension?_fileName hne he)
    exact Disk.mem_children_iff.mpr <| Option.isSome_iff_ne_none.mpr hplace

-- The listing shows the services in the order of their stems, whatever their names are but one.
theorem list_services :
    ((Inventory.list c cwd d).services.map ArtifactSet.stem).Pairwise (· < ·) ∧
      (∀ x, x ∈ (Inventory.list c cwd d).services.map ArtifactSet.stem ↔ live x ∧ x ≠ "health") ∧
      ∀ s ∈ (Inventory.list c cwd d).services, s = Inventory.find c cwd d s.stem ∧ s.isComplete = true := by
  have hreserved : c.layout.reserved = ["health"] := by rw [h.site.standard]; rfl
  have hlive x : x ∈ (Inventory.list c cwd d).services.map ArtifactSet.stem ↔ live x ∧ x ≠ "health" := by
    rw [Inventory.mem_stems_list_iff, h.hasStem_iff, hreserved, List.mem_singleton]
  refine ⟨Inventory.pairwise_stems_list c cwd d, hlive, fun s hs => ?_⟩
  have hl := ((hlive s.stem).mp <| List.mem_map_of_mem hs).1
  have hx := h.named _ hl
  have hfind : s = Inventory.find c cwd d s.stem := by
    rw [Inventory.find, Inventory.stem, hx.lower]
    exact Inventory.eq_probe_of_mem_list hs
  have hcomplete := (h.find_isComplete_iff hx.isIdentifier).mpr (hx.lower.symm ▸ hl)
  exact ⟨hfind, hfind.symm ▸ hcomplete⟩

end Mirrors
end Scaffold
