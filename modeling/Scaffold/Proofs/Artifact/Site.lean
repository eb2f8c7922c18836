import Scaffold.Proofs.Artifact.FileName

namespace Scaffold

open Text

-- The place of each folder.
abbrev Homes :=
  ArtifactClass → Location

variable {c : Config} {cwd root : Location} {home : Homes} {d d' d'' : Disk} {k k' : ArtifactClass}
variable {x y p q : String}

namespace Homes

-- The place of an artifact, in the folder of its class.
def place (home : Homes) (c : Config) (k : ArtifactClass) (stem : String) : Location :=
  home k ++ [Inventory.fileName stem (Inventory.extension c k)]

-- The folder is there, and lies in a directory itself.
structure HasFolder (home : Homes) (d : Disk) (k : ArtifactClass) : Prop where
  directory : d.get? (home k) = some .directory
  parent : d.get? (home k).dropLast = some .directory

-- The folders of artifacts hold files and nothing else, if they are there.
structure Tidy (home : Homes) (d : Disk) : Prop where
  folder : ∀ k, k ≠ .binding → d.get? (home k) = none ∨ home.HasFolder d k
  file : ∀ k, k ≠ .binding → ∀ n e, d.get? (home k ++ [n]) = some e →
    e.isFile = true ∧ d.get? (home k) = some .directory

-- What may have happened to a disk when tools have worked in the folders: anything, except that a folder of
-- artifacts does not go away.
structure Tended (home : Homes) (d d' : Disk) : Prop where
  outside : ∀ l, (∀ k, ¬home k <+: l) → d'.get? l = d.get? l
  folder : ∀ k, k ≠ .binding → d.get? (home k) = some .directory → d'.get? (home k) = some .directory

theorem Tended.trans (h : Tended home d d') (h' : Tended home d' d'') : Tended home d d'' where
  outside l hl := (h'.outside l hl).trans (h.outside l hl)
  folder k hk hd := h'.folder k hk <| h.folder k hk hd

end Homes

-- A project of the standard layout. The path of a folder leads to its home if there is a directory, and else
-- to no directory at all; what tools do in the folders has no influence on that. It could have, if the way to
-- the project went through one of the folders, as through `pb` in `pb/..`.
structure Site (c : Config) (cwd : Location) (home : Homes) (d : Disk) : Prop where
  standard : c.layout = .standard
  -- No folder lies in another. Two of them may be the same, but bindings are on their own.
  apart : ∀ k k', home k <+: home k' → home k = home k'
  bindings : ∀ k, home k = home .binding → k = .binding
  leads : ∀ d', home.Tended d d' → home.Tidy d' → ∀ k, k ≠ .binding → ∀ l,
    d'.find cwd (Inventory.directory c k) = .ok (l, .directory) ↔
      l = home k ∧ d'.get? (home k) = some .directory

-- Whether the name and the path of an artifact are no longer than the system allows.
structure Fits (c : Config) (k : ArtifactClass) (stem : String) : Prop where
  name : (Inventory.fileName stem (Inventory.extension c k)).utf8ByteSize ≤ Disk.maxName
  path : (Inventory.path c k stem).utf8ByteSize ≤ Disk.maxPath

namespace Site

theorem tended (hs : Site c cwd home d) (h : home.Tended d d') : Site c cwd home d' where
  standard := hs.standard
  apart := hs.apart
  bindings := hs.bindings
  leads d'' h' := hs.leads d'' <| h.trans h'

variable (hs : Site c cwd home d)

include hs

theorem isIdentifier_extension (k : ArtifactClass) : isIdentifier (Inventory.extension c k).toList = true := by
  cases k <;> simp only [Inventory.extension, hs.standard] <;> decide

theorem isExtension_extension (k : ArtifactClass) : IsExtension (Inventory.extension c k) :=
  isExtension_of_isIdentifier <| hs.isIdentifier_extension k

theorem directory_ne_empty (k : ArtifactClass) : Inventory.directory c k ≠ "" := by
  cases k <;> simp only [Inventory.directory, Config.protoDir, Config.servicesDir, Config.modelsDir,
    Config.bindingsDir, hs.standard] <;> exact Path.join_ne_empty (by decide)

theorem ne_home (k k' : ArtifactClass) (n : String) : home k ++ [n] ≠ home k' := by
  intro h
  have hp : home k = home k' := hs.apart k k' ⟨[n], h⟩
  simp [hp] at h

-- The root of the disk is no folder, for then all folders would be it.
theorem home_ne_nil (k : ArtifactClass) : home k ≠ [] := by
  intro h
  have hall k' : home k = home k' := hs.apart k k' <| h ▸ List.nil_prefix
  cases hs.bindings .protocol <| (hall .protocol).symm.trans (hall .binding)

-- What a folder lies in is in no folder itself, so tools do not touch it.
theorem not_prefix_parent (k k' : ArtifactClass) : ¬home k' <+: (home k).dropLast := by
  intro h
  have hp : home k' = home k := hs.apart k' k <| h.trans <| List.dropLast_prefix _
  have hle := h.length_le
  have hpos := List.length_pos_of_ne_nil <| hs.home_ne_nil k
  rw [hp, List.length_dropLast] at hle
  omega

theorem hasFolder_of_tended (ht : home.Tended d d') (hk : k ≠ .binding) (h : home.HasFolder d k) :
    home.HasFolder d' k where
  directory := ht.folder k hk h.directory
  parent := (ht.outside _ <| hs.not_prefix_parent k).trans h.parent

theorem not_binding_prefix (hk : k ≠ .binding) (n : String) : ¬home .binding <+: home k ++ [n] := by
  intro h
  obtain h | h := List.prefix_concat_iff.mp h
  · exact hs.ne_home k .binding n h.symm
  · exact hk <| hs.bindings k (hs.apart .binding k h).symm

theorem not_binding_prefix_home (hk : k ≠ .binding) : ¬home .binding <+: home k :=
  fun h => hk <| hs.bindings k (hs.apart .binding k h).symm

-- What lies in a folder of artifacts is at the place of no binding.
theorem ne_binding_of_eq_place {n : String} (hk : k ≠ .binding) (h : home k ++ [n] = home.place c k' x) :
    k' ≠ .binding := by
  rintro rfl
  exact hs.not_binding_prefix hk n <| h ▸ List.prefix_append ..

theorem place_inj (hx : isIdentifier x.toList = true) (hy : isIdentifier y.toList = true)
    (h : home.place c k x = home.place c k' y) : x = y := by
  have hn := (List.append_inj' h rfl).2
  rw [List.singleton_inj] at hn
  have he := hs.isExtension_extension
  have hx := ne_empty_of_isIdentifier hx
  have hy := ne_empty_of_isIdentifier hy
  exact ((Inventory.fileName_inj hx hy (he k) (he k')).mp hn).1

theorem isFile_path_iff (ht : home.Tidy d) (hk : k ≠ .binding) (hx : isIdentifier x.toList = true) :
    d.isFile cwd (Inventory.path c k x) = true ↔ Fits c k x ∧ d.get? (home.place c k x) ≠ none := by
  have hleads := hs.leads d ⟨fun _ _ => rfl, fun _ _ h => h⟩ ht k hk
  have hn := Inventory.isEntryName_fileName_of_isIdentifier hx (hs.isIdentifier_extension k)
  have hlink l (hl : d.find cwd (Inventory.directory c k) = .ok (l, .directory)) (t : String) :
      d.get? (l ++ [Inventory.fileName x (Inventory.extension c k)]) ≠ some (.link t) := by
    obtain ⟨rfl, -⟩ := (hleads l).mp hl
    intro he
    have hf := (ht.file k hk _ _ he).1
    contradiction
  rw [Inventory.path, Disk.isFile_join_iff (hs.directory_ne_empty k) hn hlink]
  constructor
  case mp =>
    rintro ⟨l, e, hl, hname, hpath, he, -⟩
    obtain ⟨rfl, -⟩ := (hleads l).mp hl
    exact ⟨⟨hname, hpath⟩, by simp [Homes.place, he]⟩
  case mpr =>
    rintro ⟨hfits, hne⟩
    obtain ⟨e, he⟩ := Option.ne_none_iff_exists'.mp hne
    obtain ⟨hf, hd⟩ := ht.file k hk _ _ he
    exact ⟨home k, e, (hleads _).mpr ⟨rfl, hd⟩, hfits.name, hfits.path, he, hf⟩

end Site

-- The folders of the standard layout, right below the root of a project.
def Homes.folder : ArtifactClass → String
  | .protocol => "proto"
  | .service => "services"
  | .model => "models"
  | .binding => "pb"

def Homes.below (root : Location) : Homes :=
  fun k => root ++ [folder k]

theorem Homes.below_inj (h : below root k <+: below root k') : k = k' := by
  have h := (List.prefix_append_right_inj root).mp h
  have h : folder k = folder k' := by simpa using h
  cases k <;> cases k' <;> first | rfl | (revert h; decide)

-- A project whose root stays where it is, if it is there, under a path that leaves room for the names of the
-- folders.
theorem Site.of_root (hc : c.layout = .standard) (hne : c.root ≠ "")
    (hroom : c.root.utf8ByteSize + 9 ≤ Disk.maxPath)
    (hroot : ∀ d', (Homes.below root).Tended d d' → (Homes.below root).Tidy d' → ∀ l,
      d'.find cwd c.root = .ok (l, .directory) ↔ l = root ∧ d'.get? root = some .directory) :
    Site c cwd (.below root) d where
  standard := hc
  apart k k' h := by rw [Homes.below_inj h]
  bindings k h := by
    have hp : Homes.below root k <+: Homes.below root .binding := ⟨[], by rw [List.append_nil, h]⟩
    exact Homes.below_inj hp
  leads d' ht htidy k hk l := by
    have hfind := hroot d' ht htidy
    have hdir : Inventory.directory c k = Path.join c.root (Homes.folder k) := by
      cases k <;> simp only [Inventory.directory, Config.protoDir, Config.servicesDir, Config.modelsDir,
        Config.bindingsDir, hc] <;> rfl
    have hn : isEntryName (Homes.folder k) = true := by cases k <;> decide
    have hsize : (Homes.folder k).utf8ByteSize ≤ 8 := by cases k <;> decide
    have hlink m (hm : d'.find cwd c.root = .ok (m, .directory)) t :
        d'.get? (m ++ [Homes.folder k]) ≠ some (.link t) := by
      obtain rfl : root = m := ((hfind m).mp hm).1.symm
      intro he
      have he : d'.get? (Homes.below root k) = some (.link t) := he
      obtain h | h := htidy.folder k hk
      · simp [he] at h
      · cases he.symm.trans h.directory
    have hname : (Homes.folder k).utf8ByteSize ≤ Disk.maxName := Nat.le_trans hsize (by decide)
    have hpath : (Path.join c.root (Homes.folder k)).utf8ByteSize ≤ Disk.maxPath := by
      have := Path.utf8ByteSize_join_le c.root (Homes.folder k)
      omega
    rw [hdir, Disk.find_join_eq_ok_iff hne hn hlink]
    constructor
    case mp =>
      rintro ⟨m, hm, -, -, rfl, he⟩
      obtain rfl : root = m := ((hfind m).mp hm).1.symm
      exact ⟨rfl, he⟩
    case mpr =>
      rintro ⟨rfl, he⟩
      have hparent : d'.get? root = some .directory := by
        obtain h | h := htidy.folder k hk
        · cases he.symm.trans h
        · simpa [Homes.below] using h.parent
      exact ⟨root, (hfind root).mpr ⟨rfl, hparent⟩, hname, hpath, rfl, he⟩

end Scaffold
