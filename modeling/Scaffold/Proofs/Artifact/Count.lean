import Mathlib.Data.Set.Card
import Scaffold.Proofs.Artifact.Listing
import Scaffold.Proofs.Text.Case

namespace Scaffold

open Text

variable {c : Config} {cwd : Location} {d : Disk} {k : ArtifactClass} {dir ext n x : String}

-- What a set says of a class. No service has bindings of its own.
def ArtifactSet.has (s : ArtifactSet) : ArtifactClass → Bool
  | .protocol => s.hasProtocol
  | .service => s.hasService
  | .model => s.hasModel
  | .binding => false

namespace Inventory

-- The stems under which there is a file of the class. A stem is a part of the name of a file and has no slash.
def probed (c : Config) (cwd : Location) (d : Disk) (k : ArtifactClass) : Set String :=
  {x | x ≠ "" ∧ '/' ∉ x.toList ∧ (probe c cwd d x x).has k = true}

theorem has_probe (hk : k ≠ .binding) : (probe c cwd d n x).has k = d.isFile cwd (path c k x) := by
  cases k
  case binding => contradiction
  all_goals rfl

theorem slash_not_mem_stem (h : n = fileName x ext) (hn : isEntryName n = true) : '/' ∉ x.toList := by
  obtain ⟨-, -, -, hslash, -⟩ := Disk.isEntryName_iff.mp hn
  rw [h, toList_fileName, List.mem_append, not_or] at hslash
  exact hslash.1

-- The empty path denotes no directory, and an extension in two parts is that of no name.
theorem hasStem_iff_isFile (hne : ext ≠ "") (hslash : '/' ∉ ext.toList) :
    HasStem cwd d dir ext x ↔ (dir ≠ "" ∧ '.' ∉ ext.toList) ∧
      x ≠ "" ∧ '/' ∉ x.toList ∧ d.isFile cwd (Path.join dir (fileName x ext)) = true := by
  constructor
  case mp =>
    rintro @⟨l, n, hl, hn, hf, hext⟩
    obtain ⟨hname, hstem⟩ := Path.eq_fileName_of_extension? hext
    obtain ⟨e, he⟩ := Option.isSome_iff_exists.mp <| Disk.mem_children_iff.mp hn
    have hentry : isEntryName n = true := by
      have hall := Disk.all_isEntryName_of_get? he
      rw [List.all_append, Bool.and_eq_true] at hall
      simpa using hall.2
    refine ⟨⟨(Disk.find_directory_eq_ok_iff.mp hl).1, Path.not_dot_mem_of_extension? hext⟩, hstem,
      slash_not_mem_stem hname hentry, ?_⟩
    rwa [←hname]
  case mpr =>
    rintro ⟨⟨hdir, hdot⟩, hx, hs, hf⟩
    have he : IsExtension ext := ⟨hne, hdot, hslash⟩
    have hnul : '\x00' ∉ (fileName x ext).toList :=
      fun h => Disk.not_nul_of_isFile hf <| Path.mem_toList_join h
    obtain ⟨l, hl, hmem⟩ := Disk.find_directory_of_isFile_join hdir (isEntryName_fileName hx he hs hnul) hf
    rw [←stem_fileName hx he]
    exact .intro hl hmem hf <| extension?_fileName hx he

-- Every file that is counted has a stem of its own.
theorem encard_hasStem (c : Config) (cwd : Location) (d : Disk) (k : ArtifactClass) :
    {x | HasStem cwd d (directory c k) (extension c k) x}.encard = count c cwd d k := by
  cases h : stems? cwd d (directory c k) (extension c k)
  case none =>
    have hempty : {x | HasStem cwd d (directory c k) (extension c k) x} = ∅ := by
      rw [Set.eq_empty_iff_forall_notMem]
      rintro _ ⟨hl, -, -, -⟩
      cases h.symm.trans <| stems?_eq_some_iff.mpr ⟨_, hl, rfl⟩
    rw [hempty, Set.encard_empty, count, h]
    rfl
  case some xs =>
    have hset : {x | HasStem cwd d (directory c k) (extension c k) x} = xs.toFinset := by
      ext x
      simp [mem_stems?_iff h]
    rw [hset, Set.encard_coe_eq_coe_finsetCard, List.toFinset_card_of_nodup (nodup_stems? h), count, h]
    rfl

section Extension

variable (hne : extension c k ≠ "") (hslash : '/' ∉ (extension c k).toList)

include hne hslash

theorem count_eq_encard_probed (hk : k ≠ .binding) (hdir : directory c k ≠ "")
    (hdot : '.' ∉ (extension c k).toList) : (count c cwd d k : ℕ∞) = (probed c cwd d k).encard := by
  rw [←encard_hasStem]
  congr 1
  ext x
  simp [probed, has_probe hk, hasStem_iff_isFile hne hslash, hdir, hdot, path]

theorem count_eq_zero (h : ¬(directory c k ≠ "" ∧ '.' ∉ (extension c k).toList)) : count c cwd d k = 0 := by
  have hempty : {x | HasStem cwd d (directory c k) (extension c k) x} = ∅ := by
    rw [Set.eq_empty_iff_forall_notMem]
    exact fun x hx => h ((hasStem_iff_isFile hne hslash).mp hx).1
  have hcount := encard_hasStem c cwd d k
  rw [hempty, Set.encard_empty] at hcount
  exact_mod_cast hcount.symm

end Extension

-- A service that is looked up is found under its name in lower case.
theorem lower_mem_probed (hk : k ≠ .binding) (hn : isIdentifier n.toList = true)
    (h : (find c cwd d n).has k = true) : lower n ∈ probed c cwd d k := by
  have hi := isIdentifier_lower hn
  refine ⟨ne_empty_of_isIdentifier hi, not_mem_of_isIdentifier hi (by decide), ?_⟩
  rwa [has_probe hk, ←has_probe (n := n) hk]

theorem count_eq_encard_probed_iff (hk : k ≠ .binding) (hne : extension c k ≠ "")
    (hslash : '/' ∉ (extension c k).toList) (cwd : Location) (d : Disk) :
    ((count c cwd d k : ℕ∞) = (probed c cwd d k).encard ↔
      (directory c k ≠ "" ∧ '.' ∉ (extension c k).toList) ∨ probed c cwd d k = ∅) ∧
    (directory c k ≠ "" → '.' ∉ (extension c k).toList → ∀ n, isIdentifier n.toList = true →
      (find c cwd d n).has k = true → 1 ≤ count c cwd d k) := by
  constructor
  case left =>
    by_cases h : directory c k ≠ "" ∧ '.' ∉ (extension c k).toList
    case pos => exact iff_of_true (count_eq_encard_probed hne hslash hk h.1 h.2) (.inl h)
    case neg => rw [count_eq_zero hne hslash h, Nat.cast_zero, eq_comm, Set.encard_eq_zero, or_iff_right h]
  case right =>
    intro hdir hdot n hn hf
    have hcount : (count c cwd d k : ℕ∞) = (probed c cwd d k).encard :=
      count_eq_encard_probed hne hslash hk hdir hdot
    have hpos := Set.one_le_encard_iff_nonempty.mpr ⟨_, lower_mem_probed hk hn hf⟩
    rw [←hcount] at hpos
    exact_mod_cast hpos

theorem count_eq_encard_probed_iff_user :
    let c := Config.ofRoot "/" "/"
    let d := Disk.empty.put ["services"] .directory |>.put ["services", "user.go"] (.file [] false)
    extension c .service ≠ "" ∧ '/' ∉ (extension c .service).toList ∧ directory c .service ≠ "" ∧
      '.' ∉ (extension c .service).toList ∧ (find c [] d "USER").has .service = true ∧
      (count c [] d .service : ℕ∞) = (probed c [] d .service).encard ∧ 1 ≤ count c [] d .service := by
  intro c d
  have hdir : d.get? ["services"] = some .directory := by decide +kernel
  have hfile : d.get? ["services", "user.go"] = some (.file [] false) := by decide +kernel
  have hpath : path c .service (lower "USER") = Path.join (Path.join "/" "services") "user.go" := by decide +kernel
  have hhas : (find c [] d "USER").has .service = true := by
    rw [find, stem, has_probe (by decide), hpath]
    exact Disk.isFile_of_folder (by decide) (by decide) (by decide) hdir hfile (by simp)
  have hext : extension c .service = "go" := rfl
  have hne : extension c .service ≠ "" := by decide
  have hslash : '/' ∉ (extension c .service).toList := by decide
  have hdot : '.' ∉ (extension c .service).toList := by decide
  have hfolder : directory c .service ≠ "" := by decide +kernel
  obtain ⟨hiff, hpos⟩ := count_eq_encard_probed_iff (by decide) hne hslash [] d
  exact ⟨hne, hslash, hfolder, hdot, hhas, hiff.mpr <| .inl ⟨hfolder, hdot⟩, hpos hfolder hdot "USER" (by decide) hhas⟩

-- A stub whose extension has two parts is found and not counted: only what follows the last dot is compared.
theorem bundle_found_not_counted :
    let c := { Config.ofRoot "/" "/" with layout := { Layout.standard with sourceExtension := "pb.go" } }
    let d := Disk.empty.put ["services"] .directory |>.put ["services", "user.pb.go"] (.file [] false)
    (find c [] d "User").hasService = true ∧ count c [] d .service = 0 ∧
      (count c [] d .service : ℕ∞) ≠ (probed c [] d .service).encard := by
  intro c d
  have hdir : d.get? ["services"] = some .directory := by decide +kernel
  have hfile : d.get? ["services", "user.pb.go"] = some (.file [] false) := by decide +kernel
  have hpath : path c .service (lower "User") = Path.join (Path.join "/" "services") "user.pb.go" := by
    decide +kernel
  have hhas : (find c [] d "User").has .service = true := by
    rw [find, stem, has_probe (by decide), hpath]
    exact Disk.isFile_of_folder (by decide) (by decide) (by decide) hdir hfile (by simp)
  have hcount : count c [] d .service = 0 := count_eq_zero (by decide) (by decide) (by decide)
  have hmem := lower_mem_probed (by decide) (by decide) hhas
  refine ⟨hhas, hcount, ?_⟩
  rw [hcount]
  intro h
  rw [Nat.cast_zero, eq_comm, Set.encard_eq_zero] at h
  exact absurd (h ▸ hmem) (Set.notMem_empty _)

end Inventory
end Scaffold
