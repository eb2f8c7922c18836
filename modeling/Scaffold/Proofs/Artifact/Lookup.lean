import Scaffold.Proofs.Artifact.Listing
import Scaffold.Proofs.Text.Case

namespace Scaffold.Inventory

open Text

variable {c : Config} {cwd : Location} {d : Disk} {n x : String} {names : List String} {s : ArtifactSet}

-- A definition that is there under its path lies in the directory, if its stem has no slash.
theorem defined_iff_isFile (he : IsExtension c.layout.protoExtension) (hl : d.list cwd c.protoDir = .ok names)
    (hx : x ≠ "") (hslash : '/' ∉ x.toList) :
    Defined c cwd d names x ↔ d.isFile cwd (path c .protocol x) = true := by
  constructor
  case mp => exact fun h => h.file
  case mpr =>
    intro hf
    obtain ⟨l, hdir, rfl⟩ := Disk.list_eq_ok_iff.mp hl
    have hnul : '\x00' ∉ (fileName x c.layout.protoExtension).toList :=
      fun h => Disk.not_nul_of_isFile hf <| Path.mem_toList_join h
    exact ⟨hx, Disk.mem_children_of_isFile_join hdir (isEntryName_fileName hx he hslash hnul) hf, hf⟩

theorem find_agrees_with_list (he : IsExtension c.layout.protoExtension)
    (hl : d.list cwd c.protoDir = .ok names) (hn : isIdentifier n.toList = true)
    (hr : lower n ∉ c.layout.reserved) :
    let listed := (list c cwd d).services
    ((find c cwd d n).hasProtocol = true ↔ ∃ s ∈ listed, s.stem = lower n) ∧
      listed.countP (fun s => s.stem = lower n) ≤ 1 ∧
      ∀ s ∈ listed, s.stem = lower n → find c cwd d n = { s with name := n } := by
  intro listed
  refine ⟨?found, ?once, fun s hs hstem => ?same⟩
  case found =>
    have hi := isIdentifier_lower hn
    have hslash : '/' ∉ (lower n).toList := not_mem_of_isIdentifier hi (by decide)
    have hdefined := defined_iff_isFile he hl (ne_empty_of_isIdentifier hi) hslash
    have hfind : (find c cwd d n).hasProtocol = d.isFile cwd (path c .protocol (lower n)) := by
      rw [find, probe, stem]
    have hlisted := (mem_stems_list_iff_defined he hl (x := lower n)).trans (and_iff_left hr)
    rw [hfind, ←hdefined, ←hlisted, List.mem_map]
  case once =>
    have hcount := List.nodup_iff_count_le_one.mp (pairwise_stems_list c cwd d).nodup (lower n)
    rw [List.count, List.countP_map] at hcount
    exact hcount
  case same =>
    rw [eq_probe_of_mem_list hs, hstem, find, stem, probe, probe]

-- A file in the protocol directory of a project at the root of a disk.
theorem probe_mem_list_root {content : Octets} {executable : Bool} (hd : d.get? ["proto"] = some .directory)
    (hf : d.get? ["proto", fileName x "proto"] = some (.file content executable))
    (hx : isIdentifier x.toList = true) (hsize : x.utf8ByteSize ≤ 100) (hr : x ≠ "health") :
    probe (.ofRoot "/" "/") [] d x x ∈ (list (.ofRoot "/" "/") [] d).services := by
  have hdir : directory (.ofRoot "/" "/") .protocol = "/proto" := by decide +kernel
  have hi : isIdentifier "proto".toList = true := by decide
  have hext := isExtension_of_isIdentifier hi
  have hne := ne_empty_of_isIdentifier hx
  have hname : (fileName x "proto").utf8ByteSize = x.utf8ByteSize + 6 := by
    simp only [fileName, String.utf8ByteSize_append, Nat.add_assoc]
    rfl
  have hpath := Path.utf8ByteSize_join_le "/proto" (fileName x "proto")
  have hproto : "/proto".utf8ByteSize = 6 := rfl
  have hfile : d.isFile [] (Path.join "/proto" (fileName x "proto")) = true := by
    refine Disk.isFile_join_of_find (find_proto hd) (isEntryName_fileName_of_isIdentifier hx hi) ?_ hf (by simp)
    simp only [Disk.maxName, Disk.maxPath]
    omega
  refine probe_mem_list_iff.mpr ⟨?_, by simpa [Config.ofRoot, Layout.standard] using hr⟩
  rw [hdir, ←stem_fileName hne hext]
  exact .intro (find_proto hd) (Disk.mem_children_iff.mpr <| by simp [hf]) hfile (extension?_fileName hne hext)

-- The name is found in any letter case.
theorem find_agrees_with_list_user :
    let c := Config.ofRoot "/" "/"
    let d := Disk.empty.put ["proto"] .directory |>.put ["proto", "user.proto"] (.file [] false)
    IsExtension c.layout.protoExtension ∧ d.list [] c.protoDir = .ok ["user.proto"] ∧
      lower "USER" ∉ c.layout.reserved ∧ (find c [] d "USER").hasProtocol = true ∧
      ∃ s ∈ (list c [] d).services, find c [] d "USER" = { s with name := "USER" } := by
  intro c d
  have hc : c.protoDir = "/proto" := by decide +kernel
  have hdir : d.get? ["proto"] = some .directory := by decide +kernel
  have he : IsExtension c.layout.protoExtension := isExtension_of_isIdentifier (by decide)
  have hl : d.list [] c.protoDir = .ok ["user.proto"] := by
    rw [hc, Disk.list_eq_ok_iff]
    exact ⟨_, find_proto hdir, by decide +kernel⟩
  have hr : lower "USER" ∉ c.layout.reserved := by decide +kernel
  have hlower : "user" = lower "USER" := by decide +kernel
  have hfile : d.get? ["proto", fileName "user" "proto"] = some (.file [] false) := by decide +kernel
  have hmem : probe c [] d "user" "user" ∈ (list c [] d).services :=
    probe_mem_list_root hdir hfile (by decide) (by decide) (by decide)
  obtain ⟨hiff, -, hsame⟩ := find_agrees_with_list he hl (n := "USER") (by decide) hr
  exact ⟨he, hl, hr, hiff.mpr ⟨_, hmem, hlower⟩, _, hmem, hsame _ hmem hlower⟩

theorem find_name_eq_iff (hs : s ∈ (list c cwd d).services) :
    find c cwd d s.name = s ↔ ∀ a ∈ s.name.toList, a.isUpper = false := by
  have hprobe := eq_probe_of_mem_list hs
  have hname : s.name = s.stem := congrArg ArtifactSet.name hprobe
  rw [←lower_eq_self_iff]
  constructor
  case mp =>
    intro h
    exact (congrArg ArtifactSet.stem h).trans hname.symm
  case mpr =>
    intro h
    rw [find, stem, h, hname]
    exact hprobe.symm

-- A service is listed under the stem of whatever file there is, but looked up in lower case.
theorem listed_found_iff (c : Config) (cwd : Location) (d : Disk) :
    (∀ s ∈ (list c cwd d).services, find c cwd d s.name = s ↔ ∀ a ∈ s.name.toList, a.isUpper = false) ∧
      ((∀ s ∈ (list c cwd d).services, find c cwd d s.name = s) ↔
        ∀ x, HasStem cwd d (directory c .protocol) (extension c .protocol) x → x ∉ c.layout.reserved →
          ∀ a ∈ x.toList, a.isUpper = false) := by
  refine ⟨fun s hs => find_name_eq_iff hs, ?_⟩
  constructor
  case mp =>
    intro h x hx hr
    have hmem := probe_mem_list_iff.mpr ⟨hx, hr⟩
    exact (find_name_eq_iff hmem).mp <| h _ hmem
  case mpr =>
    intro h s hs
    have hprobe := eq_probe_of_mem_list hs
    rw [find_name_eq_iff hs, congrArg ArtifactSet.name hprobe]
    obtain ⟨hx, hr⟩ := probe_mem_list_iff.mp <| hprobe ▸ hs
    exact h _ hx hr

-- Of two services whose stems differ in letter case, one is found.
theorem listed_found_iff_widget :
    let c := Config.ofRoot "/" "/"
    let d := Disk.empty.put ["proto"] .directory |>.put ["proto", "widget.proto"] (.file [] false)
      |>.put ["proto", "Widget.proto"] (.file [] false)
    (∃ s ∈ (list c [] d).services, s.name = "widget" ∧ find c [] d s.name = s) ∧
      ∃ s ∈ (list c [] d).services, s.name = "Widget" ∧ find c [] d s.name ≠ s := by
  intro c d
  have hdir : d.get? ["proto"] = some .directory := by decide +kernel
  have hfile : d.get? ["proto", fileName "widget" "proto"] = some (.file [] false) := by decide +kernel
  have hfile' : d.get? ["proto", fileName "Widget" "proto"] = some (.file [] false) := by decide +kernel
  have hmem := probe_mem_list_root hdir hfile (by decide) (by decide) (by decide)
  have hmem' := probe_mem_list_root hdir hfile' (by decide) (by decide) (by decide)
  obtain ⟨hiff, -⟩ := listed_found_iff c [] d
  refine ⟨⟨_, hmem, rfl, (hiff _ hmem).mpr ?lower⟩, _, hmem', rfl, fun h => ?upper⟩
  case lower =>
    have hlower : lower "widget" = "widget" := by decide +kernel
    exact lower_eq_self_iff.mp hlower
  case upper =>
    have hlower : lower "Widget" = "Widget" := lower_eq_self_iff.mpr <| (hiff _ hmem').mp h
    revert hlower
    decide +kernel

theorem listed_not_found_widget :
    let c := Config.ofRoot "/" "/"
    let d := Disk.empty.put ["proto"] .directory |>.put ["proto", "Widget.proto"] (.file [] false)
    ∃ s ∈ (list c [] d).services, s.name = "Widget" ∧ find c [] d s.name ≠ s := by
  intro c d
  have hdir : d.get? ["proto"] = some .directory := by decide +kernel
  have hfile : d.get? ["proto", fileName "Widget" "proto"] = some (.file [] false) := by decide +kernel
  have hmem := probe_mem_list_root hdir hfile (by decide) (by decide) (by decide)
  refine ⟨_, hmem, rfl, fun h => ?_⟩
  have hstem : lower "Widget" = "Widget" := congrArg ArtifactSet.stem h
  revert hstem
  decide +kernel

end Scaffold.Inventory
