import Mathlib.Data.List.Sort
import Scaffold.Proofs.Artifact.FileName
import Scaffold.Proofs.Text.Octets

namespace Scaffold.Inventory

open Text

variable {c : Config} {cwd : Location} {d d' : Disk} {dir ext n x : String} {xs names : List String}
variable {s : ArtifactSet}

-- A file with the extension lies in the directory, and `x` is its stem.
inductive HasStem (cwd : Location) (d : Disk) (dir ext : String) : String → Prop
  | intro {l : Location} {n : String} :
      d.find cwd dir = .ok (l, .directory) →
      n ∈ d.children l →
      d.isFile cwd (Path.join dir n) = true →
      Path.extension? n = some ext →
      HasStem cwd d dir ext (Path.stem n)

theorem stems?_eq_some_iff :
    stems? cwd d dir ext = some xs ↔ ∃ l, d.find cwd dir = .ok (l, .directory) ∧
      xs = ((d.children l).filter fun n =>
        d.isFile cwd (Path.join dir n) && Path.extension? n == some ext).map Path.stem := by
  have hs : stems? cwd d dir ext = some xs ↔ ∃ ns, d.list cwd dir = .ok ns ∧
      xs = (ns.filter fun n =>
        d.isFile cwd (Path.join dir n) && Path.extension? n == some ext).map Path.stem := by
    rw [stems?]
    cases d.list cwd dir <;> simp [eq_comm]
  rw [hs]
  simp only [Disk.list_eq_ok_iff]
  constructor
  · rintro ⟨_, ⟨l, hl, rfl⟩, hxs⟩
    exact ⟨l, hl, hxs⟩
  · rintro ⟨l, hl, hxs⟩
    exact ⟨_, ⟨l, hl, rfl⟩, hxs⟩

theorem mem_stems?_iff (h : stems? cwd d dir ext = some xs) : x ∈ xs ↔ HasStem cwd d dir ext x := by
  obtain ⟨l, hl, rfl⟩ := stems?_eq_some_iff.mp h
  simp only [List.mem_map, List.mem_filter, Bool.and_eq_true, beq_iff_eq]
  constructor
  case mp =>
    rintro ⟨n, ⟨hn, hf, he⟩, rfl⟩
    exact .intro hl hn hf he
  case mpr =>
    rintro ⟨hl', hn, hf, he⟩
    cases hl.symm.trans hl'
    exact ⟨_, ⟨hn, hf, he⟩, rfl⟩

-- Names with one extension differ in their stems.
theorem nodup_stems? (h : stems? cwd d dir ext = some xs) : xs.Nodup := by
  obtain ⟨l, -, rfl⟩ := stems?_eq_some_iff.mp h
  refine List.Nodup.map_on ?_ <| (d.nodup_children l).filter _
  intro m hm n hn hs
  have hext {n} (hn : n ∈ (d.children l).filter fun n =>
      d.isFile cwd (Path.join dir n) && Path.extension? n == some ext) : n = fileName (Path.stem n) ext :=
    (Path.eq_fileName_of_extension? <| beq_iff_eq.mp (Bool.and_eq_true_iff.mp (List.mem_filter.mp hn).2).2).1
  exact (hext hm).trans <| (congrArg (fileName · ext) hs).trans (hext hn).symm

theorem pairwise_lt_mergeSort (h : xs.Nodup) :
    (xs.mergeSort fun a b => !decide (b < a)).Pairwise (· < ·) := by
  have hle : (xs.mergeSort fun a b => !decide (b < a)).Pairwise fun a b => (!decide (b < a)) = true := by
    refine List.pairwise_mergeSort ?trans ?total xs
    all_goals simp only [Bool.or_eq_true, Bool.not_eq_true', decide_eq_false_iff_not, String.not_lt]
    case trans => exact fun a b c => String.le_trans
    case total => exact String.le_total
  have hne : (xs.mergeSort fun a b => !decide (b < a)).Nodup := (xs.mergeSort_perm _).nodup_iff.mpr h
  refine (hle.and hne).imp fun ⟨hab, hn⟩ => ?_
  simp only [Bool.not_eq_true', decide_eq_false_iff_not, String.not_lt] at hab
  exact String.not_le.mp fun hba => hn <| String.le_antisymm hab hba

theorem list_of_stems?_eq_none (h : stems? cwd d (directory c .protocol) (extension c .protocol) = none) :
    list c cwd d = ⟨[], false⟩ := by
  unfold list
  rw [h]

theorem list_of_stems?_eq_some (h : stems? cwd d (directory c .protocol) (extension c .protocol) = some xs) :
    list c cwd d =
      ⟨((xs.filter fun x => !c.layout.reserved.contains x).mergeSort fun a b => !decide (b < a)).map
        fun x => probe c cwd d x x, true⟩ := by
  unfold list
  rw [h]

-- The stems that are listed.
theorem exists_list_eq (c : Config) (cwd : Location) (d : Disk) :
    ∃ xs : List String, (list c cwd d).services = xs.map (fun x => probe c cwd d x x) ∧ xs.Pairwise (· < ·) ∧
      ∀ x, x ∈ xs ↔
        HasStem cwd d (directory c .protocol) (extension c .protocol) x ∧ x ∉ c.layout.reserved := by
  cases h : stems? cwd d (directory c .protocol) (extension c .protocol)
  case none =>
    have hn x : ¬HasStem cwd d (directory c .protocol) (extension c .protocol) x := by
      rintro ⟨hl, -, -, -⟩
      cases h.symm.trans <| stems?_eq_some_iff.mpr ⟨_, hl, rfl⟩
    exact ⟨[], by rw [list_of_stems?_eq_none h, List.map_nil], .nil, by simp [hn]⟩
  case some xs =>
    refine ⟨_, by rw [list_of_stems?_eq_some h], pairwise_lt_mergeSort <| (nodup_stems? h).filter _, fun x => ?_⟩
    simp [mem_stems?_iff h]

theorem probe_mem_list_iff :
    probe c cwd d x x ∈ (list c cwd d).services ↔
      HasStem cwd d (directory c .protocol) (extension c .protocol) x ∧ x ∉ c.layout.reserved := by
  obtain ⟨xs, hxs, -, hmem⟩ := exists_list_eq c cwd d
  rw [hxs, List.mem_map, ←hmem]
  constructor
  · rintro ⟨y, hy, he⟩
    obtain rfl : y = x := congrArg ArtifactSet.stem he
    exact hy
  · exact fun hx => ⟨x, hx, rfl⟩

theorem eq_probe_of_mem_list (hs : s ∈ (list c cwd d).services) : s = probe c cwd d s.stem s.stem := by
  obtain ⟨xs, hxs, -, -⟩ := exists_list_eq c cwd d
  obtain ⟨x, -, rfl⟩ := List.mem_map.mp <| hxs ▸ hs
  rfl

theorem mem_stems_list_iff :
    x ∈ (list c cwd d).services.map ArtifactSet.stem ↔
      HasStem cwd d (directory c .protocol) (extension c .protocol) x ∧ x ∉ c.layout.reserved := by
  rw [←probe_mem_list_iff, List.mem_map]
  constructor
  · rintro ⟨s, hs, rfl⟩
    exact eq_probe_of_mem_list hs ▸ hs
  · exact fun hx => ⟨_, hx, rfl⟩

theorem pairwise_stems_list (c : Config) (cwd : Location) (d : Disk) :
    ((list c cwd d).services.map ArtifactSet.stem).Pairwise (· < ·) := by
  obtain ⟨xs, hxs, hlt, -⟩ := exists_list_eq c cwd d
  rw [hxs, List.map_map]
  exact (List.map_id' xs).symm ▸ hlt

theorem present_list_iff :
    (list c cwd d).present = true ↔ ∃ l, d.find cwd c.protoDir = .ok (l, .directory) := by
  have hs : (list c cwd d).present = true ↔
      ∃ xs, stems? cwd d (directory c .protocol) (extension c .protocol) = some xs := by
    cases h : stems? cwd d (directory c .protocol) (extension c .protocol)
    case none    => simp [list_of_stems?_eq_none h]
    case some xs => simp [list_of_stems?_eq_some h]
  simp only [hs, stems?_eq_some_iff]
  constructor
  · rintro ⟨_, l, hl, -⟩
    exact ⟨l, hl⟩
  · rintro ⟨l, hl⟩
    exact ⟨_, l, hl, rfl⟩

section Same

variable (h : ∀ l, d'.get? l = d.get? l)

include h

theorem HasStem.of_same (hs : HasStem cwd d dir ext x) : HasStem cwd d' dir ext x := by
  obtain ⟨hl, hn, hf, he⟩ := hs
  refine .intro ((Disk.find_of_same h ..).trans hl) ((Disk.mem_children_of_same h ..).mpr hn) ?_ he
  exact (Disk.isFile_of_same h ..).trans hf

-- The stems are the same and so is their order.
theorem list_of_same (c : Config) (cwd : Location) : list c cwd d' = list c cwd d := by
  obtain ⟨xs, hxs, hlt, hmem⟩ := exists_list_eq c cwd d
  obtain ⟨xs', hxs', hlt', hmem'⟩ := exists_list_eq c cwd d'
  have hstem x : HasStem cwd d' (directory c .protocol) (extension c .protocol) x ↔
      HasStem cwd d (directory c .protocol) (extension c .protocol) x :=
    ⟨.of_same fun l => (h l).symm, .of_same h⟩
  have heq : xs' = xs := hlt'.eq_of_mem_iff hlt fun x => by rw [hmem, hmem', hstem]
  have hprobe : probe c cwd d' = probe c cwd d := by
    funext name stem
    simp only [probe, Disk.isFile_of_same h]
  have hservices : (list c cwd d').services = (list c cwd d).services := by rw [hxs, hxs', heq, hprobe]
  have hpresent : (list c cwd d').present = (list c cwd d).present := by
    rw [Bool.eq_iff_iff, present_list_iff, present_list_iff, Disk.find_of_same h]
  exact congrArg₂ Listing.mk hservices hpresent

end Same

-- A protocol definition lies right in the directory of these names: a regular file, links followed.
structure Defined (c : Config) (cwd : Location) (d : Disk) (names : List String) (x : String) : Prop where
  ne_empty : x ≠ ""
  mem : fileName x c.layout.protoExtension ∈ names
  file : d.isFile cwd (Path.join (Path.join c.root c.layout.protoDir) (fileName x c.layout.protoExtension)) = true

instance (c : Config) (cwd : Location) (d : Disk) (names : List String) (x : String) :
    Decidable (Defined c cwd d names x) :=
  decidable_of_iff
    (x ≠ "" ∧ fileName x c.layout.protoExtension ∈ names ∧
      d.isFile cwd (Path.join (Path.join c.root c.layout.protoDir) (fileName x c.layout.protoExtension)) = true)
    ⟨fun h => ⟨h.1, h.2.1, h.2.2⟩, fun h => ⟨h.ne_empty, h.mem, h.file⟩⟩

-- What a listing says of the services of a project whose protocol directory holds the names.
structure Shows (c : Config) (cwd : Location) (d : Disk) (names : List String) (l : Listing) : Prop where
  present : l.present = true
  listed : ∀ x, x ∈ l.services.map ArtifactSet.stem ↔ Defined c cwd d names x ∧ x ∉ c.layout.reserved
  -- So none is listed twice.
  ordered : (l.services.map fun s => octets s.stem).Pairwise (· < ·)
  named : ∀ s ∈ l.services, s.name = s.stem
  protocol : ∀ s ∈ l.services, s.hasProtocol = true
  service : ∀ s ∈ l.services, s.hasService = true ↔
    d.isFile cwd (Path.join (Path.join c.root c.layout.servicesDir) (fileName s.stem c.layout.sourceExtension)) = true
  model : ∀ s ∈ l.services, s.hasModel = true ↔
    d.isFile cwd (Path.join (Path.join c.root c.layout.modelsDir) (fileName s.stem c.layout.sourceExtension)) = true

section Names

variable (he : IsExtension c.layout.protoExtension) (hl : d.list cwd c.protoDir = .ok names)

include he

-- A name in the directory is that of the definition exactly if it is taken apart like that.
theorem eq_fileName_and_defined_iff (hn : n ∈ names) :
    n = fileName x c.layout.protoExtension ∧ Defined c cwd d names x ↔
      (Path.stem n = x ∧ Path.extension? n = some c.layout.protoExtension) ∧
        d.isFile cwd (Path.join c.protoDir n) = true := by
  rw [stem_extension?_iff he]
  constructor
  · rintro ⟨rfl, h⟩
    exact ⟨⟨h.ne_empty, rfl⟩, h.file⟩
  · rintro ⟨⟨hx, rfl⟩, hf⟩
    exact ⟨rfl, hx, hn, hf⟩

include hl

theorem hasStem_iff_defined :
    HasStem cwd d c.protoDir c.layout.protoExtension x ↔ Defined c cwd d names x := by
  obtain ⟨l, hdir, rfl⟩ := Disk.list_eq_ok_iff.mp hl
  constructor
  case mp =>
    rintro ⟨hdir', hn, hf, hext⟩
    cases hdir.symm.trans hdir'
    exact ((eq_fileName_and_defined_iff he hn).mpr ⟨⟨rfl, hext⟩, hf⟩).2
  case mpr =>
    intro h
    obtain ⟨⟨hstem, hext⟩, hf⟩ := (eq_fileName_and_defined_iff he h.mem).mp ⟨rfl, h⟩
    exact hstem ▸ .intro hdir h.mem hf hext

theorem mem_stems_list_iff_defined :
    x ∈ (list c cwd d).services.map ArtifactSet.stem ↔ Defined c cwd d names x ∧ x ∉ c.layout.reserved :=
  mem_stems_list_iff.trans <| and_congr_left' <| hasStem_iff_defined he hl

theorem shows_list : Shows c cwd d names (list c cwd d) := by
  constructor
  case present =>
    obtain ⟨l, hdir, -⟩ := Disk.list_eq_ok_iff.mp hl
    exact present_list_iff.mpr ⟨l, hdir⟩
  case listed => exact fun x => mem_stems_list_iff_defined he hl
  case ordered =>
    have h := (pairwise_stems_list c cwd d).map octets fun x y => octets_lt_octets
    rwa [List.map_map] at h
  case protocol =>
    intro s hs
    rw [eq_probe_of_mem_list hs]
    exact ((mem_stems_list_iff_defined he hl).mp <| List.mem_map_of_mem hs).1.file
  all_goals
    intro s hs
    rw [eq_probe_of_mem_list hs]
    rfl

-- Files with a reserved stem are counted and not listed.
theorem length_list_add_countP :
    (list c cwd d).services.length +
        names.countP (fun n => ∃ x ∈ c.layout.reserved,
          n = fileName x c.layout.protoExtension ∧ Defined c cwd d names x) =
      count c cwd d .protocol := by
  have hstems : stems? cwd d (directory c .protocol) (extension c .protocol) =
      some ((names.filter fun n => d.isFile cwd (Path.join c.protoDir n) &&
        Path.extension? n == some c.layout.protoExtension).map Path.stem) := by
    rw [stems?, directory, hl]
    rfl
  have hreserved : names.countP (fun n => ∃ x ∈ c.layout.reserved,
        n = fileName x c.layout.protoExtension ∧ Defined c cwd d names x) =
      ((names.filter fun n => d.isFile cwd (Path.join c.protoDir n) &&
        Path.extension? n == some c.layout.protoExtension).map Path.stem).countP c.layout.reserved.contains := by
    rw [List.countP_map, List.countP_filter]
    refine List.countP_congr fun n hn => ?_
    simp only [eq_fileName_and_defined_iff he hn, decide_eq_true_eq, Function.comp_apply, Bool.and_eq_true,
      beq_iff_eq, List.contains_iff_mem]
    grind
  rw [hreserved, count, list_of_stems?_eq_some hstems, hstems]
  generalize List.map Path.stem _ = xs
  have hsplit := xs.length_eq_countP_add_countP c.layout.reserved.contains
  simp only [List.length_map, List.length_mergeSort, ←List.countP_eq_length_filter, Option.map_some,
    Option.getD_some]
  simp only [Bool.not_eq_true, Bool.decide_eq_false] at hsplit
  omega

end Names

theorem list_shows_protocols (he : IsExtension c.layout.protoExtension) (cwd : Location) (d : Disk) :
    (∀ names, d.list cwd (Path.join c.root c.layout.protoDir) = .ok names →
      Shows c cwd d names (list c cwd d) ∧
      (list c cwd d).services.length +
          names.countP (fun n => ∃ x ∈ c.layout.reserved,
            n = fileName x c.layout.protoExtension ∧ Defined c cwd d names x) =
        count c cwd d .protocol) ∧
    ((∀ names, d.list cwd (Path.join c.root c.layout.protoDir) ≠ .ok names) →
      list c cwd d = ⟨[], false⟩ ∧ count c cwd d .protocol = 0) ∧
    ∀ d' : Disk, (∀ l, d'.get? l = d.get? l) → list c cwd d' = list c cwd d := by
  refine ⟨fun names hl => ⟨shows_list he hl, length_list_add_countP he hl⟩, fun hn => ?missing, fun d' h => ?order⟩
  case missing =>
    have hstems : stems? cwd d (directory c .protocol) (extension c .protocol) = none := by
      cases hl : d.list cwd c.protoDir
      case ok names => exact absurd hl (hn names)
      case error    => rw [stems?, directory, hl]
    exact ⟨list_of_stems?_eq_none hstems, by rw [count, hstems]; rfl⟩
  case order => exact list_of_same h c cwd

-- The protocol directory of a project at the root of a disk.
theorem find_proto (hd : d.get? ["proto"] = some .directory) : d.find [] "/proto" = .ok (["proto"], .directory) := by
  have hpath : Path.join "/" "proto" = "/proto" := by decide +kernel
  rw [←hpath]
  exact Disk.find_of_root (by decide) (by decide) hd (by simp)

-- A link to a file is listed, a directory of such a name is not, and a reserved stem is counted only. A directory
-- is no model either.
theorem list_shows_protocols_item :
    let c := Config.ofRoot "/" "/"
    let d := Disk.empty.put ["proto"] .directory |>.put ["proto", "nested.proto"] .directory
      |>.put ["proto", "health.proto"] (.file [] false) |>.put ["proto", "Item.txt"] (.file [] false)
      |>.put ["proto", "item.proto"] (.link "Item.txt")
      |>.put ["services"] .directory |>.put ["services", "item.go"] (.file [] false)
      |>.put ["models"] .directory |>.put ["models", "item.go"] .directory
    let stems := (list c [] d).services.map ArtifactSet.stem
    IsExtension c.layout.protoExtension ∧
      d.list [] (Path.join c.root c.layout.protoDir) =
        .ok ["item.proto", "Item.txt", "health.proto", "nested.proto"] ∧
      "item" ∈ stems ∧ "nested" ∉ stems ∧ "health" ∉ stems ∧ stems.length + 1 = count c [] d .protocol ∧
      ∀ s ∈ (list c [] d).services, s.stem = "item" → s.name = "item" ∧ s.hasProtocol = true ∧
        s.hasService = true ∧ s.hasModel = false := by
  intro c d stems
  have hroot : c.root = "/" := by decide +kernel
  have hc : Path.join c.root c.layout.protoDir = "/proto" := by decide +kernel
  have he : IsExtension c.layout.protoExtension := isExtension_of_isIdentifier (by decide)
  have hdir : d.get? ["proto"] = some .directory := by decide +kernel
  have hl : d.list [] (Path.join c.root c.layout.protoDir) =
      .ok ["item.proto", "Item.txt", "health.proto", "nested.proto"] := by
    rw [hc, Disk.list_eq_ok_iff]
    exact ⟨_, find_proto hdir, by decide +kernel⟩
  have hfile {f n e} (hn : (isEntryName f = true ∧ isEntryName n = true) ∧
      f.utf8ByteSize ≤ Disk.maxName ∧ n.utf8ByteSize ≤ Disk.maxName) (hlink : ∀ t, e ≠ .link t)
      (hf : d.get? [f] = some .directory) (hget : d.get? [f, n] = some e) :
      d.isFile [] (Path.join (Path.join c.root f) n) = e.isFile := by
    rw [hroot]
    exact Disk.isFile_of_folder hn.1.1 hn.1.2 hn.2 hf hget hlink
  have hnested : d.isFile [] (Path.join (Path.join c.root "proto") "nested.proto") = false :=
    hfile (by decide +kernel) (by simp) hdir (by decide +kernel : _ = some .directory)
  have hhealth : d.isFile [] (Path.join (Path.join c.root "proto") "health.proto") = true :=
    hfile (by decide +kernel) (by simp) hdir (by decide +kernel : _ = some (.file [] false))
  have hservice : d.isFile [] (Path.join (Path.join c.root "services") "item.go") = true :=
    hfile (by decide +kernel) (by simp) (by decide +kernel) (by decide +kernel : _ = some (.file [] false))
  have hmodel : d.isFile [] (Path.join (Path.join c.root "models") "item.go") = false :=
    hfile (by decide +kernel) (by simp) (by decide +kernel) (by decide +kernel : _ = some .directory)
  have hitem : d.isFile [] (Path.join (Path.join c.root "proto") "item.proto") = true := by
    have hp : Path.join (Path.join c.root "proto") "item.proto" = "/proto/item.proto" := by decide +kernel
    have hs : Disk.steps "/proto/item.proto" = ["proto", "item.proto"] := by decide +kernel
    have hs' : Disk.steps "Item.txt" = ["Item.txt"] := by decide +kernel
    have hsize : "proto".utf8ByteSize = 5 ∧ "item.proto".utf8ByteSize = 10 ∧ "Item.txt".utf8ByteSize = 8 := by
      decide +kernel
    have habs : Path.isAbsolute "Item.txt" = false := by decide
    have hroot : d.get? [] = some .directory := rfl
    have hlink : d.get? ["proto", "item.proto"] = some (.link "Item.txt") := by decide +kernel
    have htarget : d.get? ["proto", "Item.txt"] = some (.file [] false) := by decide +kernel
    have hwalk : d.walk true Disk.maxLinks [] (Disk.steps "/proto/item.proto") = .ok ["proto", "Item.txt"] := by
      simp [Disk.walk, Disk.maxName, Disk.maxLinks, hs, hs', hsize, habs, hroot, hdir, hlink, htarget]
    rw [hp, Disk.isFile_iff]
    exact ⟨_, _, Disk.find_of_walk (by decide) (by decide) (by decide +kernel) hwalk htarget, rfl⟩
  obtain ⟨hread, -, -⟩ := list_shows_protocols he [] d
  obtain ⟨hshows, hcount⟩ := hread _ hl
  refine ⟨he, hl, ?item, fun h => ?nested, fun h => ?health, ?count, fun s hs hstem => ?set⟩
  case item   => exact (hshows.listed _).mpr ⟨⟨by decide, by decide +kernel, hitem⟩, by decide⟩
  case nested => exact absurd (hnested.symm.trans ((hshows.listed _).mp h).1.file) (by decide)
  case health => exact ((hshows.listed _).mp h).2 (by decide)
  case count =>
    have hd : Defined c [] d ["item.proto", "Item.txt", "health.proto", "nested.proto"] "health" :=
      ⟨by decide, by decide +kernel, hhealth⟩
    have hreserved : c.layout.reserved = ["health"] := rfl
    have hf : fileName "health" c.layout.protoExtension = "health.proto" := by decide +kernel
    rw [←hcount, List.length_map]
    simp [hreserved, hf, hd]
  case set =>
    have hs' := hshows.service s hs
    have hm := hshows.model s hs
    rw [hstem] at hs' hm
    refine ⟨(hshows.named s hs).trans hstem, hshows.protocol s hs, hs'.mpr hservice, ?_⟩
    exact Bool.eq_false_iff.mpr fun h => by cases hmodel.symm.trans (hm.mp h)

end Scaffold.Inventory
