import Scaffold.Disk.Walk
import Scaffold.Proofs.Checks

namespace Scaffold

namespace Path

variable {p q : String}

theorem endsOpen_append (hq : q ≠ "") : endsOpen (p ++ q) = endsOpen q := by
  have hq : q.toList ≠ [] := by simpa using hq
  obtain ⟨c, cs, hc⟩ := List.exists_cons_of_ne_nil hq
  rw [endsOpen, endsOpen, String.toList_append, hc, List.getLast?_append_cons]

theorem utf8ByteSize_join_le (p q : String) : (join p q).utf8ByteSize ≤ p.utf8ByteSize + 1 + q.utf8ByteSize := by
  have hslash : "/".utf8ByteSize = 1 := rfl
  rw [join]
  split
  · omega
  · split
    all_goals
      simp only [String.utf8ByteSize_append, hslash]
      omega

theorem isAbsolute_append_of_ne_empty (hp : p ≠ "") : isAbsolute (p ++ q) = isAbsolute p := by
  obtain ⟨c, cs, hc⟩ := List.exists_cons_of_ne_nil (by simpa using hp : p.toList ≠ [])
  simp [isAbsolute, hc]

theorem join_ne_empty (hq : q ≠ "") : join p q ≠ "" := by
  rw [join]
  split
  · exact hq
  · split <;> simp [hq]

theorem mem_toList_join {c : Char} (h : c ∈ q.toList) : c ∈ (join p q).toList := by
  rw [join]
  split
  · exact h
  · split <;> simp [h]

end Path

namespace Disk

variable {d : Disk} {cwd l m : Location} {links : Nat} {s rest : List String} {p n : String}
variable {e : Entry}

theorem walk_of_none (hl : d.get? l = none) (hr : rest ≠ []) : d.walk true links l rest = .error .missing := by
  cases rest
  case nil => contradiction
  case cons => simp only [walk, hl]

-- What is left of a walk goes on from where the first part leads. Links on the way count for both parts, so
-- that fewer of them may be left.
theorem walk_append (d : Disk) (links : Nat) (l : Location) (s : List String) (hr : rest ≠ []) :
    ∃ k, d.walk true links l (s ++ rest) = (do d.walk true k (← d.walk true links l s) rest) := by
  fun_induction walk d true links l s
  case case1 links _ => exact ⟨links, rfl⟩
  case case5 links _ _ hd hn hu hsize hnone =>
    refine ⟨links, ?_⟩
    simp only [List.singleton_append, walk, hd, hn, hu, hsize, hnone, hr, ok_bind, walk_of_none hnone hr,
      if_false]
  case case9 hd hn hu hsize _ hlink _ _ ih => simpa [walk, hd, hn, hu, hsize, hlink, hr] using ih
  case case10 hd hn hu hsize _ _ hsome ih => simpa [walk, hd, hn, hu, hsize, hsome] using ih
  all_goals simp_all [walk]

-- The names that an entry may have are single steps.
theorem isEntryName_iff :
    isEntryName n = true ↔ n ≠ "" ∧ n ≠ "." ∧ n ≠ ".." ∧ '/' ∉ n.toList ∧ '\x00' ∉ n.toList := by
  simp [isEntryName, and_assoc]

theorem walk_singleton_eq_ok_iff (hn : isEntryName n = true)
    (hlink : d.get? l = some .directory → ∀ t, d.get? (l ++ [n]) ≠ some (.link t)) :
    d.walk true links l [n] = .ok m ↔
      d.get? l = some .directory ∧ n.utf8ByteSize ≤ maxName ∧ m = l ++ [n] := by
  obtain ⟨-, hdot, hup, -, -⟩ := isEntryName_iff.mp hn
  by_cases hd : d.get? l = some .directory
  case neg =>
    rw [walk]
    split <;> simp_all
  case pos =>
    have hlink := hlink hd
    simp only [walk, hd, hdot, hup, if_false]
    by_cases hs : n.utf8ByteSize ≤ maxName
    case neg => simp [hs, Nat.lt_of_not_le hs]
    case pos =>
      rw [if_neg (Nat.not_lt.mpr hs)]
      cases he : d.get? (l ++ [n])
      case none => simp [hs, eq_comm]
      case some e =>
        cases e
        case link t => exact absurd he <| hlink t
        all_goals simp [hs, eq_comm]

-- The names in a path. A slash at the end adds none.
def parts (p : String) : List String :=
  ((p.toList.splitOn '/').filter fun n => n ≠ []).map String.ofList

theorem steps_eq (p : String) : steps p = parts p ++ if Path.endsOpen p then ["."] else [] := by
  rw [steps, parts]
  split <;> simp

theorem parts_append_slash (p q : String) : parts (p ++ "/" ++ q) = parts p ++ parts q := by
  have hs : (p ++ "/" ++ q).toList = p.toList ++ '/' :: q.toList := by simp
  rw [parts, hs, List.splitOn_append_cons_self, List.filter_append, List.map_append, parts, parts]

theorem parts_of_isEntryName (hn : isEntryName n = true) : parts n = [n] := by
  obtain ⟨hne, -, -, hslash, -⟩ := isEntryName_iff.mp hn
  have hne : n.toList ≠ [] := by simpa using hne
  simp [parts, List.splitOn_eq_singleton hslash, hne]

theorem exists_of_endsOpen (h : Path.endsOpen p = true) : ∃ q, p = q ++ "/" := by
  obtain ⟨s, hs⟩ := List.getLast?_eq_some_iff.mp <| beq_iff_eq.mp h
  exact ⟨String.ofList s, by rw [←String.toList_inj]; simp [hs]⟩

-- Whether or not the path brings the slash, a name put behind it is one step more.
theorem exists_join_eq (hp : p ≠ "") (hn : isEntryName n = true) :
    ∃ r, Path.join p n = p ++ r ∧ '\x00' ∉ r.toList ∧ steps (p ++ r) = parts p ++ [n] := by
  obtain ⟨hne, -, -, hslash, hnul⟩ := isEntryName_iff.mp hn
  have ha : Path.isAbsolute n = false := by
    rw [Path.isAbsolute, beq_eq_false_iff_ne]
    exact fun h => hslash <| List.mem_of_head? h
  have hopen r : Path.endsOpen (r ++ n) = false := by
    rw [Path.endsOpen_append hne, Path.endsOpen, beq_eq_false_iff_ne]
    exact fun h => hslash <| List.mem_of_getLast? h
  cases ho : Path.endsOpen p
  case false =>
    refine ⟨"/" ++ n, by simp [Path.join, ha, hp, ho, String.append_assoc], by simp [hnul], ?_⟩
    rw [←String.append_assoc, steps_eq, hopen, parts_append_slash, parts_of_isEntryName hn]
    simp
  case true =>
    obtain ⟨q, rfl⟩ := exists_of_endsOpen ho
    refine ⟨n, by simp [Path.join, ha, ho], hnul, ?_⟩
    have hempty : parts "" = [] := by decide
    have hq : parts (q ++ "/") = parts q := by simpa [hempty] using parts_append_slash q ""
    rw [steps_eq, hopen, parts_append_slash, parts_of_isEntryName hn, hq]
    simp

theorem locate_eq_ok_iff {last : Bool} :
    d.locate cwd p last = .ok l ↔
      p ≠ "" ∧ '\x00' ∉ p.toList ∧ p.utf8ByteSize ≤ maxPath ∧
        d.walk last maxLinks (if Path.isAbsolute p then [] else cwd) (steps p) = .ok l := by
  simp only [locate]
  by_cases hp : p = ""
  case pos => simp [hp]
  case neg =>
    by_cases hnul : '\x00' ∈ p.toList
    case pos => simp [hp, hnul]
    case neg =>
      by_cases hs : p.utf8ByteSize ≤ maxPath
      case pos => simp [hp, hnul, hs, Nat.not_lt.mpr hs]
      case neg => simp [hp, hnul, hs, Nat.lt_of_not_le hs]

-- An absolute path is walked from the root, wherever it is asked for.
theorem locate_of_isAbsolute (h : Path.isAbsolute p = true) (d : Disk) (cwd cwd' : Location) (last : Bool) :
    d.locate cwd p last = d.locate cwd' p last := by
  simp [locate, h]

theorem find_eq_ok_iff : d.find cwd p = .ok (l, e) ↔ d.locate cwd p true = .ok l ∧ d.get? l = some e := by
  rw [find]
  cases d.locate cwd p true
  case error => simp
  case ok m =>
    by_cases hm : m = l
    case neg => cases he : d.get? m <;> simp [he, hm]
    case pos =>
      subst hm
      cases he : d.get? m <;> simp [he]

-- An absolute path is walked from the root.
theorem find_of_walk (ha : Path.isAbsolute p = true) (hnul : '\x00' ∉ p.toList) (hs : p.utf8ByteSize ≤ maxPath)
    (hw : d.walk true maxLinks [] (steps p) = .ok l) (he : d.get? l = some e) : d.find cwd p = .ok (l, e) := by
  have hne : p ≠ "" := by
    rintro rfl
    contradiction
  exact find_eq_ok_iff.mpr ⟨locate_eq_ok_iff.mpr ⟨hne, hnul, hs, by rwa [if_pos ha]⟩, he⟩

theorem walk_dot_eq_ok_iff : d.walk true links m ["."] = .ok l ↔ d.get? m = some .directory ∧ m = l := by
  by_cases hm : d.get? m = some .directory
  case pos => simp [walk, hm]
  case neg =>
    rw [walk]
    split <;> simp_all

-- A slash at the end of a path to a directory is no matter.
theorem walk_steps_eq_ok_iff :
    d.walk true links m (steps p) = .ok l ∧ d.get? l = some .directory ↔
      d.walk true links m (parts p) = .ok l ∧ d.get? l = some .directory := by
  rw [steps_eq]
  cases Path.endsOpen p
  case false => simp
  case true =>
    obtain ⟨k, hw⟩ := d.walk_append links m (parts p) (List.cons_ne_nil "." [])
    simp only [if_true, hw, bind_eq_ok_iff, walk_dot_eq_ok_iff]
    constructor
    · rintro ⟨⟨_, hl, -, rfl⟩, hd⟩
      exact ⟨hl, hd⟩
    · rintro ⟨hl, hd⟩
      exact ⟨⟨l, hl, hd, rfl⟩, hd⟩

theorem find_directory_eq_ok_iff :
    d.find cwd p = .ok (l, .directory) ↔
      p ≠ "" ∧ '\x00' ∉ p.toList ∧ p.utf8ByteSize ≤ maxPath ∧
        d.walk true maxLinks (if Path.isAbsolute p then [] else cwd) (parts p) = .ok l ∧
        d.get? l = some .directory := by
  simp only [find_eq_ok_iff, locate_eq_ok_iff, and_assoc, walk_steps_eq_ok_iff]

-- A name that is no link is found exactly in the directory that the rest of the path denotes.
theorem find_join_eq_ok_iff (hp : p ≠ "") (hn : isEntryName n = true)
    (hlink : ∀ l, d.find cwd p = .ok (l, .directory) → ∀ t, d.get? (l ++ [n]) ≠ some (.link t)) :
    d.find cwd (Path.join p n) = .ok (m, e) ↔
      ∃ l, d.find cwd p = .ok (l, .directory) ∧ n.utf8ByteSize ≤ maxName ∧
        (Path.join p n).utf8ByteSize ≤ maxPath ∧ m = l ++ [n] ∧ d.get? m = some e := by
  obtain ⟨r, hj, hr, hsteps⟩ := exists_join_eq hp hn
  have hne : p ++ r ≠ "" := by simp [hp]
  have habs : Path.isAbsolute (p ++ r) = Path.isAbsolute p := Path.isAbsolute_append_of_ne_empty hp
  have hsize : p.utf8ByteSize ≤ (p ++ r).utf8ByteSize := by simp [String.utf8ByteSize_append]
  have hnul : '\x00' ∉ (p ++ r).toList ↔ '\x00' ∉ p.toList := by simp [hr]
  obtain ⟨k, hw⟩ := d.walk_append maxLinks (if Path.isAbsolute p then [] else cwd) (parts p)
    (List.cons_ne_nil n [])
  rw [hj, find_eq_ok_iff, locate_eq_ok_iff, hsteps, habs, hw, bind_eq_ok_iff, hnul]
  simp only [find_directory_eq_ok_iff] at hlink ⊢
  constructor
  case mp =>
    rintro ⟨⟨-, hpnul, hs, l, hl, hm⟩, he⟩
    have hlink := fun hd => hlink l ⟨hp, hpnul, Nat.le_trans hsize hs, hl, hd⟩
    obtain ⟨hd, hname, rfl⟩ := (walk_singleton_eq_ok_iff hn hlink).mp hm
    exact ⟨l, ⟨hp, hpnul, Nat.le_trans hsize hs, hl, hd⟩, hname, hs, rfl, he⟩
  case mpr =>
    rintro ⟨l, ⟨-, hpnul, hs', hl, hd⟩, hname, hs, rfl, he⟩
    have hlink := fun (_ : d.get? l = some .directory) => hlink l ⟨hp, hpnul, hs', hl, hd⟩
    exact ⟨⟨hne, hpnul, hs, l, hl, (walk_singleton_eq_ok_iff hn hlink).mpr ⟨hd, hname, rfl⟩⟩, he⟩

theorem isFile_iff : d.isFile cwd p = true ↔ ∃ l e, d.find cwd p = .ok (l, e) ∧ e.isFile = true := by
  simp only [isFile, find?]
  cases d.find cwd p
  case error => simp [Except.toOption]
  case ok x =>
    obtain ⟨l, e⟩ := x
    simp [Except.toOption]

theorem not_nul_of_isFile (h : d.isFile cwd p = true) : '\x00' ∉ p.toList := by
  obtain ⟨l, e, hfind, -⟩ := isFile_iff.mp h
  exact (locate_eq_ok_iff.mp (find_eq_ok_iff.mp hfind).1).2.1

theorem isFile_join_iff (hp : p ≠ "") (hn : isEntryName n = true)
    (hlink : ∀ l, d.find cwd p = .ok (l, .directory) → ∀ t, d.get? (l ++ [n]) ≠ some (.link t)) :
    d.isFile cwd (Path.join p n) = true ↔
      ∃ l e, d.find cwd p = .ok (l, .directory) ∧ n.utf8ByteSize ≤ maxName ∧
        (Path.join p n).utf8ByteSize ≤ maxPath ∧ d.get? (l ++ [n]) = some e ∧ e.isFile = true := by
  simp only [isFile_iff, find_join_eq_ok_iff hp hn hlink]
  constructor
  · rintro ⟨_, e, ⟨l, hl, hsize, hpath, rfl, he⟩, hf⟩
    exact ⟨l, e, hl, hsize, hpath, he, hf⟩
  · rintro ⟨l, e, hl, hsize, hpath, he, hf⟩
    exact ⟨_, e, ⟨l, hl, hsize, hpath, rfl, he⟩, hf⟩

-- What lies in a directory that is known, and is no link.
theorem isFile_join_of_find (hp : d.find cwd p = .ok (l, .directory)) (hn : isEntryName n = true)
    (hsize : n.utf8ByteSize ≤ maxName ∧ (Path.join p n).utf8ByteSize ≤ maxPath)
    (he : d.get? (l ++ [n]) = some e) (hlink : ∀ t, e ≠ .link t) :
    d.isFile cwd (Path.join p n) = e.isFile := by
  have hlink l' (hl' : d.find cwd p = .ok (l', .directory)) t : d.get? (l' ++ [n]) ≠ some (.link t) := by
    cases hp.symm.trans hl'
    exact fun ht => hlink t <| Option.some.inj <| he.symm.trans ht
  rw [Bool.eq_iff_iff, isFile_join_iff (find_directory_eq_ok_iff.mp hp).1 hn hlink]
  constructor
  · rintro ⟨l', e', hl', -, -, he', hf⟩
    cases hp.symm.trans hl'
    cases he.symm.trans he'
    exact hf
  · exact fun hf => ⟨l, e, hp, hsize.1, hsize.2, he, hf⟩

theorem get?_of_walk_cons (h : d.walk true links l (n :: rest) = .ok m) : d.get? l = some .directory := by
  rw [walk] at h
  split at h
  case h_1 hd => exact hd
  all_goals cases h

-- Whatever the name leads to, the rest of the path denotes a directory in which it is a name.
theorem find_directory_of_isFile_join (hp : p ≠ "") (hn : isEntryName n = true)
    (hf : d.isFile cwd (Path.join p n) = true) : ∃ l, d.find cwd p = .ok (l, .directory) ∧ n ∈ d.children l := by
  obtain ⟨r, hj, -, hsteps⟩ := exists_join_eq hp hn
  have habs : Path.isAbsolute (p ++ r) = Path.isAbsolute p := Path.isAbsolute_append_of_ne_empty hp
  obtain ⟨k, hw⟩ := d.walk_append maxLinks (if Path.isAbsolute p then [] else cwd) (parts p)
    (List.cons_ne_nil n [])
  obtain ⟨m, e, hfind, -⟩ := isFile_iff.mp hf
  obtain ⟨hm, he⟩ := find_eq_ok_iff.mp hfind
  obtain ⟨-, hnul, hsize, hm⟩ := locate_eq_ok_iff.mp hm
  rw [hj, hsteps, habs, hw] at hm
  obtain ⟨l, hl, hm⟩ := bind_eq_ok_iff.mp hm
  have hd := get?_of_walk_cons hm
  rw [hj] at hnul hsize
  simp only [String.toList_append, List.mem_append, not_or, String.utf8ByteSize_append] at hnul hsize
  refine ⟨l, find_directory_eq_ok_iff.mpr ⟨hp, hnul.1, by omega, hl, hd⟩, ?_⟩
  rw [mem_children_iff, Option.isSome_iff_ne_none]
  intro hnone
  have hlink (_ : d.get? l = some .directory) t : d.get? (l ++ [n]) ≠ some (.link t) := by simp [hnone]
  obtain ⟨-, -, rfl⟩ := (walk_singleton_eq_ok_iff hn hlink).mp hm
  exact absurd (hnone.symm.trans he) (by simp)

theorem mem_children_of_isFile_join (hp : d.find cwd p = .ok (l, .directory)) (hn : isEntryName n = true)
    (hf : d.isFile cwd (Path.join p n) = true) : n ∈ d.children l := by
  obtain ⟨l', hl', hmem⟩ := find_directory_of_isFile_join (find_directory_eq_ok_iff.mp hp).1 hn hf
  cases hp.symm.trans hl'
  exact hmem

-- What lies right below the root.
theorem find_of_root (hn : isEntryName n = true) (hsize : n.utf8ByteSize ≤ maxName) (he : d.get? [n] = some e)
    (hlink : ∀ t, e ≠ .link t) : d.find cwd (Path.join "/" n) = .ok ([n], e) := by
  obtain ⟨r, hj, hr, hsteps⟩ := exists_join_eq (p := "/") (by decide) hn
  have hroot : parts "/" = [] := by decide
  have hslash : "/".utf8ByteSize = 1 := rfl
  have hle := Path.utf8ByteSize_join_le "/" n
  have hmax : maxName + 2 ≤ maxPath := by decide
  refine find_of_walk (Path.isAbsolute_join rfl n) ?nul (by omega) ?walk he
  case nul =>
    rw [hj]
    simpa using hr
  case walk =>
    rw [hj, hsteps, hroot, List.nil_append, walk_singleton_eq_ok_iff hn fun _ t => by simpa [he] using hlink t]
    exact ⟨rfl, hsize, rfl⟩

-- What lies in a folder right below the root.
theorem isFile_of_folder {f : String} (hf : isEntryName f = true) (hn : isEntryName n = true)
    (hsize : f.utf8ByteSize ≤ maxName ∧ n.utf8ByteSize ≤ maxName) (hd : d.get? [f] = some .directory)
    (he : d.get? [f, n] = some e) (hlink : ∀ t, e ≠ .link t) :
    d.isFile cwd (Path.join (Path.join "/" f) n) = e.isFile := by
  have hslash : "/".utf8ByteSize = 1 := rfl
  have hle := Path.utf8ByteSize_join_le "/" f
  have hle' := Path.utf8ByteSize_join_le (Path.join "/" f) n
  have hmax : 2 * maxName + 3 ≤ maxPath := by decide
  exact isFile_join_of_find (find_of_root hf hsize.1 hd (by simp)) hn ⟨hsize.2, by omega⟩ he hlink

theorem list_eq_ok_iff {ns : List String} :
    d.list cwd p = .ok ns ↔ ∃ l, d.find cwd p = .ok (l, .directory) ∧ ns = d.children l := by
  cases h : d.find cwd p
  case error => simp [list, h]
  case ok x =>
    obtain ⟨l, e⟩ := x
    cases e <;> simp [list, h, eq_comm]

-- There is nothing but the root on an empty disk.
theorem holds_join_empty (hp : p ≠ "") (hn : isEntryName n = true) (cwd : Location) :
    empty.holds cwd (Path.join p n) = false := by
  have hnone k e : empty.get? (k ++ [n]) ≠ some e := by
    rw [ne_eq, get?_eq_some_iff (by simp)]
    exact List.not_mem_nil
  rw [holds, find?]
  cases h : empty.find cwd (Path.join p n)
  case error => rfl
  case ok x =>
    obtain ⟨k, -, -, -, hm, he⟩ := (find_join_eq_ok_iff hp hn fun k _ t => hnone k _).mp h
    exact absurd (hm ▸ he) <| hnone k _

section Same

-- Disks that hold the same, in whatever order.
variable {d' : Disk} (h : ∀ l, d'.get? l = d.get? l)

include h

theorem walk_of_same (last : Bool) (links : Nat) (l : Location) (s : List String) :
    d'.walk last links l s = d.walk last links l s := by
  fun_induction walk d last links l s
  case case9 ih => simpa [walk, *] using ih
  all_goals simp [walk, *]

theorem find_of_same (cwd : Location) (p : String) : d'.find cwd p = d.find cwd p := by
  simp only [find, locate, walk_of_same h, h]

theorem isFile_of_same (cwd : Location) (p : String) : d'.isFile cwd p = d.isFile cwd p := by
  rw [isFile, isFile, find?, find?, find_of_same h]

theorem mem_children_of_same (l : Location) (n : String) : n ∈ d'.children l ↔ n ∈ d.children l := by
  rw [mem_children_iff, mem_children_iff, h]

end Same

end Disk
end Scaffold
