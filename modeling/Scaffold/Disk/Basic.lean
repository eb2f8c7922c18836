import Scaffold.Text.Octets

namespace Scaffold

open Text

-- What is no file, but can be read or written like one.
inductive Device
  -- Holds nothing, and takes all.
  | null
  -- Zeros without end.
  | zero
  -- Zeros without end, and no room for anything.
  | full
  -- Whatever the descriptor of that number leads to.
  | descriptor (number : Nat)
deriving DecidableEq, Repr

inductive Entry
  | file (content : Octets) (executable : Bool)
  | directory
  | link (target : String)
  -- An executable that is part of the system, known by its name.
  | program (name : String)
  | device (kind : Device)
deriving DecidableEq, Repr

def Entry.isFile : Entry → Bool
  | file .. => true
  | program _ => true
  | _ => false

abbrev Location :=
  List String

-- What an entry may be called.
def isEntryName (n : String) : Bool :=
  n ≠ "" && n ≠ "." && n ≠ ".." && !n.toList.contains '/' && !n.toList.contains '\x00'

structure Disk where
  entries : List (Location × Entry)
  nodup : (entries.map Prod.fst).Nodup
  names : ∀ e ∈ entries, e.1.all isEntryName = true

namespace Disk

def empty : Disk where
  entries := []
  nodup := List.nodup_nil
  names := by simp

-- The entry at a place. The root is always a directory.
def get? (d : Disk) : Location → Option Entry
  | [] => some .directory
  | l => d.entries.lookup l

-- The name under which `l` lies in the directory `parent`, if it does.
def nameIn? (parent l : Location) : Option String :=
  if l.dropLast = parent then l.getLast? else none

-- The names in a directory, in the order in which the disk holds them.
def children (d : Disk) (l : Location) : List String :=
  d.entries.filterMap fun e => nameIn? l e.1

def keep (d : Disk) (p : Location → Bool) : Disk where
  entries := d.entries.filter fun e => p e.1
  nodup := List.Nodup.sublist ((List.filter_sublist ..).map _) d.nodup
  names := fun e he => d.names e ((List.mem_filter.1 he).1)

def erase (d : Disk) (l : Location) : Disk :=
  d.keep (· ≠ l)

-- Removes a place and all below it.
def eraseTree (d : Disk) (l : Location) : Disk :=
  d.keep fun k => !l.isPrefixOf k

theorem fst_ne_of_mem_erase {d : Disk} {l : Location} {e : Location × Entry}
    (h : e ∈ (d.erase l).entries) : e.1 ≠ l := by
  have h := (List.mem_filter.1 h).2
  simpa using h

-- Puts an entry at a place. Names that no entry may have change nothing.
def put (d : Disk) (l : Location) (e : Entry) : Disk :=
  if h : l.all isEntryName = true then
    { entries := (l, e) :: (d.erase l).entries
      nodup := by
        rw [List.map_cons, List.nodup_cons]
        refine ⟨fun hm => ?_, (d.erase l).nodup⟩
        obtain ⟨x, hx, rfl⟩ := List.mem_map.1 hm
        exact fst_ne_of_mem_erase hx rfl
      names := by
        intro x hx
        rcases List.mem_cons.1 hx with rfl | hx
        · exact h
        · exact (d.erase l).names x hx }
  else d

theorem lookup_eq_some_iff {es : List (Location × Entry)} (h : (es.map Prod.fst).Nodup) {l : Location}
    {e : Entry} : es.lookup l = some e ↔ (l, e) ∈ es := by
  induction es with
  | nil => simp
  | cons x es ih =>
    obtain ⟨k, v⟩ := x
    rw [List.map_cons, List.nodup_cons] at h
    by_cases hk : l = k
    · subst hk
      have hn : (l, e) ∉ es := fun hm => h.1 (List.mem_map.2 ⟨_, hm, rfl⟩)
      simp [hn, eq_comm]
    · simp [List.lookup_cons, beq_eq_false_iff_ne.2 hk, ih h.2, hk]

theorem get?_eq_some_iff {d : Disk} {l : Location} {e : Entry} (hl : l ≠ []) :
    d.get? l = some e ↔ (l, e) ∈ d.entries := by
  rw [← lookup_eq_some_iff d.nodup]
  cases l with
  | nil => exact absurd rfl hl
  | cons n ns => rfl

theorem get?_keep {d : Disk} {p : Location → Bool} {l : Location} (hl : l ≠ []) :
    (d.keep p).get? l = if p l then d.get? l else none := by
  ext e
  rw [get?_eq_some_iff hl]
  by_cases h : p l
  · simp [keep, h, get?_eq_some_iff hl]
  · simp [keep, h]

theorem get?_erase {d : Disk} {k l : Location} (hl : l ≠ []) :
    (d.erase k).get? l = if l = k then none else d.get? l := by
  rw [erase, get?_keep hl]
  by_cases h : l = k <;> simp [h]

theorem get?_eraseTree {d : Disk} {k l : Location} (hl : l ≠ []) :
    (d.eraseTree k).get? l = if k.isPrefixOf l then none else d.get? l := by
  rw [eraseTree, get?_keep hl]
  cases h : k.isPrefixOf l <;> simp

theorem get?_put {d : Disk} {k l : Location} {e : Entry} (hl : l ≠ [])
    (h : k.all isEntryName = true) : (d.put k e).get? l = if l = k then some e else d.get? l := by
  ext x
  rw [get?_eq_some_iff hl]
  simp only [put, dif_pos h, List.mem_cons, Prod.mk.injEq, ← get?_eq_some_iff hl, get?_erase hl]
  by_cases hk : l = k <;> simp [hk, eq_comm]

theorem all_isEntryName_of_get? {d : Disk} {l : Location} {e : Entry} (h : d.get? l = some e) :
    l.all isEntryName = true := by
  cases l with
  | nil => rfl
  | cons n ns => exact d.names _ ((get?_eq_some_iff (by simp)).1 h)

theorem nameIn?_eq_some_iff {parent l : Location} {n : String} :
    nameIn? parent l = some n ↔ l = parent ++ [n] := by
  unfold nameIn?
  constructor
  · intro h
    split at h
    · next hp =>
      obtain ⟨ys, rfl⟩ := List.getLast?_eq_some_iff.1 h
      simp_all
    · simp at h
  · rintro rfl
    simp

-- A directory holds the names at which something lies in it.
theorem mem_children_iff {d : Disk} {l : Location} {n : String} :
    n ∈ d.children l ↔ (d.get? (l ++ [n])).isSome := by
  simp only [children, List.mem_filterMap, nameIn?_eq_some_iff, Option.isSome_iff_exists,
    get?_eq_some_iff (List.append_ne_nil_of_right_ne_nil _ (List.cons_ne_nil _ _))]
  constructor
  · rintro ⟨x, hx, h⟩
    exact ⟨x.2, by rw [← h]; exact hx⟩
  · rintro ⟨e, he⟩
    exact ⟨_, he, rfl⟩

theorem nodup_children (d : Disk) (l : Location) : (d.children l).Nodup := by
  have h := d.nodup
  unfold children
  generalize d.entries = es at h ⊢
  induction es with
  | nil => simp
  | cons x es ih =>
    rw [List.map_cons, List.nodup_cons] at h
    cases hx : nameIn? l x.1 with
    | none => simpa [List.filterMap_cons, hx] using ih h.2
    | some n =>
      simp only [List.filterMap_cons, hx, List.nodup_cons]
      refine ⟨fun hm => ?_, ih h.2⟩
      obtain ⟨y, hy, hn⟩ := List.mem_filterMap.1 hm
      have : y.1 = x.1 := (nameIn?_eq_some_iff.1 hn).trans (nameIn?_eq_some_iff.1 hx).symm
      exact h.1 (List.mem_map.2 ⟨y, hy, this⟩)

end Disk
end Scaffold
