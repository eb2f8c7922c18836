import Scaffold.Artifact.Inventory
import Scaffold.Proofs.Disk.Walk
import Scaffold.Proofs.Text.Identifier

namespace Scaffold

open Text

variable {name x y ext ext' : String} {n s t : List Char}

-- An extension that is what stands behind the last dot of a name. Extensions as layouts have them by default
-- are words.
structure IsExtension (ext : String) : Prop where
  ne_empty : ext ≠ ""
  dot : '.' ∉ ext.toList
  slash : '/' ∉ ext.toList

theorem isExtension_of_isIdentifier (h : isIdentifier ext.toList = true) : IsExtension ext where
  ne_empty := ne_empty_of_isIdentifier h
  dot := not_mem_of_isIdentifier h (by decide)
  slash := not_mem_of_isIdentifier h (by decide)

namespace Path

theorem stemAndExtension_append (hs : s ≠ []) (ht : '.' ∉ t) (hn : s ++ '.' :: t ≠ ['.', '.']) :
    stemAndExtension (s ++ '.' :: t) = (s, some t) := by
  have hcut : cut '.' (s ++ '.' :: t).reverse = some (t.reverse, s.reverse) :=
    cut_eq_some_iff.mpr ⟨by simp, by simpa using ht⟩
  obtain ⟨c, cs, hr⟩ := List.exists_cons_of_ne_nil <| List.reverse_ne_nil_iff.mpr hs
  rw [stemAndExtension, hcut, hr]
  simp only [if_neg hn, ←hr, List.reverse_reverse]

theorem eq_of_stemAndExtension (h : stemAndExtension n = (s, some t)) :
    n = s ++ '.' :: t ∧ s ≠ [] ∧ '.' ∉ t := by
  rw [stemAndExtension] at h
  split at h
  case h_2 => simp at h
  case h_1 a c b hcut =>
    split at h
    case isTrue => simp at h
    case isFalse =>
      obtain ⟨hr, hdot⟩ := cut_eq_some_iff.mp hcut
      obtain ⟨rfl, rfl⟩ : (c :: b).reverse = s ∧ a.reverse = t := by simpa using h
      exact ⟨by simpa using congrArg List.reverse hr, by simp, by simpa using hdot⟩

theorem eq_fileName_of_extension? (h : extension? name = some ext) :
    name = Inventory.fileName (stem name) ext ∧ stem name ≠ "" := by
  rw [extension?, Option.map_eq_some_iff] at h
  obtain ⟨t, ht, rfl⟩ := h
  obtain ⟨hn, hs, -⟩ := eq_of_stemAndExtension (Prod.ext rfl ht : stemAndExtension name.toList = (_, some t))
  rw [Inventory.fileName, stem, ←String.toList_inj]
  exact ⟨by simpa using hn, by simpa using hs⟩

theorem not_dot_mem_of_extension? (h : extension? name = some ext) : '.' ∉ ext.toList := by
  rw [extension?, Option.map_eq_some_iff] at h
  obtain ⟨t, ht, rfl⟩ := h
  obtain ⟨-, -, hdot⟩ := eq_of_stemAndExtension (Prod.ext rfl ht : stemAndExtension name.toList = (_, some t))
  rwa [String.toList_ofList]

end Path

namespace Inventory

theorem toList_fileName : (fileName x ext).toList = x.toList ++ '.' :: ext.toList := by
  simp [fileName]

section Extension

variable (hx : x ≠ "") (he : IsExtension ext)

include hx he

-- The dot stands between two parts that are not empty.
theorem three_le_length_fileName : 3 ≤ (fileName x ext).toList.length := by
  have hs : 0 < x.toList.length := List.length_pos_of_ne_nil <| by simpa using hx
  have ht : 0 < ext.toList.length := List.length_pos_of_ne_nil <| by simpa using he.ne_empty
  rw [toList_fileName, List.length_append, List.length_cons]
  omega

theorem stemAndExtension_fileName :
    Path.stemAndExtension (fileName x ext).toList = (x.toList, some ext.toList) := by
  have hlen := three_le_length_fileName hx he
  rw [toList_fileName] at hlen ⊢
  refine Path.stemAndExtension_append (by simpa using hx) he.dot fun h => ?_
  rw [h] at hlen
  contradiction

theorem stem_fileName : Path.stem (fileName x ext) = x := by
  rw [Path.stem, stemAndExtension_fileName hx he, String.ofList_toList]

theorem extension?_fileName : Path.extension? (fileName x ext) = some ext := by
  rw [Path.extension?, stemAndExtension_fileName hx he, Option.map_some, String.ofList_toList]

end Extension

theorem stem_extension?_iff (he : IsExtension ext) :
    Path.stem name = x ∧ Path.extension? name = some ext ↔ x ≠ "" ∧ name = fileName x ext := by
  constructor
  case mp =>
    rintro ⟨rfl, h⟩
    exact (Path.eq_fileName_of_extension? h).symm
  case mpr =>
    rintro ⟨hx, rfl⟩
    exact ⟨stem_fileName hx he, extension?_fileName hx he⟩

theorem fileName_inj (hx : x ≠ "") (hy : y ≠ "") (he : IsExtension ext) (he' : IsExtension ext') :
    fileName x ext = fileName y ext' ↔ x = y ∧ ext = ext' := by
  constructor
  case mpr =>
    rintro ⟨rfl, rfl⟩
    rfl
  case mp =>
    intro h
    have hs := congrArg Path.stem h
    have ht := congrArg Path.extension? h
    rw [stem_fileName hx he, stem_fileName hy he'] at hs
    rw [extension?_fileName hx he, extension?_fileName hy he'] at ht
    exact ⟨hs, Option.some.inj ht⟩

theorem isEntryName_fileName (hx : x ≠ "") (he : IsExtension ext) (hslash : '/' ∉ x.toList)
    (hnul : '\x00' ∉ (fileName x ext).toList) : isEntryName (fileName x ext) = true := by
  have hlen := three_le_length_fileName hx he
  refine Disk.isEntryName_iff.mpr ⟨?_, ?_, ?_, ?slash, hnul⟩
  case slash =>
    rw [toList_fileName]
    simp [hslash, he.slash]
  all_goals
    intro h
    rw [h] at hlen
    contradiction

theorem isEntryName_fileName_of_isIdentifier (hx : isIdentifier x.toList = true)
    (he : isIdentifier ext.toList = true) : isEntryName (fileName x ext) = true := by
  have hnul : isWordChar '\x00' = false := by decide
  refine isEntryName_fileName (ne_empty_of_isIdentifier hx) (isExtension_of_isIdentifier he)
    (not_mem_of_isIdentifier hx (by decide)) ?_
  simp [toList_fileName, not_mem_of_isIdentifier hx hnul, not_mem_of_isIdentifier he hnul]

end Inventory
end Scaffold
