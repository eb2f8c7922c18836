import Scaffold.CommandLine.Render
import Scaffold.Proofs.Text.Octets

namespace Scaffold

open Text

variable {spelling : Spelling} {path : String} {set : ArtifactSet} {l : Listing} {s : Snapshot}

namespace Spelling

-- Only the octets of a text are read as one.
def IsText (spelling : Spelling) (path : String) : Prop :=
  ∃ text, spelling path = octets text

theorem isSome_text?_iff : (spelling.text? path).isSome = true ↔ spelling.IsText path := by
  simp only [text?, IsText, Option.isSome_iff_exists, ofOctets?_eq_some_iff]

end Spelling

theorem isSome_mapM_iff {α β : Type} {f : α → Option β} {xs : List α} :
    (xs.mapM f).isSome = true ↔ ∀ x ∈ xs, (f x).isSome = true := by
  induction xs
  case nil => simp
  case cons x xs ih =>
    rw [List.mapM_cons, List.forall_mem_cons, ←ih]
    cases f x <;> cases xs.mapM f <;> simp

namespace CommandLine

-- Serialization comes down to the paths, all else is text already.
theorem isSome_jsonOfSet?_iff :
    (jsonOfSet? spelling set).isSome = true ↔
      ∀ path ∈ [set.protocolPath, set.servicePath, set.modelPath], spelling.IsText path := by
  simp only [List.forall_mem_cons, ←Spelling.isSome_text?_iff, jsonOfSet?]
  cases spelling.text? set.protocolPath <;> cases spelling.text? set.servicePath <;>
    cases spelling.text? set.modelPath <;> simp

theorem isSome_jsonOfListing?_iff :
    (jsonOfListing? spelling l).isSome = true ↔
      ∀ set ∈ l.services, ∀ path ∈ [set.protocolPath, set.servicePath, set.modelPath], spelling.IsText path := by
  simp only [←isSome_jsonOfSet?_iff, ←isSome_mapM_iff, jsonOfListing?]
  cases l.services.mapM (jsonOfSet? spelling) <;> simp

theorem isSome_jsonOfSnapshot?_iff :
    (jsonOfSnapshot? spelling s).isSome = true ↔ spelling.IsText s.root := by
  rw [←Spelling.isSome_text?_iff, jsonOfSnapshot?]
  cases spelling.text? s.root <;> simp

end CommandLine
end Scaffold
