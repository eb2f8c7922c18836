import Mathlib.Data.List.Perm.Basic
import Scaffold.CommandLine.Parser
import Scaffold.Proofs.Checks

namespace Scaffold

open Text

namespace CommandLine

namespace Setting

def text : Setting → String
  | root => "root"
  | config => "config"
  | http => "http"
  | body => "body"

theorem text_ne_nil (s : Setting) : s.text.toList ≠ [] := by
  cases s <;> decide

theorem not_mem_text (s : Setting) : '=' ∉ s.text.toList := by
  cases s <;> decide

end Setting

namespace Flag

def text : Flag → String
  | verbose => "verbose"
  | json => "json"
  | strict => "strict"
  | help => "help"
  | version => "version"

theorem text_ne_nil (f : Flag) : f.text.toList ≠ [] := by
  cases f <;> decide

theorem not_mem_text (f : Flag) : '=' ∉ f.text.toList := by
  cases f <;> decide

end Flag

-- One use of an option.
inductive Choice
  | set (s : Setting) (value : String)
  | raise (f : Flag)
deriving DecidableEq, Repr

namespace Choice

def name : Choice → String
  | set s _ => s.text
  | raise f => f.text

def word : Choice → String
  | set s value => "--" ++ s.text ++ "=" ++ value
  | raise f => "--" ++ f.text

def value? : Choice → Option String
  | set _ value => some value
  | raise _ => none

-- Whether it is an option for all commands.
def Shared : Choice → Prop
  | set .root _ | set .config _ | raise .verbose => True
  | _ => False

-- What reading an option asks of its value. Help and version end the reading.
def Valid : Choice → Prop
  | set .root value => value ≠ ""
  | set .config value => value ≠ ""
  | set _ _ => True
  | raise .help => False
  | raise .version => False
  | raise _ => True

end Choice

-- Where an option can stand.
def Level.Knows (l : Level) : Choice → Prop
  | .set s _ => l.setting? s.text = some s
  | .raise f => l.setting? f.text = none ∧ l.flag? f.text = some f

variable {l : Level} {g : Given} {o : Choice} {os : List Choice}

theorem Name.ofText?_text (n : Name) : Name.ofText? n.text = some n := by
  cases n <;> rfl

theorem isCommandWord_text (n : Name) : isCommandWord n.text = true := by
  simp [isCommandWord, Name.ofText?_text]

theorem isCommandWord_of_dash {arg : String} (h : arg.toList.head? = some '-') : isCommandWord arg = false := by
  by_contra hw
  simp only [isCommandWord, Bool.or_eq_true, beq_iff_eq, Bool.not_eq_false, Option.isSome_iff_exists] at hw
  obtain ⟨n, hn⟩ | rfl := hw
  case inl =>
    have ht : n.text = arg := eq_of_beq <| List.find?_some (p := fun m : Name => m.text == arg) hn
    subst ht
    cases n <;> contradiction
  case inr => contradiction

namespace Choice

theorem name_ne_nil (o : Choice) : o.name.toList ≠ [] := by
  cases o
  case set s _ => exact s.text_ne_nil
  case raise f => exact f.text_ne_nil

theorem not_mem_name (o : Choice) : '=' ∉ o.name.toList := by
  cases o
  case set s _ => exact s.not_mem_text
  case raise f => exact f.not_mem_text

theorem toList_word (o : Choice) :
    o.word.toList = '-' :: '-' :: (o.name.toList ++ (o.value?.map ('=' :: ·.toList)).getD []) := by
  cases o <;> simp [word, name, value?]

theorem isCommandWord_word (o : Choice) : isCommandWord o.word = false :=
  isCommandWord_of_dash <| by rw [toList_word]; rfl

-- The first equals sign is the one behind the name, so the value may have more of them.
theorem shape_word (o : Choice) : Shape.of o.word = .long o.name o.value? := by
  have hcut : cut '=' (o.name.toList ++ (o.value?.map ('=' :: ·.toList)).getD []) =
      o.value?.map fun value => (o.name.toList, value.toList) := by
    cases o.value?
    case none       => simpa [cut_eq_none_iff] using o.not_mem_name
    case some value => exact cut_eq_some_iff.mpr ⟨rfl, o.not_mem_name⟩
  obtain ⟨c, cs, hname⟩ := List.exists_cons_of_ne_nil o.name_ne_nil
  rw [Shape.of, toList_word]
  rw [hname, List.cons_append] at hcut ⊢
  simp only [hcut]
  cases o.value? <;> simp [←hname]

end Choice

theorem Level.knows_of_shared (l : Level) (h : o.Shared) : l.Knows o := by
  cases o
  case set s _ => cases s <;> first | contradiction | rfl
  case raise f =>
    cases f
    case verbose =>
      cases l
      case outer   => exact ⟨rfl, rfl⟩
      case inner n => cases n <;> exact ⟨rfl, rfl⟩
    all_goals contradiction

namespace Given

def take (g : Given) : Choice → Except Usage Given
  | .set s value => g.set s value
  | .raise f => g.raise f

def Has (g : Given) : Choice → Prop
  | .set s value => g.get? s = some value
  | .raise .verbose => g.verbose = true
  | .raise .json => g.json = true
  | .raise .strict => g.strict = true
  | .raise _ => False

-- These options were given, and nothing else was. No value is due.
structure Holds (g : Given) (os : List Choice) : Prop where
  options   : ∀ o, g.Has o ↔ o ∈ os
  arguments : g.arguments = []
  settled   : g.pending = none

theorem settle_of_settled (h : g.pending = none) : g.settle = .ok g := by
  rw [settle, h]

theorem holds_nil : Holds {} [] where
  options o := by
    refine iff_of_false ?_ List.not_mem_nil
    cases o
    case set s _ => cases s <;> simp [Has, get?]
    case raise f => cases f <;> simp [Has]
  arguments := rfl
  settled := rfl

-- What was given so far and one more option.
def put (g : Given) : Choice → Given
  | .set .root value => { g with root := some value }
  | .set .config value => { g with config := some value }
  | .set .http value => { g with http := some value }
  | .set .body value => { g with body := some value }
  | .raise .verbose => { g with verbose := true }
  | .raise .json => { g with json := true }
  | .raise .strict => { g with strict := true }
  | .raise _ => g

-- No value was given to the option yet.
def Free (g : Given) (o : Choice) : Prop :=
  ∀ o', g.Has o' → o'.name ≠ o.name

theorem Free.get?_eq_none {s : Setting} {value : String} (h : g.Free (.set s value)) : g.get? s = none := by
  by_contra hs
  obtain ⟨w, hw⟩ := Option.ne_none_iff_exists'.mp hs
  exact h (.set s w) hw rfl

theorem Free.not_has {f : Flag} (h : g.Free (.raise f)) : ¬g.Has (.raise f) :=
  fun hf => h _ hf rfl

theorem take_eq_put (hv : o.Valid) (hf : g.Free o) : g.take o = .ok (g.put o) := by
  cases o
  case set s value =>
    have hnone := hf.get?_eq_none
    cases s <;> simp_all [take, put, Given.set, Choice.Valid]
  case raise f =>
    have hnot := hf.not_has
    cases f <;> simp_all [take, put, Given.raise, Choice.Valid, Has]

theorem has_put (hv : o.Valid) (hf : g.Free o) (o' : Choice) : (g.put o).Has o' ↔ o' = o ∨ g.Has o' := by
  cases o
  case set s value =>
    have hnone := hf.get?_eq_none
    cases o'
    case set s' value' => cases s <;> cases s' <;> simp_all [Has, put, get?, eq_comm]
    case raise f' => cases s <;> cases f' <;> simp [Has, put]
  case raise f =>
    cases o'
    case set s' value' => cases f <;> cases s' <;> simp [Has, put, get?]
    case raise f' => cases f <;> cases f' <;> simp_all [Has, put, Choice.Valid]

theorem put_preserves_arguments (g : Given) (o : Choice) : (g.put o).arguments = g.arguments := by
  cases o
  case set s _ => cases s <;> rfl
  case raise f => cases f <;> rfl

theorem put_preserves_pending (g : Given) (o : Choice) : (g.put o).pending = g.pending := by
  cases o
  case set s _ => cases s <;> rfl
  case raise f => cases f <;> rfl

namespace Holds

theorem free (h : g.Holds os) (hn : o.name ∉ os.map Choice.name) : g.Free o := by
  intro o' ho' heq
  rw [←heq] at hn
  exact hn <| List.mem_map_of_mem <| (h.options o').mp ho'

theorem put (h : g.Holds os) (hv : o.Valid) (hf : g.Free o) : (g.put o).Holds (o :: os) where
  options o' := by rw [has_put hv hf, h.options, List.mem_cons]
  arguments := (g.put_preserves_arguments o).trans h.arguments
  settled := (g.put_preserves_pending o).trans h.settled

theorem perm {os' : List Choice} (h : g.Holds os) (hp : os.Perm os') : g.Holds os' where
  options o := (h.options o).trans hp.mem_iff
  arguments := h.arguments
  settled := h.settled

end Holds
end Given

theorem takeLong_eq_take (hk : l.Knows o) (hs : g.pending = none) : takeLong l g o.name o.value? = g.take o := by
  cases o
  case set s value =>
    have hk : l.setting? s.text = some s := hk
    simp [takeLong, Choice.name, Choice.value?, hk, Given.settle_of_settled hs, Given.take]
  case raise f =>
    have hk : l.setting? f.text = none ∧ l.flag? f.text = some f := hk
    simp [takeLong, Choice.name, Choice.value?, hk, Given.settle_of_settled hs, Given.take]

theorem scan_word (hk : l.Knows o) (hs : g.pending = none) (rest : List String) :
    scan l false g (o.word :: rest) = (g.take o >>= fun g' => scan l false g' rest) := by
  have hword (p : Prop) [Decidable p] : (if p then some o.word else none).filter isCommandWord = none := by
    split <;> simp [Option.filter, o.isCommandWord_word]
  rw [scan, if_neg Bool.false_ne_true]
  simp only [hword, o.shape_word, takeLong_eq_take hk hs]

-- Options are read one by one, each where it is free.
theorem Given.Holds.exists_scan (h : g.Holds os) (new : List Choice) (hk : ∀ o ∈ new, l.Knows o)
    (hv : ∀ o ∈ new, o.Valid) (hn : ((new ++ os).map Choice.name).Nodup) (rest : List String) :
    ∃ g', scan l false g (new.map Choice.word ++ rest) = scan l false g' rest ∧ g'.Holds (new ++ os) := by
  induction new generalizing g os
  case nil => exact ⟨g, rfl, h⟩
  case cons o new ih =>
    obtain ⟨hko, hk⟩ := List.forall_mem_cons.mp hk
    obtain ⟨hvo, hv⟩ := List.forall_mem_cons.mp hv
    have hp : (new ++ o :: os).Perm (o :: new ++ os) := List.perm_middle
    have hn' : ((new ++ o :: os).map Choice.name).Nodup := (hp.map Choice.name).nodup_iff.mpr hn
    have hfree : g.Free o := by
      refine h.free fun hm => (List.nodup_cons.mp hn).1 ?_
      exact List.map_subset _ (List.subset_append_right new os) hm
    obtain ⟨g', hscan, hg'⟩ := ih (h.put hvo hfree) hk hv hn'
    refine ⟨g', ?_, hg'.perm hp⟩
    rw [List.map_cons, List.cons_append, scan_word hko h.settled, Given.take_eq_put hvo hfree, ok_bind, hscan]

end CommandLine
end Scaffold
