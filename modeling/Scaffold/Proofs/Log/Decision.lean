import Mathlib.Data.List.Lex
import Mathlib.Data.List.MinMax
import Mathlib.Data.List.Nodup
import Mathlib.Data.Prod.Lex
import Mathlib.Data.String.Basic
import Scaffold.Log.Filter

namespace Scaffold.Log

namespace Selector

variable {a b : Selector} {e : Event}

-- A selector without a target is less specific than any with one.
def size (s : Selector) : Nat :=
  (s.target.map fun t => t.utf8ByteSize + 1).getD 0

-- The length of the target counts most, then the number of fields, then their names.
def specificity (s : Selector) : ℕ ×ₗ ℕ ×ₗ List String :=
  toLex (s.size, toLex (s.fields.length, s.fields))

theorem precedes_iff : a.precedes b = true ↔ b.specificity ≤ a.specificity := by
  simp only [specificity, Prod.Lex.toLex_le_toLex, eq_comm (a := b.size), eq_comm (a := b.fields.length)]
  simp [precedes, size]

-- Of two prefixes of one text the shorter one is a prefix of the longer one.
theorem eq_of_prefix_of_utf8ByteSize_eq {p q : String} {t : List Char} (hp : p.toList <+: t) (hq : q.toList <+: t)
    (h : p.utf8ByteSize = q.utf8ByteSize) : p = q := by
  wlog hpq : p.toList <+: q.toList generalizing p q
  case inr =>
    have hqp := (List.prefix_or_prefix_of_prefix hp hq).resolve_left hpq
    exact (this hq hp h.symm hqp).symm
  obtain ⟨r, hr⟩ := hpq
  have hq : q = p ++ String.ofList r := by simp [←String.toList_inj, ←hr]
  have hr : (String.ofList r).utf8ByteSize = 0 := by
    rw [hq, String.utf8ByteSize_append] at h
    omega
  rw [hq, String.utf8ByteSize_eq_zero_iff.mp hr, String.append_empty]

theorem selects_iff :
    a.selects e = true ↔ (∀ t ∈ a.target, t.toList <+: e.target.toList) ∧
      ∀ f ∈ a.fields, f = "message" ∨ f ∈ e.fields := by
  cases h : a.target <;> simp [selects, matchesTarget, h]

-- Targets of one event are prefixes of the same text, so that their lengths tell them apart.
theorem target_eq_of_size_eq (ha : a.selects e = true) (hb : b.selects e = true) (h : a.size = b.size) :
    a.target = b.target := by
  have ha := (selects_iff.mp ha).1
  have hb := (selects_iff.mp hb).1
  cases hta : a.target <;> cases htb : b.target <;> simp [size, hta, htb] at h ⊢
  case some.some p q => exact eq_of_prefix_of_utf8ByteSize_eq (ha p hta) (hb q htb) h

-- The order of field names settles all other ties.
theorem eq_of_precedes (ha : a.selects e = true) (hb : b.selects e = true) (hab : a.precedes b = true)
    (hba : b.precedes a = true) : a = b := by
  have h := le_antisymm (precedes_iff.mp hba) (precedes_iff.mp hab)
  simp only [specificity, toLex_inj, Prod.mk.injEq] at h
  obtain ⟨hsize, -, hfields⟩ := h
  rw [Selector.mk.injEq]
  exact ⟨target_eq_of_size_eq ha hb hsize, hfields⟩

end Selector

namespace Filter

variable {f : Filter} {e : Event} {d d' : Selector × Threshold} {a : Directive} {text : String}
variable {env : Environment} {c : Config}

-- A filter has one directive for each of its selectors.
def Distinct (f : Filter) : Prop :=
  (f.map Prod.fst).Nodup

-- The directive is about the event, and none that is about it is more specific.
structure Decides (f : Filter) (e : Event) (d : Selector × Threshold) : Prop where
  mem      : d ∈ f
  selects  : d.1.selects e = true
  precedes : ∀ d' ∈ f, d'.1.selects e = true → d.1.precedes d'.1 = true

theorem Decides.unique (hf : f.Distinct) (h : f.Decides e d) (h' : f.Decides e d') : d = d' := by
  have hs : d.1 = d'.1 :=
    Selector.eq_of_precedes h.selects h'.selects (h.precedes _ h'.mem h'.selects) (h'.precedes _ h.mem h.selects)
  exact List.inj_on_of_nodup_map hf h.mem h'.mem hs

theorem decisive?_eq_argmax (f : Filter) (e : Event) :
    f.decisive? e = (f.filter fun d => d.1.selects e).argmax fun d => d.1.specificity := by
  rw [decisive?, List.argmax]
  congr 1
  funext best d
  cases best
  case none => rfl
  case some b => simp [List.argAux, Selector.precedes_iff, ←not_lt]

theorem decides_of_decisive? (h : f.decisive? e = some d) : f.Decides e d := by
  rw [decisive?_eq_argmax] at h
  have hd := List.mem_filter.mp <| List.argmax_mem h
  refine ⟨hd.1, hd.2, fun d' hm hs => Selector.precedes_iff.mpr ?_⟩
  have hm : d' ∈ f.filter fun d => d.1.selects e := List.mem_filter.mpr ⟨hm, hs⟩
  exact List.le_of_mem_argmax (f := fun d => d.1.specificity) hm h

theorem exists_decisive?_of_mem (hm : d ∈ f) (hs : d.1.selects e = true) : ∃ d', f.decisive? e = some d' := by
  rw [←Option.ne_none_iff_exists', decisive?_eq_argmax, Ne, List.argmax_eq_none]
  exact List.ne_nil_of_mem <| List.mem_filter.mpr ⟨hm, hs⟩

theorem decisive?_eq_some_iff (hf : f.Distinct) : f.decisive? e = some d ↔ f.Decides e d := by
  refine ⟨decides_of_decisive?, fun h => ?_⟩
  obtain ⟨d', hd'⟩ := exists_decisive?_of_mem h.mem h.selects
  rwa [h.unique hf <| decides_of_decisive? hd']

theorem passes_iff (hf : f.Distinct) : f.passes e = true ↔ ∃ d, f.Decides e d ∧ d.2.passes e.level = true := by
  simp only [passes, Option.any_eq_true, decisive?_eq_some_iff hf]

theorem distinct_nil : Distinct [] :=
  List.nodup_nil

theorem distinct_ofLevel (t : Threshold) : (ofLevel t).Distinct :=
  List.nodup_singleton _

-- A directive takes the place of the one with its selector and leaves all others.
theorem mem_add_iff (ha : a.dynamic = false) :
    d ∈ f.add a ↔ d = (a.selector, a.threshold) ∨ d ∈ f ∧ d.1 ≠ a.selector := by
  simp [add, ha]

theorem add_of_dynamic (ha : a.dynamic = true) : f.add a = f :=
  if_pos ha

theorem Distinct.add (hf : f.Distinct) (a : Directive) : (f.add a).Distinct := by
  cases ha : a.dynamic
  case true  => rwa [add_of_dynamic ha]
  case false =>
    rw [Distinct, Filter.add, if_neg (by simp [ha]), List.map_cons, List.nodup_cons]
    exact ⟨by simp, hf.sublist <| List.filter_sublist.map _⟩

theorem Distinct.addAll (hf : f.Distinct) (as : List Directive) : (as.foldl Filter.add f).Distinct := by
  induction as generalizing f
  case nil          => exact hf
  case cons a as ih => exact ih <| hf.add a

theorem distinct_of_parse? (h : parse? text = some f) : f.Distinct := by
  obtain ⟨as, -, h⟩ := Option.bind_eq_some_iff.mp h
  split at h <;> cases h
  case isTrue  => exact distinct_ofLevel _
  case isFalse => exact distinct_nil.addAll as

theorem ofConfig_of_parse? (h : (env.lookup "RUST_LOG").bind parse? = some f) (c : Config) :
    ofConfig env c = ((directives c.targets).filterMap Prod.snd).foldl Filter.add f := by
  rw [ofConfig, h, Option.getD_some]

theorem ofConfig_of_level (h : (env.lookup "RUST_LOG").bind parse? = none) (c : Config) :
    ofConfig env c =
      ((directives c.targets).filterMap Prod.snd).foldl Filter.add (ofLevel (.upTo (.ofText c.level))) := by
  rw [ofConfig, h, Option.getD_none]

theorem distinct_ofConfig (env : Environment) (c : Config) : (ofConfig env c).Distinct := by
  cases h : (env.lookup "RUST_LOG").bind parse?
  case none =>
    rw [ofConfig_of_level h]
    exact (distinct_ofLevel _).addAll _
  case some f =>
    obtain ⟨text, -, hp⟩ := Option.bind_eq_some_iff.mp h
    rw [ofConfig_of_parse? h]
    exact (distinct_of_parse? hp).addAll _

end Filter

end Scaffold.Log
