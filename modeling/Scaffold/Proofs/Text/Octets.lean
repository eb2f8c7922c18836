import Scaffold.Text.Octets
import Mathlib.Tactic.IntervalCases

namespace Scaffold.Text

theorem toList_loop_eq (b : ByteArray) (i : Nat) (r : List UInt8) :
    ByteArray.toList.loop b i r = r.reverse ++ b.data.toList.drop i := by
  fun_induction ByteArray.toList.loop b i r
  case case1 i r h ih =>
    have hd : b.data.toList.drop i = b.get! i :: b.data.toList.drop (i + 1) := by
      rw [List.drop_eq_getElem_cons (by simpa using h)]
      simp [ByteArray.get!, h]
    simp [ih, hd]
  case case2 i r h =>
    rw [List.drop_eq_nil_of_le (by simpa using h), List.append_nil]

theorem octets_eq (s : String) : octets s = s.toList.flatMap String.utf8EncodeChar := by
  rw [octets, String.toUTF8, ByteArray.toList, toList_loop_eq, ←String.utf8Encode_toList,
    List.utf8Encode, List.toList_data_toByteArray]
  simp

namespace Lead

theorem of?_one {n : Nat} (h : n < 0x80) : of? (UInt8.ofNat n) = some ⟨n, 0x80, 0xBF, 0⟩ := by
  have hn : (UInt8.ofNat n).toNat = n := by simp; omega
  have hb : UInt8.ofNat n < 0x80 := by simpa [UInt8.lt_iff_toNat_lt, hn] using h
  rw [of?, if_pos hb, hn]

theorem of?_two {n : Nat} (h : 2 ≤ n) (h' : n < 0x20) :
    of? (UInt8.ofNat (n + 0xC0)) = some ⟨n, 0x80, 0xBF, 1⟩ := by
  interval_cases n <;> rfl

-- The octet after E0 leaves out what fits in two octets, the one after ED the surrogates.
theorem of?_three {n : Nat} (h : n < 0x10) :
    of? (UInt8.ofNat (n + 0xE0)) =
      some ⟨n, if n = 0 then 0xA0 else 0x80, if n = 0xD then 0x9F else 0xBF, 2⟩ := by
  interval_cases n <;> rfl

-- The octet after F0 leaves out what fits in three octets, the one after F4 what is no character.
theorem of?_four {n : Nat} (h : n < 5) :
    of? (UInt8.ofNat (n + 0xF0)) =
      some ⟨n, if n = 0 then 0x90 else 0x80, if n = 4 then 0x8F else 0xBF, 3⟩ := by
  interval_cases n <;> rfl

end Lead

theorem follow_cons {low high : UInt8} {more bits n : Nat} {rest : Octets} (h : n < 0x40)
    (hl : low.toNat ≤ n + 0x80) (hh : n + 0x80 ≤ high.toNat) :
    follow low high (more + 1) bits (UInt8.ofNat (n + 0x80) :: rest) =
      follow 0x80 0xBF more (bits * 64 + n) rest := by
  have hn : (UInt8.ofNat (n + 0x80)).toNat = n + 0x80 := by simp; omega
  rw [follow, if_pos (by simp only [UInt8.le_iff_toNat_le, hn]; omega), hn]
  simp

theorem characters_cons {b : UInt8} {l : Lead} {acc : List (Option Char)} {rest : Octets}
    (h : Lead.of? b = some l) :
    characters acc (b :: rest) =
      characters ((follow l.low l.high l.more l.bits rest).1.map Char.ofNat :: acc)
        (follow l.low l.high l.more l.bits rest).2 := by
  rw [characters]
  simp [h]

variable {v : Nat} {acc : List (Option Char)} {rest : Octets}

theorem characters_one (h : v ≤ 0x7F) :
    characters acc (UInt8.ofNat v :: rest) = characters (some (Char.ofNat v) :: acc) rest := by
  rw [characters_cons <| Lead.of?_one <| by omega]
  simp [follow]

theorem characters_two (h : 0x7F < v) (h' : v ≤ 0x7FF) :
    characters acc
        (UInt8.ofNat (v / 64 % 0x20 + 0xC0) :: UInt8.ofNat (v % 0x40 + 0x80) :: rest) =
      characters (some (Char.ofNat v) :: acc) rest := by
  have hbits : v / 64 % 0x20 * 64 + v % 0x40 = v := by omega
  rw [characters_cons <| Lead.of?_two (by omega) (by omega),
    follow_cons (by omega) (by simp) (by simp; omega)]
  simp [follow, hbits]

theorem characters_three (h : 0x7FF < v) (h' : v ≤ 0xFFFF) (hv : v < 0xD800 ∨ 0xDFFF < v) :
    characters acc
        (UInt8.ofNat (v / 4096 % 0x10 + 0xE0) :: UInt8.ofNat (v / 64 % 0x40 + 0x80) ::
          UInt8.ofNat (v % 0x40 + 0x80) :: rest) =
      characters (some (Char.ofNat v) :: acc) rest := by
  have hbits : (v / 4096 % 0x10 * 64 + v / 64 % 0x40) * 64 + v % 0x40 = v := by omega
  rw [characters_cons <| Lead.of?_three <| by omega,
    follow_cons (by omega) (by dsimp only; split <;> simp; omega)
      (by dsimp only; split <;> simp <;> omega),
    follow_cons (by omega) (by simp) (by simp; omega)]
  simp [follow, hbits]

theorem characters_four (h : 0xFFFF < v) (h' : v < 0x110000) :
    characters acc
        (UInt8.ofNat (v / 262144 % 0x08 + 0xF0) :: UInt8.ofNat (v / 4096 % 0x40 + 0x80) ::
          UInt8.ofNat (v / 64 % 0x40 + 0x80) :: UInt8.ofNat (v % 0x40 + 0x80) :: rest) =
      characters (some (Char.ofNat v) :: acc) rest := by
  have hlead : v / 262144 % 0x08 < 5 := by omega
  have hbits : ((v / 262144 % 0x08 * 64 + v / 4096 % 0x40) * 64 + v / 64 % 0x40) * 64 + v % 0x40 = v := by
    omega
  rw [characters_cons <| Lead.of?_four hlead,
    follow_cons (by omega) (by dsimp only; split <;> simp; omega)
      (by dsimp only; split <;> simp <;> omega),
    follow_cons (by omega) (by simp) (by simp; omega),
    follow_cons (by omega) (by simp) (by simp; omega)]
  simp [follow, hbits]

theorem characters_utf8EncodeChar (c : Char) (acc : List (Option Char)) (rest : Octets) :
    characters acc (String.utf8EncodeChar c ++ rest) = characters (some c :: acc) rest := by
  -- A character is no surrogate and lies below U+110000.
  have hv : c.val.toNat < 0xD800 ∨ 0xDFFF < c.val.toNat ∧ c.val.toNat < 0x110000 := c.valid
  conv_rhs => rw [←Char.ofNat_toNat c, Char.toNat]
  simp only [String.utf8EncodeChar]
  split
  case isTrue h => exact characters_one h
  case isFalse h₁ =>
    split
    case isTrue h => exact characters_two (by omega) h
    case isFalse h₂ =>
      split
      case isTrue h   => exact characters_three (by omega) h (by omega)
      case isFalse h₃ => exact characters_four (by omega) (by omega)

theorem characters_flatMap (cs : List Char) (acc : List (Option Char)) :
    characters acc (cs.flatMap String.utf8EncodeChar) = acc.reverse ++ cs.map some := by
  induction cs generalizing acc
  case nil => simp [characters]
  case cons c cs ih => simp [characters_utf8EncodeChar, ih]

@[simp]
theorem ofOctets_octets (s : String) : ofOctets (octets s) = s := by
  rw [ofOctets, octets_eq, characters_flatMap]
  simp [Function.comp_def]

section Reading

variable {b low high : UInt8} {l : Lead} {more bits : Nat} {rest' s : Octets} {cs : List Char} {t : String}

-- The octets of a character, by its number.
theorem utf8EncodeChar_ofNat (h : v.isValidChar) :
    String.utf8EncodeChar (Char.ofNat v) =
      if v ≤ 0x7F then [UInt8.ofNat v]
      else if v ≤ 0x7FF then [UInt8.ofNat (v / 64 % 0x20 + 0xC0), UInt8.ofNat (v % 0x40 + 0x80)]
      else if v ≤ 0xFFFF then
        [UInt8.ofNat (v / 4096 % 0x10 + 0xE0), UInt8.ofNat (v / 64 % 0x40 + 0x80), UInt8.ofNat (v % 0x40 + 0x80)]
      else
        [UInt8.ofNat (v / 262144 % 0x08 + 0xF0), UInt8.ofNat (v / 4096 % 0x40 + 0x80),
          UInt8.ofNat (v / 64 % 0x40 + 0x80), UInt8.ofNat (v % 0x40 + 0x80)] := by
  have hv : (Char.ofNat v).val.toNat = v := by
    rw [Char.ofNat, dif_pos h]
    rfl
  rw [String.utf8EncodeChar, hv]

theorem utf8EncodeChar_one {n : Nat} (hn : n < 0x80) :
    String.utf8EncodeChar (Char.ofNat n) = [UInt8.ofNat n] := by
  rw [utf8EncodeChar_ofNat (by omega), if_pos (by omega)]

theorem utf8EncodeChar_two {n m : Nat} (hn : 2 ≤ n) (hn' : n < 0x20) (hm : m < 0x40) :
    String.utf8EncodeChar (Char.ofNat (n * 64 + m)) = [UInt8.ofNat (n + 0xC0), UInt8.ofNat (m + 0x80)] := by
  have h₁ : (n * 64 + m) / 64 % 0x20 = n := by omega
  have h₂ : (n * 64 + m) % 0x40 = m := by omega
  rw [utf8EncodeChar_ofNat (by omega), if_neg (by omega), if_pos (by omega), h₁, h₂]

theorem utf8EncodeChar_three {n m k : Nat} (hn : n < 0x10) (hm : m < 0x40) (hk : k < 0x40)
    (hfirst : n = 0 → 0x20 ≤ m) (hlast : n = 0xD → m < 0x20) :
    String.utf8EncodeChar (Char.ofNat ((n * 64 + m) * 64 + k)) =
      [UInt8.ofNat (n + 0xE0), UInt8.ofNat (m + 0x80), UInt8.ofNat (k + 0x80)] := by
  have h₁ : ((n * 64 + m) * 64 + k) / 4096 % 0x10 = n := by omega
  have h₂ : ((n * 64 + m) * 64 + k) / 64 % 0x40 = m := by omega
  have h₃ : ((n * 64 + m) * 64 + k) % 0x40 = k := by omega
  rw [utf8EncodeChar_ofNat (by omega), if_neg (by omega), if_neg (by omega), if_pos (by omega), h₁, h₂, h₃]

theorem utf8EncodeChar_four {n m k i : Nat} (hn : n < 5) (hm : m < 0x40) (hk : k < 0x40) (hi : i < 0x40)
    (hfirst : n = 0 → 0x10 ≤ m) (hlast : n = 4 → m < 0x10) :
    String.utf8EncodeChar (Char.ofNat (((n * 64 + m) * 64 + k) * 64 + i)) =
      [UInt8.ofNat (n + 0xF0), UInt8.ofNat (m + 0x80), UInt8.ofNat (k + 0x80), UInt8.ofNat (i + 0x80)] := by
  have h₁ : (((n * 64 + m) * 64 + k) * 64 + i) / 262144 % 0x08 = n := by omega
  have h₂ : (((n * 64 + m) * 64 + k) * 64 + i) / 4096 % 0x40 = m := by omega
  have h₃ : (((n * 64 + m) * 64 + k) * 64 + i) / 64 % 0x40 = k := by omega
  have h₄ : (((n * 64 + m) * 64 + k) * 64 + i) % 0x40 = i := by omega
  rw [utf8EncodeChar_ofNat (by omega), if_neg (by omega), if_neg (by omega), if_neg (by omega), h₁, h₂, h₃, h₄]

-- What the first octet of a sequence says, by the length of the sequence.
theorem Lead.of?_eq_some (h : of? b = some l) :
    (0x80 ≤ l.low.toNat ∧ l.high.toNat ≤ 0xBF) ∧
    ((l.more = 0 ∧ b.toNat = l.bits ∧ l.bits < 0x80) ∨
      (l.more = 1 ∧ b.toNat = l.bits + 0xC0 ∧ 2 ≤ l.bits ∧ l.bits < 0x20) ∨
      (l.more = 2 ∧ b.toNat = l.bits + 0xE0 ∧ l.bits < 0x10 ∧ (l.bits = 0 → l.low.toNat = 0xA0) ∧
        (l.bits = 0xD → l.high.toNat = 0x9F)) ∨
      (l.more = 3 ∧ b.toNat = l.bits + 0xF0 ∧ l.bits < 5 ∧ (l.bits = 0 → l.low.toNat = 0x90) ∧
        (l.bits = 4 → l.high.toNat = 0x8F))) := by
  unfold of? at h
  simp only [UInt8.lt_iff_toNat_lt, beq_iff_eq, ←UInt8.toNat_inj] at h
  repeat' split at h
  all_goals simp only [Option.some.injEq, reduceCtorEq] at h
  all_goals
    subst h
    simp only [UInt8.reduceToNat] at *
    simp
  all_goals omega

theorem follow_eq_some (hlow : 0x80 ≤ low.toNat) (hhigh : high.toNat ≤ 0xBF)
    (h : follow low high (more + 1) bits rest = (some v, rest')) :
    ∃ n tail, rest = UInt8.ofNat (n + 0x80) :: tail ∧ n < 0x40 ∧ low.toNat ≤ n + 0x80 ∧ n + 0x80 ≤ high.toNat ∧
      follow 0x80 0xBF more (bits * 64 + n) tail = (some v, rest') := by
  cases rest
  case nil => simp [follow] at h
  case cons c tail =>
    rw [follow] at h
    split at h
    case isFalse => simp at h
    case isTrue hc =>
      simp only [UInt8.le_iff_toNat_le] at hc
      have hn : c.toNat - 0x80 + 0x80 = c.toNat := by omega
      exact ⟨c.toNat - 0x80, tail, by rw [hn, UInt8.ofNat_toNat], by omega, by omega, by omega, h⟩

theorem follow_zero_eq_some_iff :
    follow low high 0 bits rest = (some v, rest') ↔ bits = v ∧ rest = rest' := by
  simp [follow]

-- What is read as a character is what the character is written as.
theorem eq_utf8EncodeChar_append (h : Lead.of? b = some l)
    (hf : follow l.low l.high l.more l.bits rest = (some v, rest')) :
    b :: rest = String.utf8EncodeChar (Char.ofNat v) ++ rest' := by
  obtain ⟨⟨hlow, hhigh⟩, ⟨hmore, hb, hl⟩ | ⟨hmore, hb, hl, hl'⟩ | ⟨hmore, hb, hl, hfirst, hlast⟩ |
    ⟨hmore, hb, hl, hfirst, hlast⟩⟩ := Lead.of?_eq_some h
  all_goals
    rw [hmore] at hf
    rw [←UInt8.ofNat_toNat (x := b), hb]
  case inl =>
    obtain ⟨rfl, rfl⟩ := follow_zero_eq_some_iff.mp hf
    rw [utf8EncodeChar_one hl]
    rfl
  case inr.inl =>
    obtain ⟨m, tail, rfl, hm, -, -, hf⟩ := follow_eq_some hlow hhigh hf
    obtain ⟨rfl, rfl⟩ := follow_zero_eq_some_iff.mp hf
    rw [utf8EncodeChar_two hl hl' hm]
    rfl
  case inr.inr.inl =>
    obtain ⟨m, tail, rfl, hm, hm', hm'', hf⟩ := follow_eq_some hlow hhigh hf
    obtain ⟨k, tail, rfl, hk, -, -, hf⟩ := follow_eq_some (by decide) (by decide) hf
    obtain ⟨rfl, rfl⟩ := follow_zero_eq_some_iff.mp hf
    rw [utf8EncodeChar_three hl hm hk (by omega) (by omega)]
    rfl
  case inr.inr.inr =>
    obtain ⟨m, tail, rfl, hm, hm', hm'', hf⟩ := follow_eq_some hlow hhigh hf
    obtain ⟨k, tail, rfl, hk, -, -, hf⟩ := follow_eq_some (by decide) (by decide) hf
    obtain ⟨i, tail, rfl, hi, -, -, hf⟩ := follow_eq_some (by decide) (by decide) hf
    obtain ⟨rfl, rfl⟩ := follow_zero_eq_some_iff.mp hf
    rw [utf8EncodeChar_four hl hm hk hi (by omega) (by omega)]
    rfl

-- What was read stays in front.
theorem exists_characters_eq (acc : List (Option Char)) (s : Octets) :
    ∃ xs, characters acc s = acc.reverse ++ xs := by
  fun_induction characters acc s
  case case1 acc => exact ⟨[], (List.append_nil _).symm⟩
  all_goals
    rename_i ih
    obtain ⟨xs, hxs⟩ := ih
    exact ⟨_ :: xs, by rw [hxs, List.reverse_cons, List.append_assoc]; rfl⟩

theorem ofOctets_eq_empty_iff : ofOctets s = "" ↔ s = [] := by
  cases s
  case nil => simp [ofOctets, characters]
  case cons b rest =>
    obtain ⟨x, s', hx⟩ : ∃ x s', characters [] (b :: rest) = characters [x] s' := by
      rw [characters]
      split
      all_goals exact ⟨_, _, rfl⟩
    obtain ⟨xs, hxs⟩ := exists_characters_eq [x] s'
    rw [ofOctets, hx, hxs]
    simp

theorem eq_flatMap_of_characters (h : characters acc s = acc.reverse ++ cs.map some) :
    s = cs.flatMap String.utf8EncodeChar := by
  fun_induction characters acc s generalizing cs
  case case1 acc =>
    have hcs : cs = [] := by simpa using h
    rw [hcs, List.flatMap_nil]
  case case2 acc b rest hb ih =>
    obtain ⟨xs, hxs⟩ := exists_characters_eq (none :: acc) rest
    rw [hxs] at h
    cases cs <;> simp at h
  case case3 acc b rest l hb r ih =>
    obtain ⟨xs, hxs⟩ := exists_characters_eq (r.1.map Char.ofNat :: acc) r.2
    cases hv : r.1
    case none =>
      rw [hxs, hv] at h
      cases cs <;> simp at h
    case some v =>
      have hc := h
      rw [hxs, hv] at hc
      obtain ⟨rfl⟩ | ⟨c, cs⟩ := cs
      · simp at hc
      · obtain ⟨rfl, -⟩ : Char.ofNat v = c ∧ xs = cs.map some := by simpa using hc
        have hrest : r.2 = cs.flatMap String.utf8EncodeChar := ih <| by simpa [hv] using h
        rw [eq_utf8EncodeChar_append hb (Prod.ext hv rfl), List.flatMap_cons, ←hrest]

theorem map_some_filterMap {xs : List (Option Char)} (h : xs.all Option.isSome = true) :
    (xs.filterMap id).map some = xs := by
  induction xs
  case nil => rfl
  case cons x xs ih => cases x <;> simp_all

theorem ofOctets?_eq_some_iff : ofOctets? s = some t ↔ s = octets t := by
  constructor
  case mp =>
    intro h
    simp only [ofOctets?, Option.ite_none_right_eq_some, Option.some.injEq] at h
    obtain ⟨hall, rfl⟩ := h
    rw [octets_eq, String.toList_ofList]
    exact eq_flatMap_of_characters (map_some_filterMap hall).symm
  case mpr =>
    rintro rfl
    simp [ofOctets?, octets_eq, characters_flatMap]

end Reading

section Order

variable {a b : Char} {s t : List Char} {x y : String} {r r' : Octets} {m n : Nat}

theorem ofNat_cons_lt_iff (hm : m < 256) (hn : n < 256) :
    UInt8.ofNat m :: r < UInt8.ofNat n :: r' ↔ m < n ∨ m = n ∧ r < r' := by
  have heq : UInt8.ofNat m = UInt8.ofNat n ↔ m = n := by
    rw [←UInt8.toNat_inj, UInt8.toNat_ofNat_of_lt' hm, UInt8.toNat_ofNat_of_lt' hn]
  rw [List.cons_lt_cons_iff, UInt8.ofNat_lt_iff_lt hm hn, heq]

-- A later character has the greater octets, whatever follows. The lead tells the length of the sequence, and
-- sequences of one length are numbers in base 64.
theorem utf8EncodeChar_append_lt (h : a < b) (r r' : Octets) :
    String.utf8EncodeChar a ++ r < String.utf8EncodeChar b ++ r' := by
  have hv : a.val.toNat < b.val.toNat := h
  have hb : b.val.toNat < 0xD800 ∨ 0xDFFF < b.val.toNat ∧ b.val.toNat < 0x110000 := b.valid
  have hthird (v : Nat) : v / 4096 = v / 64 / 64 := by omega
  have hfourth (v : Nat) : v / 262144 = v / 64 / 64 / 64 := by omega
  simp only [String.utf8EncodeChar, hthird, hfourth]
  repeat' split
  all_goals
    simp (disch := omega) only [List.cons_append, List.nil_append, ofNat_cons_lt_iff]
    omega

theorem flatMap_utf8EncodeChar_lt (h : s < t) :
    s.flatMap String.utf8EncodeChar < t.flatMap String.utf8EncodeChar := by
  replace h := List.lex_lt.mpr h
  induction h
  case nil c cs =>
    obtain ⟨o, os, ho⟩ := List.exists_cons_of_ne_nil (String.utf8EncodeChar_ne_nil (c := c))
    rw [List.flatMap_cons, ho, List.flatMap_nil, List.cons_append]
    exact List.nil_lt_cons ..
  case cons ih => exact List.append_left_lt ih
  case rel h   => exact utf8EncodeChar_append_lt h ..

theorem octets_lt_octets (h : x < y) : octets x < octets y := by
  rw [octets_eq, octets_eq]
  exact flatMap_utf8EncodeChar_lt <| String.lt_iff.mp h

end Order

end Scaffold.Text
