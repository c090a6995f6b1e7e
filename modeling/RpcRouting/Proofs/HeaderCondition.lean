import RpcRouting.Route.RouteMatch
import Mathlib.Data.List.Induction
import Mathlib.Tactic.MkIffOfInductiveProp

namespace RpcRouting

-- A natural number in decimal notation: its digits, after any number of zeros.
def IsNumeral (digits : List Char) (n : Nat) : Prop :=
  ∃ zeros, digits = List.replicate zeros '0' ++ Nat.toDigits 10 n

-- A decimal integer of any size, with or without one sign.
@[mk_iff]
inductive Denotes (text : String) : Int → Prop where
  | unsigned {n : Nat} (h : IsNumeral text.toList n) : Denotes text n
  | positive {digits : List Char} {n : Nat} (ht : text.toList = '+' :: digits)
    (h : IsNumeral digits n) : Denotes text n
  | negative {digits : List Char} {n : Nat} (ht : text.toList = '-' :: digits)
    (h : IsNumeral digits n) : Denotes text (-n)

variable {text : String} {digits : List Char} {n : Nat}

theorem ofDigitChars_replicate_zero (zeros : Nat) :
    Nat.ofDigitChars 10 (List.replicate zeros '0') 0 = 0 := by
  induction zeros with
  | zero => rfl
  | succ zeros ih =>
    rw [List.replicate_succ, Nat.ofDigitChars_cons]
    exact ih

theorem IsNumeral.ofDigitChars_eq (h : IsNumeral digits n) :
    Nat.ofDigitChars 10 digits 0 = n := by
  obtain ⟨zeros, rfl⟩ := h
  rw [Nat.ofDigitChars_append, ofDigitChars_replicate_zero,
    Nat.ofDigitChars_toDigits (by decide) (by decide)]

theorem IsNumeral.unique {n' : Nat} (h : IsNumeral digits n) (h' : IsNumeral digits n') : n = n' :=
  h.ofDigitChars_eq.symm.trans h'.ofDigitChars_eq

theorem IsNumeral.isDigit (h : IsNumeral digits n) {c : Char} (hc : c ∈ digits) :
    c.isDigit = true := by
  obtain ⟨zeros, rfl⟩ := h
  rcases List.mem_append.mp hc with hc | hc
  · rw [List.eq_of_mem_replicate hc]
    decide
  · exact Nat.isDigit_of_mem_toDigits (by decide) (by decide) hc

theorem IsNumeral.ne_nil (h : IsNumeral digits n) : digits ≠ [] := by
  obtain ⟨zeros, rfl⟩ := h
  exact List.append_ne_nil_of_right_ne_nil _ Nat.toDigits_ne_nil

theorem toDigits_of_isDigit {c : Char} (h : c.isDigit = true) :
    c.toNat - '0'.toNat < 10 ∧ Nat.toDigits 10 (c.toNat - '0'.toNat) = [c] := by
  rw [Char.isDigit, Bool.and_eq_true, decide_eq_true_iff, decide_eq_true_iff] at h
  have hlow : 48 ≤ c.toNat := UInt32.le_iff_toNat_le.mp h.1
  have hhigh : c.toNat ≤ 57 := UInt32.le_iff_toNat_le.mp h.2
  have hzero : '0'.toNat = 48 := rfl
  have hsmall : c.toNat - '0'.toNat < 10 := by omega
  have hchar : (c.toNat - '0'.toNat).digitChar = c := by
    apply Char.toNat_inj.mp
    rw [Nat.toNat_digitChar_of_lt_ten hsmall]
    omega
  exact ⟨hsmall, by rw [Nat.toDigits_of_lt_base hsmall, hchar]⟩

-- One more digit at the end. After zeros alone it is the first that counts.
theorem IsNumeral.append_digit (h : IsNumeral digits n) {c : Char} (hc : c.isDigit = true) :
    IsNumeral (digits ++ [c]) (10 * n + (c.toNat - '0'.toNat)) := by
  obtain ⟨zeros, rfl⟩ := h
  obtain ⟨hsmall, hc⟩ := toDigits_of_isDigit hc
  rcases Nat.eq_zero_or_pos n with rfl | hpos
  · refine ⟨zeros + 1, ?_⟩
    rw [Nat.mul_zero, Nat.zero_add, hc, Nat.toDigits_zero, List.replicate_succ']
  · refine ⟨zeros, ?_⟩
    rw [← Nat.toDigits_append_toDigits (by decide) hpos hsmall, hc, List.append_assoc]

-- Digits are a numeral, whichever they are.
theorem isNumeral_of_digits (hne : digits ≠ []) (h : ∀ c ∈ digits, c.isDigit = true) :
    IsNumeral digits (Nat.ofDigitChars 10 digits 0) := by
  induction digits using List.reverseRecOn with
  | nil => exact absurd rfl hne
  | append_singleton digits c ih =>
    have hlast : c.isDigit = true := h c (by simp)
    rw [Nat.ofDigitChars_append, Nat.ofDigitChars_cons, Nat.ofDigitChars_nil]
    by_cases hempty : digits = []
    · subst hempty
      refine ⟨0, ?_⟩
      rw [Nat.ofDigitChars_nil, Nat.mul_zero, Nat.zero_add, (toDigits_of_isDigit hlast).2]
      rfl
    · exact (ih hempty fun d hd => h d (List.mem_append_left _ hd)).append_digit hlast

theorem isNumeral_iff :
    IsNumeral digits n ↔
      digits ≠ [] ∧ (∀ c ∈ digits, c.isDigit = true) ∧ n = Nat.ofDigitChars 10 digits 0 := by
  constructor
  · intro h
    exact ⟨h.ne_nil, fun c => h.isDigit, h.ofDigitChars_eq.symm⟩
  · rintro ⟨hne, hall, rfl⟩
    exact isNumeral_of_digits hne hall

theorem toInt_ofInt_of_mem {m : Int} (hlow : Int64.minValue.toInt ≤ m)
    (hhigh : m ≤ Int64.maxValue.toInt) : (Int64.ofInt m).toInt = m := by
  rw [Int64.toInt_minValue] at hlow
  rw [Int64.toInt_maxValue] at hhigh
  exact Int64.toInt_ofInt_of_le hlow (by omega)

-- An integer that 64 bits hold is kept, and all others are refused.
theorem ofInt_eq_some_iff {m : Int} {result : Int64} :
    (if Int64.minValue.toInt ≤ m && m ≤ Int64.maxValue.toInt then some (Int64.ofInt m) else none) =
      some result ↔ result.toInt = m := by
  simp only [Bool.and_eq_true, decide_eq_true_iff]
  split
  · rename_i hm
    rw [Option.some.injEq, ← Int64.toInt_inj, toInt_ofInt_of_mem hm.1 hm.2, eq_comm]
  · rename_i hm
    simp only [reduceCtorEq, false_iff]
    rintro rfl
    exact hm ⟨result.minValue_le_toInt, result.toInt_le⟩

theorem parseDigits?_eq_some_iff {negative : Bool} {result : Int64} :
    parseDigits? negative digits = some result ↔
      ∃ n : Nat, IsNumeral digits n ∧ result.toInt = if negative then -(n : Int) else n := by
  have hdigits : (digits.isEmpty || !digits.all Char.isDigit) = true ↔
      ¬ (digits ≠ [] ∧ ∀ c ∈ digits, c.isDigit = true) := by
    rw [Bool.or_eq_true, List.isEmpty_iff, Bool.not_eq_true', ← Bool.not_eq_true, List.all_eq_true,
      not_and_or, not_not]
  rw [parseDigits?]
  simp only [hdigits, isNumeral_iff]
  by_cases h : digits ≠ [] ∧ ∀ c ∈ digits, c.isDigit = true
  · rw [if_neg (not_not.mpr h), ofInt_eq_some_iff]
    constructor
    · intro hresult
      exact ⟨_, ⟨h.1, h.2, rfl⟩, hresult⟩
    · rintro ⟨n, ⟨-, -, rfl⟩, hresult⟩
      exact hresult
  · rw [if_pos h]
    simp only [reduceCtorEq, false_iff]
    rintro ⟨n, ⟨hne, hall, -⟩, -⟩
    exact h ⟨hne, hall⟩

theorem not_isNumeral_cons {c : Char} (hc : c.isDigit = false) : ¬ IsNumeral (c :: digits) n := by
  intro h
  rw [h.isDigit List.mem_cons_self] at hc
  cases hc

-- No sign is a digit, so there are never two ways to read a text.
theorem denotes_minus_iff (ht : text.toList = '-' :: digits) {m : Int} :
    Denotes text m ↔ ∃ n : Nat, IsNumeral digits n ∧ m = -n := by
  have hsign : ∀ n, ¬ IsNumeral ('-' :: digits) n := fun n => not_isNumeral_cons (by decide)
  simp [denotes_iff, ht, hsign]

theorem denotes_plus_iff (ht : text.toList = '+' :: digits) {m : Int} :
    Denotes text m ↔ ∃ n : Nat, IsNumeral digits n ∧ m = n := by
  have hsign : ∀ n, ¬ IsNumeral ('+' :: digits) n := fun n => not_isNumeral_cons (by decide)
  simp [denotes_iff, ht, hsign]

theorem denotes_unsigned_iff (hminus : ∀ digits, text.toList ≠ '-' :: digits)
    (hplus : ∀ digits, text.toList ≠ '+' :: digits) {m : Int} :
    Denotes text m ↔ ∃ n : Nat, IsNumeral text.toList n ∧ m = n := by
  simp [denotes_iff, hminus, hplus]

theorem parseInt64?_eq_some_iff {result : Int64} :
    parseInt64? text = some result ↔ Denotes text result.toInt := by
  unfold parseInt64?
  split
  · rename_i digits ht
    rw [parseDigits?_eq_some_iff, denotes_minus_iff ht]
    rfl
  · rename_i digits ht
    rw [parseDigits?_eq_some_iff, denotes_plus_iff ht]
    rfl
  · rename_i hminus hplus
    rw [parseDigits?_eq_some_iff, denotes_unsigned_iff hminus hplus]
    rfl

-- A text denotes one integer at most, since its digits do and its sign is no part of them.
theorem Denotes.unique {m m' : Int} (h : Denotes text m) (h' : Denotes text m') : m = m' := by
  cases h with
  | unsigned h =>
    cases h' with
    | unsigned h' => rw [h.unique h']
    | positive ht h' =>
      obtain ⟨n, hn, heq⟩ := (denotes_plus_iff ht).mp (.unsigned h)
      rw [heq, hn.unique h']
    | negative ht h' =>
      obtain ⟨n, hn, heq⟩ := (denotes_minus_iff ht).mp (.unsigned h)
      rw [heq, hn.unique h']
  | positive ht h =>
    obtain ⟨n', hn', rfl⟩ := (denotes_plus_iff ht).mp h'
    rw [h.unique hn']
  | negative ht h =>
    obtain ⟨n', hn', rfl⟩ := (denotes_minus_iff ht).mp h'
    rw [h.unique hn']

-- Digits, at least one, with or without one sign before them.
def IsDecimal (text : String) : Prop :=
  ∃ sign digits, text.toList = sign ++ digits ∧ (sign = [] ∨ sign = ['+'] ∨ sign = ['-']) ∧
    digits ≠ [] ∧ ∀ c ∈ digits, c.isDigit = true

theorem isDecimal_iff : IsDecimal text ↔ ∃ m, Denotes text m := by
  constructor
  · rintro ⟨sign, digits, ht, hsign, hne, hall⟩
    have hn := isNumeral_of_digits hne hall
    rcases hsign with rfl | rfl | rfl
    · rw [List.nil_append] at ht
      exact ⟨_, .unsigned (ht ▸ hn)⟩
    · exact ⟨_, .positive ht hn⟩
    · exact ⟨_, .negative ht hn⟩
  · rintro ⟨m, h⟩
    cases h with
    | unsigned h => exact ⟨[], _, rfl, .inl rfl, h.ne_nil, fun c => h.isDigit⟩
    | positive ht h => exact ⟨['+'], _, ht, .inr (.inl rfl), h.ne_nil, fun c => h.isDigit⟩
    | negative ht h => exact ⟨['-'], _, ht, .inr (.inr rfl), h.ne_nil, fun c => h.isDigit⟩

theorem IsDecimal.comma_notMem (h : IsDecimal text) : ',' ∉ text.toList := by
  obtain ⟨sign, digits, ht, hsign, -, hall⟩ := h
  intro hc
  rw [ht] at hc
  rcases List.mem_append.mp hc with hc | hc
  · rcases hsign with rfl | rfl | rfl <;> revert hc <;> decide
  · exact absurd (hall ',' hc) (by decide)

-- Values that were joined are no number, whatever they are.
theorem Headers.not_isDecimal_of_joined {headers : Headers} {name : String}
    (hv : headers.value? name = some text) (hmany : 1 < (headers.textValues name).length) :
    ¬ IsDecimal text := by
  intro h
  apply h.comma_notMem
  unfold value? at hv
  split at hv
  · cases hv
  · split at hv
    · cases hv
    · cases hv
      rename_i values hne
      cases hvalues : headers.textValues name with
      | nil => exact absurd hvalues hne
      | cons first rest =>
        cases rest with
        | nil =>
          rw [hvalues] at hmany
          exact absurd hmany (Nat.lt_irrefl 1)
        | cons second rest => simp [String.toList_intercalate]

namespace IntRange

variable {bounds : IntRange}

-- The texts that a range admits: the decimal integers inside it, as far as 64 bits hold them.
def Admits (bounds : IntRange) (text : String) : Prop :=
  ∃ m, Denotes text m ∧ Int64.minValue.toInt ≤ m ∧ m ≤ Int64.maxValue.toInt ∧
    bounds.start.toInt ≤ m ∧ m < bounds.stop.toInt

theorem contains_iff {n : Int64} :
    bounds.contains n = true ↔ bounds.start.toInt ≤ n.toInt ∧ n.toInt < bounds.stop.toInt := by
  rw [contains, Bool.and_eq_true, decide_eq_true_iff, decide_eq_true_iff, Int64.le_iff_toInt_le,
    Int64.lt_iff_toInt_lt]

theorem any_contains_iff :
    (parseInt64? text).any bounds.contains = true ↔ bounds.Admits text := by
  rw [Option.any_eq_true]
  constructor
  · rintro ⟨n, hn, hinside⟩
    exact ⟨n.toInt, parseInt64?_eq_some_iff.mp hn, n.minValue_le_toInt, n.toInt_le,
      contains_iff.mp hinside⟩
  · rintro ⟨m, hm, hlow, hhigh, hinside⟩
    have hofInt := toInt_ofInt_of_mem hlow hhigh
    exact ⟨.ofInt m, parseInt64?_eq_some_iff.mpr (hofInt.symm ▸ hm),
      contains_iff.mpr (hofInt.symm ▸ hinside)⟩

end IntRange

-- Inversion turns a present value around, and an absent one only where presence itself is tested.
-- A range admits the decimal integers inside it and nothing else, so what is no such number, as
-- any values that were joined, is a match where the range is inverted.
theorem HeaderMatcher.inverts_and_reads_decimals (name : String) :
    (∀ test value,
      HeaderMatcher.accepts ⟨name, test, true⟩ (some value) =
        !HeaderMatcher.accepts ⟨name, test, false⟩ (some value)) ∧
    (∀ test invert, (∀ wanted, test ≠ .present wanted) →
      HeaderMatcher.accepts ⟨name, test, invert⟩ none = false) ∧
    (∀ wanted,
      HeaderMatcher.accepts ⟨name, .present wanted, false⟩ none = !wanted ∧
      HeaderMatcher.accepts ⟨name, .present wanted, true⟩ none = wanted) ∧
    (∀ bounds text,
      (HeaderMatcher.accepts ⟨name, .range bounds, false⟩ (some text) = true ↔
        bounds.Admits text) ∧
      (HeaderMatcher.accepts ⟨name, .range bounds, true⟩ (some text) = true ↔
        ¬ bounds.Admits text)) ∧
    (∀ text, (IsDecimal text → ∃ m, Denotes text m ∧ ∀ other, Denotes text other → other = m) ∧
      (¬ IsDecimal text → ∀ bounds : IntRange, ¬ bounds.Admits text)) ∧
    ∀ headers : Headers, ∀ text, headers.value? name = some text →
      1 < (headers.textValues name).length → ∀ bounds : IntRange, ¬ bounds.Admits text := by
  have hplain : ∀ test value, HeaderMatcher.accepts ⟨name, test, false⟩ (some value) =
      test.accepts value := fun test value => Bool.bne_false _
  have hinverted : ∀ test value, HeaderMatcher.accepts ⟨name, test, true⟩ (some value) =
      !test.accepts value := fun test value => Bool.bne_true _
  have hadmits : ∀ bounds text, (HeaderTest.range bounds).accepts text = true ↔
      bounds.Admits text := fun bounds text => IntRange.any_contains_iff
  have hnone : ∀ text, ¬ IsDecimal text → ∀ bounds : IntRange, ¬ bounds.Admits text := by
    rintro text h bounds ⟨m, hm, -⟩
    exact h (isDecimal_iff.mpr ⟨m, hm⟩)
  refine ⟨?_, ?_, ?_, ?_, ?_, ?_⟩
  · intro test value
    rw [hplain, hinverted]
  · intro test invert htest
    cases test with
    | present wanted => exact absurd rfl (htest wanted)
    | _ => rfl
  · intro wanted
    cases wanted <;> exact ⟨rfl, rfl⟩
  · intro bounds text
    rw [hplain, hinverted, Bool.not_eq_true', ← Bool.not_eq_true, hadmits]
    exact ⟨Iff.rfl, Iff.rfl⟩
  · intro text
    refine ⟨?_, hnone text⟩
    intro h
    obtain ⟨m, hm⟩ := isDecimal_iff.mp h
    exact ⟨m, hm, fun other ho => ho.unique hm⟩
  · intro headers text hv hmany
    exact hnone text (Headers.not_isDecimal_of_joined hv hmany)

-- The least integer of 64 bits, after zeros, and the next one below it, which is none of them.
example :
    let below : HeaderTest := .range ⟨Int64.minValue, 0⟩
    HeaderMatcher.accepts ⟨"level", below, false⟩ (some "-0009223372036854775808") = true ∧
      HeaderMatcher.accepts ⟨"level", below, false⟩ (some "-9223372036854775809") = false ∧
      HeaderMatcher.accepts ⟨"level", below, true⟩ (some "-9223372036854775809") = true := by
  decide

end RpcRouting
