import RpcRouting.Regex.Semantics

namespace RpcRouting.Regex

open Unicode

variable {text : List Char} {a b e : Expr} {i j k : Nat}

theorem Spans.bounds (h : Spans text e i j) : i ≤ j ∧ j ≤ text.length := by
  induction h with
  | empty i hi => exact ⟨Nat.le_refl i, hi⟩
  | one set i c hc hset => exact ⟨Nat.le_succ i, (List.getElem?_eq_some_iff.mp hc).1⟩
  | anchor condition i hi ha => exact ⟨Nat.le_refl i, hi⟩
  | seq ha hb iha ihb => exact ⟨Nat.le_trans iha.1 ihb.1, ihb.2⟩
  | left ha ih => exact ih
  | right hb ih => exact ih
  | stop a extra i hi => exact ⟨Nat.le_refl i, hi⟩
  | again ha hrest iha ihrest => exact ⟨Nat.le_trans iha.1 ihrest.1, ihrest.2⟩
  | more hextra ha hrest iha ihrest => exact ⟨Nat.le_trans iha.1 ihrest.1, ihrest.2⟩

theorem spans_empty_iff : Spans text .empty i k ↔ i = k ∧ i ≤ text.length := by
  constructor
  · intro h
    cases h with
    | empty i hi => exact ⟨rfl, hi⟩
  · rintro ⟨rfl, hi⟩
    exact .empty i hi

theorem spans_one_iff {set : CharSet} :
    Spans text (.one set) i k ↔ k = i + 1 ∧ ∃ c, text[i]? = some c ∧ set.contains c := by
  constructor
  · intro h
    cases h with
    | one set i c hc hset => exact ⟨rfl, c, hc, hset⟩
  · rintro ⟨rfl, c, hc, hset⟩
    exact .one set i c hc hset

theorem spans_anchor_iff {condition : Anchor} :
    Spans text (.anchor condition) i k ↔
      i = k ∧ i ≤ text.length ∧ condition.holds (gapAt text i) := by
  constructor
  · intro h
    cases h with
    | anchor condition i hi ha => exact ⟨rfl, hi, ha⟩
  · rintro ⟨rfl, hi, ha⟩
    exact .anchor condition i hi ha

theorem spans_seq_iff :
    Spans text (.seq a b) i k ↔ ∃ j, Spans text a i j ∧ Spans text b j k := by
  constructor
  · intro h
    cases h with
    | seq ha hb => exact ⟨_, ha, hb⟩
  · rintro ⟨j, ha, hb⟩
    exact .seq ha hb

theorem spans_alt_iff :
    Spans text (.alt a b) i k ↔ Spans text a i k ∨ Spans text b i k := by
  constructor
  · intro h
    cases h with
    | left ha => exact .inl ha
    | right hb => exact .inr hb
  · rintro (ha | hb)
    · exact .left ha
    · exact .right hb

-- An expression matches so many times in a row.
def Times (text : List Char) (e : Expr) : Nat → Nat → Nat → Prop
  | 0, i, k => i = k ∧ i ≤ text.length
  | n + 1, i, k => ∃ j, Spans text e i j ∧ Times text e n j k

theorem Times.bounds {n : Nat} (h : Times text e n i k) : i ≤ k ∧ k ≤ text.length := by
  induction n generalizing i with
  | zero =>
    obtain ⟨rfl, hi⟩ := h
    exact ⟨Nat.le_refl i, hi⟩
  | succ n ih =>
    obtain ⟨j, ha, hrest⟩ := h
    exact ⟨Nat.le_trans ha.bounds.1 (ih hrest).1, (ih hrest).2⟩

theorem times_add_iff {m n : Nat} :
    Times text e (m + n) i k ↔ ∃ j, Times text e m i j ∧ Times text e n j k := by
  induction m generalizing i with
  | zero =>
    rw [Nat.zero_add]
    constructor
    · intro h
      exact ⟨i, ⟨rfl, Nat.le_trans h.bounds.1 h.bounds.2⟩, h⟩
    · rintro ⟨j, ⟨rfl, -⟩, h⟩
      exact h
  | succ m ih =>
    rw [Nat.succ_add]
    simp only [Times, ih]
    constructor
    · rintro ⟨l, ha, j, hm, hn⟩
      exact ⟨j, ⟨l, ha, hm⟩, hn⟩
    · rintro ⟨j, ⟨l, ha, hm⟩, hn⟩
      exact ⟨l, ha, j, hm, hn⟩

theorem times_one_iff : Times text e 1 i k ↔ Spans text e i k := by
  constructor
  · rintro ⟨j, ha, rfl, -⟩
    exact ha
  · intro h
    exact ⟨k, h, rfl, h.bounds.2⟩

-- A repetition is what has to be there, and then as much more as is allowed.
theorem spans_rep_iff {least : Nat} {extra : Option Nat} :
    Spans text (.rep a least extra) i k ↔
      ∃ j, Times text a least i j ∧ Spans text (.rep a 0 extra) j k := by
  induction least generalizing i with
  | zero =>
    constructor
    · intro h
      exact ⟨i, ⟨rfl, Nat.le_trans h.bounds.1 h.bounds.2⟩, h⟩
    · rintro ⟨j, ⟨rfl, -⟩, h⟩
      exact h
  | succ least ih =>
    constructor
    · intro h
      cases h with
      | again ha hrest =>
        obtain ⟨j, ht, hr⟩ := ih.mp hrest
        exact ⟨j, ⟨_, ha, ht⟩, hr⟩
    · rintro ⟨j, ⟨l, ha, ht⟩, hr⟩
      exact .again ha (ih.mpr ⟨j, ht, hr⟩)

theorem spans_extra_zero_iff :
    Spans text (.rep a 0 (some 0)) i k ↔ i = k ∧ i ≤ text.length := by
  constructor
  · intro h
    cases h with
    | stop a extra i hi => exact ⟨rfl, hi⟩
    | more hextra ha hrest => exact absurd rfl hextra
  · rintro ⟨rfl, hi⟩
    exact .stop a _ i hi

theorem spans_extra_succ_iff {n : Nat} :
    Spans text (.rep a 0 (some (n + 1))) i k ↔
      (i = k ∧ i ≤ text.length) ∨
        ∃ j, Spans text a i j ∧ Spans text (.rep a 0 (some n)) j k := by
  constructor
  · intro h
    cases h with
    | stop a extra i hi => exact .inl ⟨rfl, hi⟩
    | more hextra ha hrest => exact .inr ⟨_, ha, hrest⟩
  · rintro (⟨rfl, hi⟩ | ⟨j, ha, hrest⟩)
    · exact .stop a _ i hi
    · exact .more (by simp) ha hrest

theorem Spans.extra_succ {n : Nat} (h : Spans text (.rep a 0 (some n)) i k) :
    Spans text (.rep a 0 (some (n + 1))) i k := by
  induction n generalizing i with
  | zero => exact spans_extra_succ_iff.mpr (.inl (spans_extra_zero_iff.mp h))
  | succ n ih =>
    rw [spans_extra_succ_iff] at h ⊢
    rcases h with h | ⟨j, ha, hrest⟩
    · exact .inl h
    · exact .inr ⟨j, ha, ih hrest⟩

-- Up to `n` times is `n` times the expression or nothing.
theorem times_optional_iff {n : Nat} :
    Times text (.alt a .empty) n i k ↔ Spans text (.rep a 0 (some n)) i k := by
  induction n generalizing i with
  | zero => exact spans_extra_zero_iff.symm
  | succ n ih =>
    simp only [Times, ih, spans_alt_iff, spans_empty_iff]
    constructor
    · rintro ⟨j, ha | ⟨rfl, -⟩, hrest⟩
      · exact spans_extra_succ_iff.mpr (.inr ⟨j, ha, hrest⟩)
      · exact hrest.extra_succ
    · intro h
      rcases spans_extra_succ_iff.mp h with ⟨rfl, hi⟩ | ⟨j, ha, hrest⟩
      · exact ⟨i, .inr ⟨rfl, hi⟩, .stop a _ i hi⟩
      · exact ⟨j, .inl ha, hrest⟩

-- An unbounded repetition that gets somewhere has a first round that does.
theorem Spans.exists_round (h : Spans text (.rep a 0 none) i k) (hlt : i < k) :
    ∃ j, i < j ∧ Spans text a i j ∧ Spans text (.rep a 0 none) j k := by
  generalize he : Expr.rep a 0 none = e at h
  induction h with
  | stop a extra i hi => exact absurd hlt (Nat.lt_irrefl i)
  | @more a' extra i j k hextra ha hrest iha ihrest =>
    cases he
    rcases Nat.eq_or_lt_of_le ha.bounds.1 with rfl | hj
    · exact ihrest hlt rfl
    · exact ⟨j, hj, ha, hrest⟩
  | _ => cases he

theorem Spans.round (ha : Spans text a i j) (hrest : Spans text (.rep a 0 none) j k) :
    Spans text (.rep a 0 none) i k :=
  .more (by simp) ha hrest

end RpcRouting.Regex
