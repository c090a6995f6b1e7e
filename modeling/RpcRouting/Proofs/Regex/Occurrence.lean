import RpcRouting.Regex.Marked
import RpcRouting.Proofs.Regex.Spans
import Mathlib.Tactic.Tauto

namespace RpcRouting.Regex

open Unicode

variable {text : List Char} {i j k : Nat}

namespace Marked

-- The expression under the marks.
def erase : Marked → Expr
  | .empty => .empty
  | .one set _ => .one set
  | .anchor condition => .anchor condition
  | .seq a b => .seq a.erase b.erase
  | .alt a b => .alt a.erase b.erase
  | .star a => .rep a.erase 0 none

-- A match begun earlier, of which a mark at gap `i` is a trace, can end at gap `k`.
def Resumes (text : List Char) : Marked → Nat → Nat → Prop
  | .empty, _, _ => False
  | .one _ mark, i, k => mark = true ∧ i = k
  | .anchor _, _, _ => False
  | .seq a b, i, k =>
    (∃ j, Resumes text a i j ∧ Spans text b.erase j k) ∨ Resumes text b i k
  | .alt a b, i, k => Resumes text a i k ∨ Resumes text b i k
  | .star a, i, k => ∃ j, Resumes text a i j ∧ Spans text (.rep a.erase 0 none) j k

theorem Resumes.bounds {m : Marked} (h : m.Resumes text i k) (hi : i ≤ text.length) :
    i ≤ k ∧ k ≤ text.length := by
  induction m generalizing i k with
  | empty => exact h.elim
  | one set mark =>
    obtain ⟨-, rfl⟩ := h
    exact ⟨Nat.le_refl i, hi⟩
  | anchor condition => exact h.elim
  | seq a b iha ihb =>
    rcases h with ⟨j, ha, hb⟩ | hb
    · exact ⟨Nat.le_trans (iha ha hi).1 hb.bounds.1, hb.bounds.2⟩
    · exact ihb hb hi
  | alt a b iha ihb =>
    rcases h with ha | hb
    · exact iha ha hi
    · exact ihb hb hi
  | star a ih =>
    obtain ⟨j, ha, hrest⟩ := h
    exact ⟨Nat.le_trans (ih ha hi).1 hrest.bounds.1, hrest.bounds.2⟩

theorem nullable_iff (m : Marked) (hi : i ≤ text.length) :
    (m.advance (gapAt text i)).nullable = true ↔ Spans text m.erase i i := by
  induction m with
  | empty => simp [advance, erase, spans_empty_iff, hi]
  | one set mark => simp [advance, erase, spans_one_iff]
  | anchor condition => simp [advance, erase, spans_anchor_iff, hi]
  | seq a b iha ihb =>
    simp only [advance, erase, Bool.and_eq_true, iha, ihb, spans_seq_iff]
    constructor
    · rintro ⟨ha, hb⟩
      exact ⟨i, ha, hb⟩
    · rintro ⟨j, ha, hb⟩
      have hj : j = i := Nat.le_antisymm hb.bounds.1 ha.bounds.1
      subst hj
      exact ⟨ha, hb⟩
  | alt a b iha ihb => simp only [advance, erase, Bool.or_eq_true, iha, ihb, spans_alt_iff]
  | star a ih => simp only [advance, erase, Spans.stop _ _ i hi]

theorem ends_iff (m : Marked) (hi : i ≤ text.length) :
    (m.advance (gapAt text i)).ends = true ↔ m.Resumes text i i := by
  induction m with
  | empty => simp [advance, Resumes]
  | one set mark => simp [advance, Resumes]
  | anchor condition => simp [advance, Resumes]
  | seq a b iha ihb =>
    simp only [advance, Resumes, Bool.or_eq_true, Bool.and_eq_true, iha, ihb, nullable_iff b hi]
    constructor
    · rintro (hb | ⟨ha, hb⟩)
      · exact .inr hb
      · exact .inl ⟨i, ha, hb⟩
    · rintro (⟨j, ha, hb⟩ | hb)
      · have hj : j = i := Nat.le_antisymm hb.bounds.1 (ha.bounds hi).1
        subst hj
        exact .inr ⟨ha, hb⟩
      · exact .inl hb
  | alt a b iha ihb => simp only [advance, Resumes, Bool.or_eq_true, iha, ihb]
  | star a ih =>
    simp only [advance, Resumes, ih]
    constructor
    · intro ha
      exact ⟨i, ha, .stop _ _ i hi⟩
    · rintro ⟨j, ha, hrest⟩
      have hj : j = i := Nat.le_antisymm hrest.bounds.1 (ha.bounds hi).1
      subst hj
      exact ha

@[simp] theorem erase_next (m : Marked) (gap : Gap) (entered : Bool) :
    ((m.advance gap).next entered).erase = m.erase := by
  induction m generalizing entered with
  | empty => rfl
  | one set mark => rfl
  | anchor condition => rfl
  | seq a b iha ihb => simp [advance, erase, iha, ihb]
  | alt a b iha ihb => simp [advance, erase, iha, ihb]
  | star a ih => simp [advance, erase, ih]

-- After the next character those matches go on that were under way, or that begin at this gap,
-- and that have not ended here.
theorem resumes_next_iff (m : Marked) (hi : i ≤ text.length) (entered : Bool) :
    ((m.advance (gapAt text i)).next entered).Resumes text (i + 1) k ↔
      i < k ∧ (m.Resumes text i k ∨ entered = true ∧ Spans text m.erase i k) := by
  induction m generalizing entered k with
  | empty =>
    simp only [advance, Resumes, erase, spans_empty_iff, false_iff]
    rintro ⟨hlt, hm | ⟨-, rfl, -⟩⟩
    · exact hm
    · exact Nat.lt_irrefl i hlt
  | one set mark =>
    simp only [advance, Resumes, erase, spans_one_iff, gapAt, Bool.and_eq_true,
      Option.any_eq_true]
    constructor
    · rintro ⟨⟨he, c, hc, hset⟩, rfl⟩
      exact ⟨Nat.lt_succ_self i, .inr ⟨he, rfl, c, hc, hset⟩⟩
    · rintro ⟨hlt, ⟨-, rfl⟩ | ⟨he, rfl, c, hc, hset⟩⟩
      · exact absurd hlt (Nat.lt_irrefl i)
      · exact ⟨⟨he, c, hc, hset⟩, rfl⟩
  | anchor condition =>
    simp only [advance, Resumes, erase, spans_anchor_iff, false_iff]
    rintro ⟨hlt, hm | ⟨-, rfl, -⟩⟩
    · exact hm
    · exact Nat.lt_irrefl i hlt
  | seq a b iha ihb =>
    simp only [advance, Resumes, erase, erase_next, iha, ihb, Bool.or_eq_true, Bool.and_eq_true,
      nullable_iff a hi, ends_iff a hi, spans_seq_iff]
    constructor
    · rintro (⟨j, ⟨hlt, ha | ⟨he, ha⟩⟩, hb⟩ | ⟨hlt, hb | ⟨⟨he, ha⟩ | ha, hb⟩⟩)
      · exact ⟨Nat.lt_of_lt_of_le hlt hb.bounds.1, .inl (.inl ⟨j, ha, hb⟩)⟩
      · exact ⟨Nat.lt_of_lt_of_le hlt hb.bounds.1, .inr ⟨he, j, ha, hb⟩⟩
      · exact ⟨hlt, .inl (.inr hb)⟩
      · exact ⟨hlt, .inr ⟨he, i, ha, hb⟩⟩
      · exact ⟨hlt, .inl (.inl ⟨i, ha, hb⟩)⟩
    · rintro ⟨hlt, (⟨j, ha, hb⟩ | hb) | ⟨he, j, ha, hb⟩⟩
      · rcases Nat.eq_or_lt_of_le (ha.bounds hi).1 with rfl | hj
        · exact .inr ⟨hlt, .inr ⟨.inr ha, hb⟩⟩
        · exact .inl ⟨j, ⟨hj, .inl ha⟩, hb⟩
      · exact .inr ⟨hlt, .inl hb⟩
      · rcases Nat.eq_or_lt_of_le ha.bounds.1 with rfl | hj
        · exact .inr ⟨hlt, .inr ⟨.inl ⟨he, ha⟩, hb⟩⟩
        · exact .inl ⟨j, ⟨hj, .inr ⟨he, ha⟩⟩, hb⟩
  | alt a b iha ihb =>
    simp only [advance, Resumes, erase, iha, ihb, spans_alt_iff]
    tauto
  | star a ih =>
    simp only [advance, Resumes, erase, erase_next, ih, Bool.or_eq_true, ends_iff a hi]
    constructor
    · rintro ⟨j, ⟨hlt, ha | ⟨he | hend, ha⟩⟩, hrest⟩
      · exact ⟨Nat.lt_of_lt_of_le hlt hrest.bounds.1, .inl ⟨j, ha, hrest⟩⟩
      · exact ⟨Nat.lt_of_lt_of_le hlt hrest.bounds.1, .inr ⟨he, ha.round hrest⟩⟩
      · exact ⟨Nat.lt_of_lt_of_le hlt hrest.bounds.1, .inl ⟨i, hend, ha.round hrest⟩⟩
    · rintro ⟨hlt, ⟨j, ha, hrest⟩ | ⟨he, hrest⟩⟩
      · rcases Nat.eq_or_lt_of_le (ha.bounds hi).1 with rfl | hj
        · obtain ⟨l, hl, hround, hothers⟩ := hrest.exists_round hlt
          exact ⟨l, ⟨hl, .inr ⟨.inr ha, hround⟩⟩, hothers⟩
        · exact ⟨j, ⟨hj, .inl ha⟩, hrest⟩
      · obtain ⟨l, hl, hround, hothers⟩ := hrest.exists_round hlt
        exact ⟨l, ⟨hl, .inr ⟨.inl he, hround⟩⟩, hothers⟩

-- From a gap on, some match ends: one that was under way, or one that begins later. The induction
-- is on the text that is left.
theorem occursFrom_iff (m : Marked) (hi : i ≤ text.length) {rest : List Char}
    (hrest : text.drop i = rest) :
    m.occursFrom (gapAt text i).before rest = true ↔
      ∃ k, m.Resumes text i k ∨ ∃ start, i ≤ start ∧ Spans text m.erase start k := by
  induction rest generalizing i m with
  | nil =>
    have hlen : text.length ≤ i := List.drop_eq_nil_iff.mp hrest
    have hgap : (⟨(gapAt text i).before, none⟩ : Gap) = gapAt text i := by
      simp [gapAt, hlen]
    simp only [occursFrom, hgap, Bool.or_eq_true, ends_iff m hi, nullable_iff m hi]
    constructor
    · rintro (hm | hm)
      · exact ⟨i, .inl hm⟩
      · exact ⟨i, .inr ⟨i, Nat.le_refl i, hm⟩⟩
    · rintro ⟨k, hm | ⟨start, hstart, hm⟩⟩
      · have hk : k = i := by
          have := hm.bounds hi
          omega
        subst hk
        exact .inl hm
      · have hk : start = i ∧ k = i := by
          have := hm.bounds
          omega
        obtain ⟨rfl, rfl⟩ := hk
        exact .inr hm
  | cons c rest ih =>
    have hc : text[i]? = some c := by rw [← List.head?_drop, hrest, List.head?_cons]
    have hlt : i < text.length := (List.getElem?_eq_some_iff.mp hc).1
    have hgap : (⟨(gapAt text i).before, some c⟩ : Gap) = gapAt text i := by simp [gapAt, hc]
    have hnext : some c = (gapAt text (i + 1)).before := by simp [gapAt, hc]
    have hdrop : text.drop (i + 1) = rest := by rw [← List.tail_drop, hrest, List.tail_cons]
    simp only [occursFrom, hgap, Bool.or_eq_true, ends_iff m hi, nullable_iff m hi]
    rw [hnext, ih _ hlt hdrop]
    simp only [resumes_next_iff m hi, erase_next, true_and]
    constructor
    · rintro ((hm | hm) | ⟨k, ⟨-, hm | hm⟩ | ⟨start, hstart, hm⟩⟩)
      · exact ⟨i, .inl hm⟩
      · exact ⟨i, .inr ⟨i, Nat.le_refl i, hm⟩⟩
      · exact ⟨k, .inl hm⟩
      · exact ⟨k, .inr ⟨i, Nat.le_refl i, hm⟩⟩
      · exact ⟨k, .inr ⟨start, Nat.le_of_succ_le hstart, hm⟩⟩
    · rintro ⟨k, hm | ⟨start, hstart, hm⟩⟩
      · rcases Nat.eq_or_lt_of_le (hm.bounds hi).1 with rfl | hk
        · exact .inl (.inl hm)
        · exact .inr ⟨k, .inl ⟨hk, .inl hm⟩⟩
      · rcases Nat.eq_or_lt_of_le hstart with rfl | hstart
        · rcases Nat.eq_or_lt_of_le hm.bounds.1 with rfl | hk
          · exact .inl (.inr hm)
          · exact .inr ⟨k, .inl ⟨hk, .inr hm⟩⟩
        · exact .inr ⟨k, .inr ⟨start, hstart, hm⟩⟩

theorem spans_power_iff (a : Marked) {fuel n : Nat} (hn : n ≤ fuel) :
    Spans text (power a fuel n).erase i k ↔ Times text a.erase n i k := by
  induction fuel generalizing n i k with
  | zero =>
    obtain rfl := Nat.le_zero.mp hn
    exact spans_empty_iff
  | succ fuel ih =>
    match n with
    | 0 => exact spans_empty_iff
    | 1 => exact times_one_iff.symm
    | n + 2 =>
      have htimes : Times text a.erase (n + 2) i k ↔
          ∃ j, Times text a.erase ((n + 2) / 2) i j ∧
            Times text a.erase (n + 2 - (n + 2) / 2) j k := by
        rw [← times_add_iff, Nat.add_sub_of_le (by omega)]
      have hleft : (n + 2) / 2 ≤ fuel := by omega
      have hright : n + 2 - (n + 2) / 2 ≤ fuel := by omega
      rw [htimes]
      simp only [power, erase, spans_seq_iff, ih hleft, ih hright]

theorem spans_copies_iff (a : Marked) {n : Nat} :
    Spans text (a.copies n).erase i k ↔ Times text a.erase n i k :=
  spans_power_iff a (Nat.le_refl n)

-- Copies of an expression without marks have none.
theorem not_resumes_copies {a : Marked} (h : ∀ i k, ¬ a.Resumes text i k) (n : Nat) :
    ¬ (a.copies n).Resumes text i k := by
  suffices hpower : ∀ fuel n i k, ¬ (power a fuel n).Resumes text i k from hpower n n i k
  intro fuel
  induction fuel with
  | zero => exact fun _ _ _ => id
  | succ fuel ih =>
    intro n i k
    match n with
    | 0 => exact id
    | 1 => exact h i k
    | n + 2 =>
      simp only [power, Resumes]
      rintro (⟨j, ha, -⟩ | hb)
      · exact ih _ i j ha
      · exact ih _ i k hb

end Marked

namespace Expr

open Marked

-- No match is under way before the text.
theorem not_resumes_unmarked (e : Expr) (i k : Nat) : ¬ e.unmarked.Resumes text i k := by
  induction e generalizing i k with
  | empty => exact id
  | one set => exact fun h => Bool.false_ne_true h.1
  | anchor condition => exact id
  | seq a b iha ihb =>
    rintro (⟨j, ha, -⟩ | hb)
    · exact iha i j ha
    · exact ihb i k hb
  | alt a b iha ihb =>
    rintro (ha | hb)
    · exact iha i k ha
    · exact ihb i k hb
  | rep a least extra ih =>
    cases extra with
    | none =>
      rintro (⟨j, ha, -⟩ | ⟨j, ha, -⟩)
      · exact not_resumes_copies ih least ha
      · exact ih i j ha
    | some extra =>
      have hoptional : ∀ i k, ¬ a.unmarked.optional.Resumes text i k := by
        rintro i k (ha | hb)
        · exact ih i k ha
        · exact hb
      rintro (⟨j, ha, -⟩ | hb)
      · exact not_resumes_copies ih least ha
      · exact not_resumes_copies hoptional extra hb

theorem times_congr {a b : Expr} (h : ∀ i k, Spans text a i k ↔ Spans text b i k) (n : Nat) :
    Times text a n i k ↔ Times text b n i k := by
  induction n generalizing i with
  | zero => exact Iff.rfl
  | succ n ih => simp only [Times, h, ih]

theorem spans_star_congr {a b : Expr} (h : ∀ i k, Spans text a i k → Spans text b i k)
    (hs : Spans text (.rep a 0 none) i k) : Spans text (.rep b 0 none) i k := by
  generalize he : Expr.rep a 0 none = e at hs
  induction hs with
  | stop a' extra i hi =>
    cases he
    exact .stop b none i hi
  | @more a' extra i j k hextra ha hrest iha ihrest =>
    cases he
    exact (h i j ha).round (ihrest rfl)
  | _ => cases he

theorem spans_unmarked_iff (e : Expr) (i k : Nat) :
    Spans text e.unmarked.erase i k ↔ Spans text e i k := by
  induction e generalizing i k with
  | empty => exact Iff.rfl
  | one set => exact Iff.rfl
  | anchor condition => exact Iff.rfl
  | seq a b iha ihb => simp only [unmarked, erase, spans_seq_iff, iha, ihb]
  | alt a b iha ihb => simp only [unmarked, erase, spans_alt_iff, iha, ihb]
  | rep a least extra ih =>
    rw [spans_rep_iff]
    cases extra with
    | none =>
      have hstar : ∀ i k, Spans text (.rep a.unmarked.erase 0 none) i k ↔
          Spans text (.rep a 0 none) i k := fun i k =>
        ⟨spans_star_congr fun i k => (ih i k).mp, spans_star_congr fun i k => (ih i k).mpr⟩
      simp only [unmarked, erase, spans_seq_iff, spans_copies_iff, times_congr ih, hstar]
    | some extra =>
      have hoptional : ∀ i k, Spans text (.alt a.unmarked.erase .empty) i k ↔
          Spans text (.alt a .empty) i k := by
        intro i k
        simp only [spans_alt_iff, ih]
      simp only [unmarked, erase, Marked.optional, spans_seq_iff, spans_copies_iff, times_congr ih,
        times_congr hoptional, times_optional_iff]

-- The search finds a match exactly when there is one.
theorem occurs_iff (e : Expr) (text : List Char) : e.occurs text = true ↔ Occurs e text := by
  have h := occursFrom_iff e.unmarked (Nat.zero_le text.length) List.drop_zero
  rw [Expr.occurs]
  simp only [not_resumes_unmarked, spans_unmarked_iff, false_or, Nat.zero_le, true_and] at h
  rw [show none = (gapAt text 0).before from rfl, h]
  constructor
  · rintro ⟨k, i, hm⟩
    exact ⟨i, k, hm⟩
  · rintro ⟨i, k, hm⟩
    exact ⟨k, i, hm⟩

end Expr

instance (e : Expr) (text : List Char) : Decidable (Occurs e text) :=
  decidable_of_iff _ (e.occurs_iff text)

theorem holds_textStart_iff (hi : i ≤ text.length) :
    Anchor.textStart.holds (gapAt text i) = true ↔ i = 0 := by
  cases i with
  | zero => simp [Anchor.holds, gapAt]
  | succ i =>
    have hlt : i < text.length := hi
    simp [Anchor.holds, gapAt, hlt]

theorem holds_textEnd_iff (hi : i ≤ text.length) :
    Anchor.textEnd.holds (gapAt text i) = true ↔ i = text.length := by
  simp only [Anchor.holds, gapAt, Option.isNone_iff_eq_none, List.getElem?_eq_none_iff]
  omega

-- An expression between the two ends of the text.
def Expr.whole (e : Expr) : Expr := .seq (.anchor .textStart) (.seq e (.anchor .textEnd))

-- Between the two ends of the text, some part is all of it.
theorem occurs_whole_iff (e : Expr) (text : List Char) : Occurs e.whole text ↔ Covers e text := by
  simp only [Occurs, Covers, Expr.whole, spans_seq_iff, spans_anchor_iff]
  constructor
  · rintro ⟨i, k, j, ⟨rfl, hi, hstart⟩, l, hm, rfl, hl, hend⟩
    obtain rfl := (holds_textStart_iff hi).mp hstart
    obtain rfl := (holds_textEnd_iff hl).mp hend
    exact hm
  · intro hm
    exact ⟨0, text.length, 0, ⟨rfl, Nat.zero_le _, (holds_textStart_iff (Nat.zero_le _)).mpr rfl⟩,
      text.length, hm, rfl, Nat.le_refl _, (holds_textEnd_iff (Nat.le_refl _)).mpr rfl⟩

instance (e : Expr) (text : List Char) : Decidable (Covers e text) :=
  decidable_of_iff _ (occurs_whole_iff e text)

end RpcRouting.Regex
