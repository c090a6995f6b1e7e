import RpcRouting.Proofs.Draw
import RpcRouting.Random.Source
import Mathlib.Algebra.Order.Floor.Div
import Mathlib.Data.Nat.Periodic
import Mathlib.Order.Interval.Finset.Nat

namespace RpcRouting.Random

-- Blocks are counted with 64 bits, and each holds sixteen words.
theorem ChaCha.word_add_period (key : Vector UInt32 8) (i : Nat) :
    word key (i + 16 * UInt64.size) = word key i := by
  have hblock : UInt64.ofNat ((i + 16 * UInt64.size) / 16) = UInt64.ofNat (i / 16) := by
    have hdiv : (i + 16 * UInt64.size) / 16 = i / 16 + UInt64.size := by omega
    rw [hdiv]
    apply UInt64.toNat_inj.mp
    simp
  have hplace : (i + 16 * UInt64.size) % 16 = i % 16 := by omega
  simp only [word, hblock, hplace]

namespace Seeded

variable {bound number n k : Nat} {generator rest : Seeded}

section Acceptance

-- Shifted by its leading zeros, a number fills 64 bits.
theorem shifted_bounds (hpos : 0 < bound) (hlt : bound < UInt64.size) :
    2 ^ 63 ≤ bound * 2 ^ leadingZeros bound ∧ bound * 2 ^ leadingZeros bound < 2 ^ 64 := by
  have hne : bound ≠ 0 := Nat.ne_of_gt hpos
  have hlow : 2 ^ bound.log2 ≤ bound := Nat.log2_self_le hne
  have hhigh : bound < 2 ^ (bound.log2 + 1) := Nat.lt_log2_self
  have hlog : bound.log2 < 64 := (Nat.log2_lt hne).mpr hlt
  have hshift : bound.log2 + leadingZeros bound = 63 := by
    unfold leadingZeros
    omega
  constructor
  · calc
      2 ^ 63 = 2 ^ bound.log2 * 2 ^ leadingZeros bound := by rw [← Nat.pow_add, hshift]
      _ ≤ bound * 2 ^ leadingZeros bound := Nat.mul_le_mul_right _ hlow
  · calc
      bound * 2 ^ leadingZeros bound < 2 ^ (bound.log2 + 1) * 2 ^ leadingZeros bound :=
        Nat.mul_lt_mul_of_pos_right hhigh (Nat.two_pow_pos _)
      _ = 2 ^ 64 := by rw [← Nat.pow_add, Nat.add_right_comm, hshift]

-- A result has the products in a stretch of 2 ^ 64, and takes those at its beginning.
theorem accept?_eq_some_iff (hpos : 0 < bound) (hlt : bound < UInt64.size) :
    accept? bound number = some n ↔
      n * 2 ^ 64 ≤ number * bound ∧
        number * bound < n * 2 ^ 64 + bound * 2 ^ leadingZeros bound := by
  have hshifted := shifted_bounds hpos hlt
  have hsize : UInt64.size = 2 ^ 64 := rfl
  simp only [accept?, Nat.shiftLeft_eq, hsize]
  generalize bound * 2 ^ leadingZeros bound = shifted at *
  generalize number * bound = product at *
  split
  · rw [Option.some.injEq]
    omega
  · simp only [reduceCtorEq, false_iff]
    omega

theorem lt_of_accept? (hpos : 0 < bound) (hnumber : number < UInt64.size)
    (h : accept? bound number = some n) : n < bound := by
  unfold accept? at h
  dsimp only at h
  split at h
  · cases h
    exact Nat.div_lt_of_lt_mul (Nat.mul_lt_mul_of_pos_right hnumber hpos)
  · cases h

-- The products of accepted numbers that give one result lie in a stretch that is a multiple of the
-- bound long. So there are as many numbers, wherever the stretch begins.
theorem product_mem_iff (hpos : 0 < bound) (start count : Nat) :
    start ≤ number * bound ∧ number * bound < start + bound * count ↔
      start ⌈/⌉ bound ≤ number ∧ number < start ⌈/⌉ bound + count := by
  have hceil : ∀ x m, x ⌈/⌉ bound ≤ m ↔ x ≤ m * bound := by
    intro x m
    rw [ceilDiv_le_iff_le_mul hpos, Nat.mul_comm]
  have hend : (start + bound * count) ⌈/⌉ bound = start ⌈/⌉ bound + count := by
    rw [Nat.ceilDiv_eq_add_pred_div, Nat.ceilDiv_eq_add_pred_div, ← Nat.add_mul_div_left _ _ hpos]
    congr 1
    omega
  rw [← hend, ← Nat.not_le, ← Nat.not_le, hceil, hceil]

-- The numbers of 64 bits that give `n`.
def accepted (bound n : Nat) : Finset Nat :=
  (Finset.range UInt64.size).filter fun number => accept? bound number = some n

theorem mem_accepted :
    number ∈ accepted bound n ↔ number < UInt64.size ∧ accept? bound number = some n := by
  rw [accepted, Finset.mem_filter, Finset.mem_range]

-- The stretch of the last result ends where the numbers of 64 bits do.
theorem mem_accepted_of_lt (hlt : bound < UInt64.size) (hn : n < bound) :
    number ∈ accepted bound n ↔ accept? bound number = some n := by
  have hpos : 0 < bound := Nat.zero_lt_of_lt hn
  rw [mem_accepted, and_iff_right_iff_imp]
  intro haccept
  have hproduct := ((accept?_eq_some_iff hpos hlt).mp haccept).2
  have hshifted := (shifted_bounds hpos hlt).2
  have hnumber : number * bound < 2 ^ 64 * bound := calc
    number * bound < (n + 1) * 2 ^ 64 := by omega
    _ ≤ bound * 2 ^ 64 := Nat.mul_le_mul_right _ hn
    _ = 2 ^ 64 * bound := Nat.mul_comm _ _
  exact Nat.lt_of_mul_lt_mul_right hnumber

theorem accepted_eq_Ico (hlt : bound < UInt64.size) (hn : n < bound) :
    accepted bound n =
      Finset.Ico ((n * 2 ^ 64) ⌈/⌉ bound) ((n * 2 ^ 64) ⌈/⌉ bound + 2 ^ leadingZeros bound) := by
  have hpos : 0 < bound := Nat.zero_lt_of_lt hn
  ext number
  rw [mem_accepted_of_lt hlt hn, accept?_eq_some_iff hpos hlt, product_mem_iff hpos,
    Finset.mem_Ico]

-- No result is favoured.
theorem card_accepted (hpos : 0 < bound) (hlt : bound < UInt64.size) (n : Nat) :
    (accepted bound n).card = if n < bound then 2 ^ leadingZeros bound else 0 := by
  split
  case isTrue hn => rw [accepted_eq_Ico hlt hn, Nat.card_Ico, Nat.add_sub_cancel_left]
  case isFalse hn =>
    rw [Finset.card_eq_zero, Finset.eq_empty_iff_forall_notMem]
    intro number hnumber
    obtain ⟨hsize, haccept⟩ := mem_accepted.mp hnumber
    exact hn (lt_of_accept? hpos hsize haccept)

end Acceptance

section Numbers

-- The generator after some more of its numbers.
def skip (generator : Seeded) (count : Nat) : Seeded :=
  { generator with taken := generator.taken + count }

-- The numbers of 64 bits that a generator gives, one after another.
def nth (generator : Seeded) (i : Nat) : Nat := (generator.skip i).next.1

theorem skip_skip (generator : Seeded) (i j : Nat) :
    (generator.skip i).skip j = generator.skip (i + j) := by
  simp [skip, Nat.add_assoc]

theorem nth_skip (generator : Seeded) (i j : Nat) :
    (generator.skip i).nth j = generator.nth (i + j) := by
  rw [nth, nth, skip_skip]

theorem nth_eq (generator : Seeded) (i : Nat) :
    generator.nth i =
      (ChaCha.word generator.key (2 * (generator.taken + i))).toNat +
        (ChaCha.word generator.key (2 * (generator.taken + i) + 1)).toNat * UInt32.size :=
  rfl

theorem nth_lt (generator : Seeded) (i : Nat) : generator.nth i < UInt64.size := by
  have hlow := (ChaCha.word generator.key (2 * (generator.taken + i))).toNat_lt
  have hhigh := (ChaCha.word generator.key (2 * (generator.taken + i) + 1)).toNat_lt
  rw [nth_eq, UInt32.size, UInt64.size]
  omega

theorem period_pos : 0 < period := Nat.mul_pos (by decide) (Nat.two_pow_pos 64)

theorem nth_periodic (generator : Seeded) : Function.Periodic generator.nth period := by
  intro i
  have hlow : 2 * (generator.taken + (i + period)) =
      2 * (generator.taken + i) + 16 * UInt64.size := by
    unfold period
    omega
  have hhigh : 2 * (generator.taken + i) + 16 * UInt64.size + 1 =
      2 * (generator.taken + i) + 1 + 16 * UInt64.size := Nat.add_right_comm _ _ _
  rw [nth_eq, nth_eq, hlow, hhigh, ChaCha.word_add_period, ChaCha.word_add_period]

-- What comes at all comes again.
theorem exists_nth_skip (generator : Seeded) (count : Nat) (wanted : Nat → Prop) :
    (∃ i, wanted ((generator.skip count).nth i)) ↔ ∃ i, wanted (generator.nth i) := by
  simp only [nth_skip]
  constructor
  · rintro ⟨i, hi⟩
    exact ⟨count + i, hi⟩
  · rintro ⟨i, hi⟩
    have hcount : count ≤ i + count * period :=
      Nat.le_add_left_of_le (Nat.le_mul_of_pos_right count period_pos)
    have hagain : generator.nth (i + count * period) = generator.nth i :=
      generator.nth_periodic.nat_mul count i
    refine ⟨i + count * period - count, ?_⟩
    rwa [Nat.add_sub_cancel' hcount, hagain]

end Numbers

section Search

theorem attempt_eq (bound : Nat) (generator : Seeded) :
    attempt bound generator = (accept? bound (generator.nth 0), generator.skip 1) :=
  rfl

theorem retry_of_some {σ α : Type} {step : σ → Option α × σ} {state after : σ} {a : α}
    (h : step state = (some a, after)) (attempts : Nat) :
    retry step (attempts + 1) state = some (a, after) := by
  rw [retry, h]

theorem retry_of_none {σ α : Type} {step : σ → Option α × σ} {state after : σ}
    (h : step state = (none, after)) (attempts : Nat) :
    retry step (attempts + 1) state = retry step attempts after := by
  rw [retry, h]

-- Number `k` is the first that is accepted, and gives `n`.
def FirstAccepted (generator : Seeded) (bound k n : Nat) : Prop :=
  (∀ i < k, accept? bound (generator.nth i) = none) ∧ accept? bound (generator.nth k) = some n

theorem firstAccepted_zero :
    FirstAccepted generator bound 0 n ↔ accept? bound (generator.nth 0) = some n := by
  simp [FirstAccepted]

theorem firstAccepted_succ :
    FirstAccepted generator bound (k + 1) n ↔
      accept? bound (generator.nth 0) = none ∧ FirstAccepted (generator.skip 1) bound k n := by
  simp only [FirstAccepted, Nat.forall_lt_succ_left, nth_skip, Nat.add_comm 1, and_assoc]

-- What is accepted at all is accepted first at one place.
theorem exists_firstAccepted_iff :
    (∃ k n, FirstAccepted generator bound k n) ↔
      ∃ i, (accept? bound (generator.nth i)).isSome := by
  constructor
  · rintro ⟨k, n, -, hn⟩
    exact ⟨k, Option.isSome_of_eq_some hn⟩
  · intro h
    obtain ⟨n, hn⟩ := Option.isSome_iff_exists.mp (Nat.find_spec h)
    refine ⟨Nat.find h, n, ?_, hn⟩
    intro i hi
    exact Option.not_isSome_iff_eq_none.mp (Nat.find_min h hi)

theorem FirstAccepted.lt_period (h : FirstAccepted generator bound k n) : k < period := by
  by_contra hge
  have hback : generator.nth (k % period) = generator.nth k :=
    generator.nth_periodic.map_mod_nat k
  have hrejected := h.1 (k % period) ((Nat.mod_lt k period_pos).trans_le (Nat.not_lt.mp hge))
  rw [hback, h.2] at hrejected
  cases hrejected

theorem retry_attempt_eq_some_iff (attempts : Nat) :
    retry (attempt bound) attempts generator = some (n, rest) ↔
      ∃ k < attempts, FirstAccepted generator bound k n ∧ rest = generator.skip (k + 1) := by
  induction attempts generalizing generator with
  | zero => simp [retry]
  | succ attempts ih =>
    simp only [Nat.exists_lt_succ_left, firstAccepted_zero, firstAccepted_succ]
    have hstep := attempt_eq bound generator
    cases haccept : accept? bound (generator.nth 0) with
    | some first =>
      rw [haccept] at hstep
      simp [retry_of_some hstep, eq_comm]
    | none =>
      rw [haccept] at hstep
      simp [retry_of_none hstep, ih, skip_skip, Nat.add_comm 1]

theorem nextBelow?_zero (generator : Seeded) : generator.nextBelow? 0 = some (0, generator) :=
  if_pos rfl

-- The answer is what the first accepted number gives, and nothing is taken after that number.
theorem nextBelow?_eq_some_iff (hne : bound ≠ 0) :
    generator.nextBelow? bound = some (n, rest) ↔
      ∃ k, FirstAccepted generator bound k n ∧ rest = generator.skip (k + 1) := by
  rw [nextBelow?, if_neg hne, retry_attempt_eq_some_iff]
  constructor
  · rintro ⟨k, -, h⟩
    exact ⟨k, h⟩
  · rintro ⟨k, hfirst, hrest⟩
    exact ⟨k, hfirst.lt_period, hfirst, hrest⟩

-- There is no answer only where none could ever come.
theorem isSome_nextBelow?_iff :
    (generator.nextBelow? bound).isSome ↔
      (bound ≠ 0 → ∃ i, (accept? bound (generator.nth i)).isSome) := by
  obtain rfl | hne := eq_or_ne bound 0
  · simp [nextBelow?_zero]
  · rw [← exists_firstAccepted_iff, imp_iff_right hne, Option.isSome_iff_exists]
    constructor
    · rintro ⟨⟨n, rest⟩, h⟩
      obtain ⟨k, hfirst, -⟩ := (nextBelow?_eq_some_iff hne).mp h
      exact ⟨k, n, hfirst⟩
    · rintro ⟨k, n, hfirst⟩
      exact ⟨(n, generator.skip (k + 1)), (nextBelow?_eq_some_iff hne).mpr ⟨k, hfirst, rfl⟩⟩

end Search

-- What is promised for one call.
def Fits (call : Nat × Nat) : Prop := if call.1 = 0 then call.2 = 0 else call.2 < call.1

theorem fits_of_nextBelow? (h : generator.nextBelow? bound = some (n, rest)) :
    Fits (bound, n) := by
  obtain rfl | hne := eq_or_ne bound 0
  · rw [nextBelow?_zero] at h
    cases h
    rfl
  · obtain ⟨k, hfirst, -⟩ := (nextBelow?_eq_some_iff hne).mp h
    have hn := lt_of_accept? (Nat.pos_of_ne_zero hne) (generator.nth_lt k) hfirst.2
    exact (if_neg hne).mpr hn

theorem exists_skip_of_nextBelow? (h : generator.nextBelow? bound = some (n, rest)) :
    ∃ count, rest = generator.skip count := by
  obtain rfl | hne := eq_or_ne bound 0
  · rw [nextBelow?_zero] at h
    cases h
    exact ⟨0, rfl⟩
  · obtain ⟨k, -, hrest⟩ := (nextBelow?_eq_some_iff hne).mp h
    exact ⟨k + 1, hrest⟩

section Calls

-- One call after another, each bound with its answer, up to the first call that never ends.
def answered (generator : Seeded) : List Nat → List (Nat × Nat)
  | [] => []
  | bound :: bounds =>
    match generator.nextBelow? bound with
    | some (n, rest) => (bound, n) :: rest.answered bounds
    | none => []

theorem answered_fit (generator : Seeded) (bounds : List Nat) :
    ∀ call ∈ generator.answered bounds, Fits call := by
  induction bounds generalizing generator with
  | nil => simp [answered]
  | cons bound bounds ih =>
    unfold answered
    split
    case h_1 n rest h => exact List.forall_mem_cons.mpr ⟨fits_of_nextBelow? h, ih rest⟩
    case h_2 h => simp

-- A bound of zero leaves the generator as it is.
theorem answered_filter (generator : Seeded) (bounds : List Nat) :
    generator.answered (bounds.filter (· ≠ 0)) =
      (generator.answered bounds).filter (·.1 ≠ 0) := by
  induction bounds generalizing generator with
  | nil => rfl
  | cons bound bounds ih =>
    obtain rfl | hne := eq_or_ne bound 0
    · simpa [answered, nextBelow?_zero] using ih generator
    · rw [List.filter_cons_of_pos (by simpa using hne)]
      unfold answered
      split
      case h_1 n rest h => rw [ih rest, List.filter_cons_of_pos (by simpa using hne)]
      case h_2 h => rfl

-- A call is answered or not whatever was taken before it.
theorem answered_map_fst_eq_iff (generator : Seeded) (bounds : List Nat) :
    (generator.answered bounds).map Prod.fst = bounds ↔
      ∀ bound ∈ bounds, bound ≠ 0 → ∃ i, (accept? bound (generator.nth i)).isSome := by
  induction bounds generalizing generator with
  | nil => simp [answered]
  | cons bound bounds ih =>
    rw [List.forall_mem_cons, ← isSome_nextBelow?_iff]
    unfold answered
    split
    case h_1 n rest h =>
      obtain ⟨count, rfl⟩ := exists_skip_of_nextBelow? h
      have hrest : ∀ bound, (∃ i, (accept? bound ((generator.skip count).nth i)).isSome) ↔
          ∃ i, (accept? bound (generator.nth i)).isSome :=
        fun bound => generator.exists_nth_skip count fun number => (accept? bound number).isSome
      simp [h, ih, hrest]
    case h_2 h => simp [h]

end Calls

-- Every answer of a sequence of calls is below its bound, and zero for a bound of zero, which takes
-- nothing: the other answers are the same without it. A sequence ends early only at a bound that
-- accepts none of the generator's numbers. An answer comes from the first number that is accepted,
-- and among the numbers of 64 bits each result has as many accepted ones as any other.
theorem answers_fair (generator : Seeded) (bounds : List Nat) :
    (∀ call ∈ generator.answered bounds, Fits call) ∧
      generator.answered (bounds.filter (· ≠ 0)) =
        (generator.answered bounds).filter (·.1 ≠ 0) ∧
      ((generator.answered bounds).map Prod.fst = bounds ↔
        ∀ bound ∈ bounds, bound ≠ 0 → ∃ i, (accept? bound (generator.nth i)).isSome) ∧
      generator.nextBelow? 0 = some (0, generator) ∧
      (∀ bound n rest, bound ≠ 0 →
        (generator.nextBelow? bound = some (n, rest) ↔
          ∃ k, FirstAccepted generator bound k n ∧ rest = generator.skip (k + 1))) ∧
      ∀ bound, 0 < bound → bound < UInt64.size →
        (2 ^ 63 ≤ bound * 2 ^ leadingZeros bound ∧ bound * 2 ^ leadingZeros bound < 2 ^ 64) ∧
          ∀ n, (accepted bound n).card = if n < bound then 2 ^ leadingZeros bound else 0 := by
  refine ⟨answered_fit generator bounds, answered_filter generator bounds,
    answered_map_fst_eq_iff generator bounds, nextBelow?_zero generator, ?_, ?_⟩
  · intro bound n rest hne
    exact nextBelow?_eq_some_iff hne
  · intro bound hpos hlt
    exact ⟨shifted_bounds hpos hlt, card_accepted hpos hlt⟩

example : (ofSeed 42).answered [0, 1000] = [(0, 0), (1000, 526)] := by
  decide +kernel

end Seeded

namespace Source

variable {α : Type}

-- Where the attempts would never end, the answer is zero, which fits too.
theorem exists_nextBelow_seeded (generator : Seeded) (bound : Nat) :
    ∃ n rest, (seeded generator).nextBelow bound = (n, .seeded rest) ∧ Seeded.Fits (bound, n) := by
  unfold nextBelow
  dsimp only
  split
  case h_1 n rest h => exact ⟨n, rest, rfl, Seeded.fits_of_nextBelow? h⟩
  case h_2 h =>
    refine ⟨0, generator, rfl, ?_⟩
    unfold Seeded.Fits
    split
    · rfl
    · exact Nat.pos_of_ne_zero ‹_›

-- The questions of a computation are calls, one after another. Which ones they are may hang on the
-- answers so far.
theorem draws_fit (m : Draw α) (generator : Seeded) :
    ∀ call ∈ ((seeded generator).run m).draws, Seeded.Fits call := by
  induction m generalizing generator with
  | done a => simp [run, Draw.run]
  | ask bound next ih =>
    obtain ⟨n, rest, hanswer, hfits⟩ := exists_nextBelow_seeded generator bound
    simp only [run, Draw.run, hanswer]
    exact List.forall_mem_cons.mpr ⟨hfits, ih n rest⟩

theorem answered_prefix_draws (m : Draw α) (generator : Seeded) :
    generator.answered (((seeded generator).run m).draws.map Prod.fst) <+:
      ((seeded generator).run m).draws := by
  induction m generalizing generator with
  | done a => exact List.prefix_rfl
  | ask bound next ih =>
    simp only [run, Draw.run, List.map_cons, Seeded.answered, nextBelow]
    cases generator.nextBelow? bound with
    | some answer => exact List.cons_prefix_cons.mpr ⟨rfl, ih answer.1 answer.2⟩
    | none => exact List.nil_prefix

end Source

end RpcRouting.Random

namespace RpcRouting.Draw

open RpcRouting.Random (Source Seeded)

-- What holds whatever the answers of honest sources holds for every seed.
theorem Ensures.run_seeded {α : Type} {holds : α → Prop} {m : Draw α} (h : m.Ensures holds)
    (generator : Seeded) : holds ((Source.seeded generator).run m).value := by
  induction m generalizing generator with
  | done a => exact h
  | ask bound next ih =>
    obtain ⟨n, rest, hanswer, hfits⟩ := Source.exists_nextBelow_seeded generator bound
    simp only [Source.run, Draw.run, hanswer]
    exact ih n (h n fun hne => (if_neg hne).mp hfits) rest

end RpcRouting.Draw
