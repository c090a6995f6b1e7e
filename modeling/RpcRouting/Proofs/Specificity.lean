import RpcRouting.Proofs.DomainMatch
import Mathlib.Data.List.Infix

namespace RpcRouting.DomainMatch

section Parts

variable {part other whole : List Char}

theorem eq_nil_of_utf8Len_eq_zero (h : String.utf8Len part = 0) : part = [] := by
  cases part with
  | nil => rfl
  | cons c rest =>
    have hpos := c.utf8Size_pos
    rw [String.utf8Len_cons] at h
    omega

-- Of two ends of the same text, the one with fewer bytes is an end of the other.
theorem suffix_of_utf8Len_le (h : part <:+ whole) (ho : other <:+ whole)
    (hle : String.utf8Len part ≤ String.utf8Len other) : part <:+ other := by
  rcases List.suffix_or_suffix_of_suffix h ho with hs | ⟨before, rfl⟩
  · exact hs
  · rw [String.utf8Len_append] at hle
    have hnil : before = [] := eq_nil_of_utf8Len_eq_zero (by omega)
    subst hnil
    exact List.suffix_rfl

theorem prefix_of_utf8Len_le (h : part <+: whole) (ho : other <+: whole)
    (hle : String.utf8Len part ≤ String.utf8Len other) : part <+: other := by
  rcases List.prefix_or_prefix_of_prefix h ho with hp | ⟨after, rfl⟩
  · exact hp
  · rw [String.utf8Len_append] at hle
    have hnil : after = [] := eq_nil_of_utf8Len_eq_zero (by omega)
    subst hnil
    simp

theorem length_lt_and_isSuffixOf_iff :
    (decide (part.length < whole.length) && part.isSuffixOf whole) = true ↔
      part <:+ whole ∧ part ≠ whole := by
  rw [Bool.and_eq_true, decide_eq_true_eq, List.isSuffixOf_iff_suffix]
  constructor
  · rintro ⟨hlt, hs⟩
    refine ⟨hs, ?_⟩
    rintro rfl
    omega
  · rintro ⟨hs, hne⟩
    refine ⟨?_, hs⟩
    have hle := hs.length_le
    have hlength : part.length ≠ whole.length := fun he => hne (hs.eq_of_length he)
    omega

theorem length_lt_and_isPrefixOf_iff :
    (decide (part.length < whole.length) && part.isPrefixOf whole) = true ↔
      part <+: whole ∧ part ≠ whole := by
  rw [Bool.and_eq_true, decide_eq_true_eq, List.isPrefixOf_iff_prefix]
  constructor
  · rintro ⟨hlt, hp⟩
    refine ⟨hp, ?_⟩
    rintro rfl
    omega
  · rintro ⟨hp, hne⟩
    refine ⟨?_, hp⟩
    have hle := hp.length_le
    have hlength : part.length ≠ whole.length := fun he => hne (hp.eq_of_length he)
    omega

end Parts

-- What a match of each kind says of a pattern and an authority, with both in lower case. There is
-- one wildcard at most, and it stands for something.
def Describes (pattern authority : String) : DomainMatch → Prop
  | .universal => lower pattern = ['*']
  | .startsWith length =>
    ∃ start, lower pattern = start ++ ['*'] ∧ start ≠ [] ∧ '*' ∉ start ∧
      (start <+: lower authority ∧ start ≠ lower authority) ∧ length = pattern.utf8ByteSize
  | .endsWith length =>
    ∃ tail, lower pattern = '*' :: tail ∧ tail ≠ [] ∧ '*' ∉ tail ∧
      (tail <:+ lower authority ∧ tail ≠ lower authority) ∧ length = pattern.utf8ByteSize
  | .exact => '*' ∉ lower pattern ∧ lower pattern = lower authority

variable {pattern other authority : String} {strength otherStrength : DomainMatch}

theorem describes_of_ofPattern? (h : ofPattern? pattern authority = some strength) :
    Describes pattern authority strength := by
  unfold ofPattern? at h
  dsimp only at h
  split at h
  · rename_i huniversal
    cases h
    exact huniversal
  rename_i huniversal
  split at h
  · rename_i hstar
    split at h
    · rename_i hexact
      cases h
      exact ⟨by simpa using hstar, hexact⟩
    · cases h
  split at h
  · rename_i hhead
    obtain ⟨tail, hp⟩ := List.head?_eq_some_iff.mp hhead
    rw [hp, List.tail_cons] at h
    split at h
    · rename_i hparts
      cases h
      rw [Bool.and_assoc, Bool.and_eq_true, length_lt_and_isSuffixOf_iff] at hparts
      refine ⟨tail, hp, ?_, by simpa using hparts.1, hparts.2, rfl⟩
      rintro rfl
      exact huniversal hp
    · cases h
  split at h
  · rename_i hlast
    obtain ⟨start, hp⟩ := List.getLast?_eq_some_iff.mp hlast
    rw [hp, List.dropLast_concat] at h
    split at h
    · rename_i hparts
      cases h
      rw [Bool.and_assoc, Bool.and_eq_true, length_lt_and_isPrefixOf_iff] at hparts
      refine ⟨start, hp, ?_, by simpa using hparts.1, hparts.2, rfl⟩
      rintro rfl
      exact huniversal hp
    · cases h
  · cases h

theorem ofPattern?_of_describes (h : Describes pattern authority strength) :
    ofPattern? pattern authority = some strength := by
  unfold ofPattern?
  cases strength with
  | universal =>
    have hp : lower pattern = ['*'] := h
    simp [hp]
  | exact =>
    obtain ⟨hstar, he⟩ := h
    have huniversal : lower pattern ≠ ['*'] := by
      intro hp
      simp [hp] at hstar
    rw [he] at hstar huniversal
    simp [he, hstar, huniversal]
  | endsWith length =>
    obtain ⟨tail, hp, hne, hstar, hproper, rfl⟩ := h
    have hparts := length_lt_and_isSuffixOf_iff.mpr hproper
    rw [Bool.and_eq_true, decide_eq_true_eq] at hparts
    simp [hp, hne, hstar, hparts.1, hparts.2]
  | startsWith length =>
    obtain ⟨start, hp, hne, hstar, hproper, rfl⟩ := h
    have hparts := length_lt_and_isPrefixOf_iff.mpr hproper
    rw [Bool.and_eq_true, decide_eq_true_eq] at hparts
    obtain ⟨first, rest, rfl⟩ := List.exists_cons_of_ne_nil hne
    have hfirst : first ≠ '*' := by
      rintro rfl
      exact hstar List.mem_cons_self
    simp only [hp, List.dropLast_concat, List.getLast?_concat]
    simpa [hstar, hfirst, hparts.2] using hparts.1

theorem ofPattern?_eq_some_iff :
    ofPattern? pattern authority = some strength ↔ Describes pattern authority strength :=
  ⟨describes_of_ofPattern?, ofPattern?_of_describes⟩

-- Whether a pattern matches at all depends only on its wildcard and on what is around it. A kind of
-- match can be read off the pattern, so it is the same for all authorities.

theorem Describes.of_exact {authority' : String} (h : Describes pattern authority .exact)
    (hs : Describes pattern authority' strength) : lower authority' = lower authority := by
  obtain ⟨hstar, he⟩ := h
  cases strength with
  | universal =>
    have hp : lower pattern = ['*'] := hs
    simp [hp] at hstar
  | startsWith length =>
    obtain ⟨start, hp, -⟩ := hs
    simp [hp] at hstar
  | endsWith length =>
    obtain ⟨tail, hp, -⟩ := hs
    simp [hp] at hstar
  | exact => exact hs.2.symm.trans he

theorem Describes.of_endsWith {authority' : String} {tail : List Char}
    (hp : lower pattern = '*' :: tail) (hne : tail ≠ [])
    (hs : Describes pattern authority' strength) :
    tail <:+ lower authority' ∧ tail ≠ lower authority' := by
  cases strength with
  | universal =>
    have hp' : lower pattern = ['*'] := hs
    simp [hp, hne] at hp'
  | startsWith length =>
    obtain ⟨start, hp', hne', hstar, -⟩ := hs
    obtain ⟨first, rest, rfl⟩ := List.exists_cons_of_ne_nil hne'
    rw [hp, List.cons_append, List.cons.injEq] at hp'
    exact absurd (hp'.1 ▸ List.mem_cons_self) hstar
  | endsWith length =>
    obtain ⟨tail', hp', -, -, hproper, -⟩ := hs
    rw [hp, List.cons.injEq] at hp'
    rwa [hp'.2]
  | exact => exact absurd (by simp [hp]) hs.1

theorem Describes.of_startsWith {authority' : String} {start : List Char}
    (hp : lower pattern = start ++ ['*']) (hne : start ≠ []) (hstar : '*' ∉ start)
    (hs : Describes pattern authority' strength) :
    start <+: lower authority' ∧ start ≠ lower authority' := by
  cases strength with
  | universal =>
    have hp' : lower pattern = ['*'] := hs
    simp [hp, hne] at hp'
  | startsWith length =>
    obtain ⟨start', hp', -, -, hproper, -⟩ := hs
    rw [hp] at hp'
    rwa [List.append_cancel_right hp']
  | endsWith length =>
    obtain ⟨tail, hp', -⟩ := hs
    obtain ⟨first, rest, rfl⟩ := List.exists_cons_of_ne_nil hne
    rw [hp, List.cons_append, List.cons.injEq] at hp'
    exact absurd (hp'.1 ▸ List.mem_cons_self) hstar
  | exact => exact absurd (by simp [hp]) hs.1

-- A stronger pattern is a more specific one: two patterns that match one authority equally strongly
-- are the same, and of two others the stronger matches nothing that the weaker does not.

theorem Describes.lower_eq (h : Describes pattern authority strength)
    (ho : Describes other authority strength) : lower pattern = lower other := by
  cases strength with
  | universal =>
    have hp : lower pattern = ['*'] := h
    have hq : lower other = ['*'] := ho
    rw [hp, hq]
  | startsWith length =>
    obtain ⟨start, hp, -, -, hproper, hlength⟩ := h
    obtain ⟨start', hq, -, -, hproper', hlength'⟩ := ho
    rw [utf8ByteSize_eq_of_lower, hp, String.utf8Len_append] at hlength
    rw [utf8ByteSize_eq_of_lower, hq, String.utf8Len_append] at hlength'
    have hle := prefix_of_utf8Len_le hproper.1 hproper'.1 (by omega)
    have hge := prefix_of_utf8Len_le hproper'.1 hproper.1 (by omega)
    rw [hp, hq, hle.eq_of_length_le hge.length_le]
  | endsWith length =>
    obtain ⟨tail, hp, -, -, hproper, hlength⟩ := h
    obtain ⟨tail', hq, -, -, hproper', hlength'⟩ := ho
    rw [utf8ByteSize_eq_of_lower, hp, String.utf8Len_cons] at hlength
    rw [utf8ByteSize_eq_of_lower, hq, String.utf8Len_cons] at hlength'
    have hle := suffix_of_utf8Len_le hproper.1 hproper'.1 (by omega)
    have hge := suffix_of_utf8Len_le hproper'.1 hproper.1 (by omega)
    rw [hp, hq, hle.eq_of_length_le hge.length_le]
  | exact => rw [h.2, ho.2]

theorem weaker_endsWith_iff {m n : Nat} : (endsWith m).weaker (endsWith n) = true ↔ m < n := by
  change (decide (2 < 2) || (decide (2 = 2) && decide (m < n))) = true ↔ m < n
  simp

theorem weaker_startsWith_iff {m n : Nat} :
    (startsWith m).weaker (startsWith n) = true ↔ m < n := by
  change (decide (1 < 1) || (decide (1 = 1) && decide (m < n))) = true ↔ m < n
  simp

theorem Describes.congr {authority' : String} (he : lower authority' = lower authority)
    (h : Describes pattern authority strength) : Describes pattern authority' strength := by
  cases strength <;> simpa only [Describes, he] using h

-- Whatever a pattern matches is matched by another that was the weaker of the two for some
-- authority, unless one is tied to the end of the authority and the other to its start.
theorem Describes.of_weaker {authority' : String} {strength' : DomainMatch}
    (h : Describes pattern authority strength) (ho : Describes other authority otherStrength)
    (hw : otherStrength.weaker strength = true)
    (hk : ¬ ∃ m n, strength = .endsWith m ∧ otherStrength = .startsWith n)
    (hs : Describes pattern authority' strength') : Describes other authority' otherStrength := by
  cases strength with
  | universal => cases otherStrength <;> simp [weaker, rank] at hw
  | exact => exact ho.congr (h.of_exact hs)
  | endsWith m =>
    obtain ⟨tail, hp, hne, -, hproper, rfl⟩ := h
    obtain ⟨hsuffix, hless⟩ := Describes.of_endsWith hp hne hs
    cases otherStrength with
    | universal => exact ho
    | startsWith n => exact absurd ⟨_, _, rfl, rfl⟩ hk
    | endsWith n =>
      obtain ⟨tail', hq, hne', hstar', hproper', rfl⟩ := ho
      have hlength := weaker_endsWith_iff.mp hw
      rw [utf8ByteSize_eq_of_lower, utf8ByteSize_eq_of_lower pattern, hp, hq, String.utf8Len_cons,
        String.utf8Len_cons] at hlength
      have hpart := suffix_of_utf8Len_le hproper'.1 hproper.1 (by omega)
      refine ⟨tail', hq, hne', hstar', ⟨hpart.trans hsuffix, ?_⟩, rfl⟩
      rintro rfl
      exact hless (hsuffix.eq_of_length_le hpart.length_le)
    | exact => simp [weaker, rank] at hw
  | startsWith m =>
    obtain ⟨start, hp, hne, hstar, hproper, rfl⟩ := h
    obtain ⟨hstarts, hless⟩ := Describes.of_startsWith hp hne hstar hs
    cases otherStrength with
    | universal => exact ho
    | startsWith n =>
      obtain ⟨start', hq, hne', hstar', hproper', rfl⟩ := ho
      have hlength := weaker_startsWith_iff.mp hw
      rw [utf8ByteSize_eq_of_lower, utf8ByteSize_eq_of_lower pattern, hp, hq,
        String.utf8Len_append, String.utf8Len_append] at hlength
      have hpart := prefix_of_utf8Len_le hproper'.1 hproper.1 (by omega)
      refine ⟨start', hq, hne', hstar', ⟨hpart.trans hstarts, ?_⟩, rfl⟩
      rintro rfl
      exact hless (hstarts.eq_of_length_le hpart.length_le)
    | endsWith n => simp [weaker, rank] at hw
    | exact => simp [weaker, rank] at hw

-- Patterns are globs with one wildcard, which is at the start or at the end, and every other
-- pattern with a wildcard matches nothing. Strength is how specific a pattern is, save that the end
-- of an authority always counts for more than its start.
theorem matching_glob_and_specific :
    (∀ pattern authority strength,
      ofPattern? pattern authority = some strength ↔ Describes pattern authority strength) ∧
    (∀ pattern, '*' ∈ lower pattern → (∀ tail, lower pattern = '*' :: tail → '*' ∈ tail) →
      (∀ start, lower pattern = start ++ ['*'] → '*' ∈ start) →
      ∀ authority, ofPattern? pattern authority = none) ∧
    (∀ pattern other authority strength otherStrength,
      ofPattern? pattern authority = some strength →
      ofPattern? other authority = some otherStrength →
      (strength = otherStrength → lower pattern = lower other) ∧
      (otherStrength.weaker strength = true →
        (¬ ∃ m n, strength = .endsWith m ∧ otherStrength = .startsWith n) →
        ∀ authority', (ofPattern? pattern authority').isSome →
          (ofPattern? other authority').isSome)) ∧
    ∀ m n, (startsWith m).weaker (endsWith n) = true := by
  refine ⟨fun _ _ _ => ofPattern?_eq_some_iff, ?_, ?_, ?_⟩
  · intro pattern hstar htail hstart authority
    by_contra hne
    obtain ⟨strength, hs⟩ := Option.ne_none_iff_exists'.mp hne
    have hd := ofPattern?_eq_some_iff.mp hs
    cases strength with
    | universal => exact absurd (htail [] hd) List.not_mem_nil
    | startsWith length =>
      obtain ⟨start, hp, -, hnone, -⟩ := hd
      exact hnone (hstart start hp)
    | endsWith length =>
      obtain ⟨tail, hp, -, hnone, -⟩ := hd
      exact hnone (htail tail hp)
    | exact => exact hd.1 hstar
  · intro pattern other authority strength otherStrength hp hq
    rw [ofPattern?_eq_some_iff] at hp hq
    constructor
    · rintro rfl
      exact hp.lower_eq hq
    · intro hw hk authority' hsome
      obtain ⟨strength', hs⟩ := Option.isSome_iff_exists.mp hsome
      have ho := hp.of_weaker hq hw hk (ofPattern?_eq_some_iff.mp hs)
      exact Option.isSome_iff_exists.mpr ⟨otherStrength, ofPattern?_eq_some_iff.mpr ho⟩
  · intro m n
    simp [weaker, rank]

-- The longer pattern is the weaker one here, and neither matches all that the other does.
example :
    ofPattern? "*.com" "api.internal.com" = some (.endsWith 5) ∧
    ofPattern? "api.internal.*" "API.internal.com" = some (.startsWith 14) ∧
    ofPattern? "api.internal.*" "www.com" = none ∧
    ofPattern? "*.com" "api.internal.net" = none := by decide +kernel

end RpcRouting.DomainMatch
