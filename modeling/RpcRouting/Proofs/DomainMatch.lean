import RpcRouting.Route.DomainMatch
import Mathlib.Data.List.Forall2
import Mathlib.Data.Prod.Lex
import Mathlib.Data.String.Basic
import Mathlib.Order.MinMax

namespace RpcRouting

namespace DomainMatch

theorem rank_injective : Function.Injective rank := by
  intro a b h
  cases a <;> cases b <;> simp_all [rank]

-- Matches are compared by strength.
instance : LinearOrder DomainMatch :=
  LinearOrder.lift' (fun found => toLex found.rank) (toLex.injective.comp rank_injective)

theorem weaker_iff_lt (a b : DomainMatch) : a.weaker b = true ↔ a < b := by
  change _ ↔ toLex a.rank < toLex b.rank
  rw [Prod.Lex.toLex_lt_toLex]
  simp [weaker]

theorem stronger_eq_max (a b : DomainMatch) : a.stronger b = max a b := by
  by_cases h : a < b
  · simp [stronger, (weaker_iff_lt a b).mpr h, max_eq_right h.le]
  · have hw : a.weaker b = false := by
      rw [← Bool.not_eq_true, weaker_iff_lt]
      exact h
    simp [stronger, hw, max_eq_left (not_lt.mp h)]

theorem strongest_eq_max? (found : List DomainMatch) : strongest found = found.max? := by
  have hs : stronger = max := funext fun a => funext fun b => stronger_eq_max a b
  cases found with
  | nil => rfl
  | cons first rest => simp only [strongest, hs, List.max?_cons']

theorem strongest_eq_some_iff (found : List DomainMatch) (strength : DomainMatch) :
    strongest found = some strength ↔ strength ∈ found ∧ ∀ other ∈ found, other ≤ strength := by
  rw [strongest_eq_max?, List.max?_eq_some_iff]

theorem strongest_eq_none_iff (found : List DomainMatch) : strongest found = none ↔ found = [] := by
  rw [strongest_eq_max?, List.max?_eq_none_iff]

-- The strongest match of a host is attained by one of its domains, and no domain exceeds it.
theorem ofDomains?_eq_some_iff (domains : List String) (authority : String)
    (strength : DomainMatch) :
    ofDomains? domains authority = some strength ↔
      (∃ domain ∈ domains, ofPattern? domain authority = some strength) ∧
        ∀ domain ∈ domains, ∀ other, ofPattern? domain authority = some other →
          other ≤ strength := by
  rw [ofDomains?, strongest_eq_some_iff]
  simp only [List.mem_filterMap]
  constructor
  · rintro ⟨hmem, hall⟩
    exact ⟨hmem, fun domain hd other ho => hall other ⟨domain, hd, ho⟩⟩
  · rintro ⟨hmem, hall⟩
    exact ⟨hmem, fun other ⟨domain, hd, ho⟩ => hall domain hd other ho⟩

theorem ofDomains?_eq_none_iff (domains : List String) (authority : String) :
    ofDomains? domains authority = none ↔
      ∀ domain ∈ domains, ofPattern? domain authority = none := by
  rw [ofDomains?, strongest_eq_none_iff, List.filterMap_eq_nil_iff]

-- The second text is the first with some ASCII letters in another case.
def Recased (a b : String) : Prop :=
  List.Forall₂ (fun c d => d = c ∨ d = c.toLower ∨ d = c.toUpper) a.toList b.toList

theorem toLower_toUpper (c : Char) : c.toUpper.toLower = c.toLower := by
  by_cases h : 97 ≤ c.toNat ∧ c.toNat ≤ 122
  · have hall : ∀ n < 123, (Char.ofNat n).toUpper.toLower = (Char.ofNat n).toLower := by decide
    rw [← Char.ofNat_toNat c]
    exact hall c.toNat (by omega)
  · have hu : c.toUpper = c := dif_neg h
    rw [hu]

theorem toLower_toLower (c : Char) : c.toLower.toLower = c.toLower := by
  unfold Char.toLower
  grind

theorem utf8Size_toLower (c : Char) : c.toLower.utf8Size = c.utf8Size := by
  unfold Char.toLower Char.utf8Size
  grind

theorem Recased.lower_eq {a b : String} (h : Recased a b) : lower b = lower a := by
  unfold Recased at h
  unfold lower
  generalize a.toList = as at h ⊢
  generalize b.toList = bs at h ⊢
  induction h with
  | nil => rfl
  | @cons c d as bs hcd _ ih =>
    have hl : d.toLower = c.toLower := by
      rcases hcd with rfl | rfl | rfl
      · rfl
      · exact toLower_toLower c
      · exact toLower_toUpper c
    rw [List.map_cons, List.map_cons, hl, ih]

-- The length of a pattern in bytes does not depend on case.
theorem utf8ByteSize_eq_of_lower (text : String) :
    text.utf8ByteSize = String.utf8Len (lower text) := by
  rw [← String.utf8Len_toList, lower]
  induction text.toList with
  | nil => rfl
  | cons c rest ih => rw [List.map_cons, String.utf8Len_cons, String.utf8Len_cons, ih,
      utf8Size_toLower]

theorem ofPattern?_recased {pattern pattern' authority authority' : String}
    (hp : Recased pattern pattern') (ha : Recased authority authority') :
    ofPattern? pattern' authority' = ofPattern? pattern authority := by
  unfold ofPattern?
  rw [utf8ByteSize_eq_of_lower pattern', utf8ByteSize_eq_of_lower pattern, hp.lower_eq,
    ha.lower_eq]

theorem map_ofPattern?_recased {domains domains' : List String} {authority authority' : String}
    (hd : List.Forall₂ Recased domains domains') (ha : Recased authority authority') :
    domains'.map (ofPattern? · authority') = domains.map (ofPattern? · authority) := by
  induction hd with
  | nil => rfl
  | cons hp _ ih => rw [List.map_cons, List.map_cons, ih, ofPattern?_recased hp ha]

end DomainMatch

end RpcRouting
