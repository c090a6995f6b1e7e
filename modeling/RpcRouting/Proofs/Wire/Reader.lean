import RpcRouting.Wire.Reader

namespace RpcRouting.Wire

open Document

variable {α : Type} {names : List String} {value : Value} {members : Members}

theorem hasRepeated_eq_false_iff :
    hasRepeated names members = false ↔ ∀ name ∈ names, (members.map Prod.fst).count name ≤ 1 := by
  have hcount : ∀ name, (members.filter fun m => m.1 == name).length =
      (members.map Prod.fst).count name := by
    intro name
    rw [List.count, List.countP_map, List.countP_eq_length_filter]
    rfl
  simp only [hasRepeated, List.any_eq_false, hcount, decide_eq_true_eq, Nat.not_lt]

theorem members?_eq_some (h : members? names value = some members) :
    (value = .object members ∧ hasRepeated names members = false) ∨
      ∃ items, value = .array items ∧ items.length ≤ names.length ∧ members = names.zip items := by
  cases value with
  | object given =>
    simp only [members?, Option.ite_none_left_eq_some, Bool.not_eq_true] at h
    obtain ⟨hunique, hgiven⟩ := h
    cases hgiven
    exact .inl ⟨rfl, hunique⟩
  | array items =>
    simp only [members?, Option.ite_none_right_eq_some] at h
    obtain ⟨hlength, hzip⟩ := h
    exact .inr ⟨items, rfl, hlength, (Option.some.inj hzip).symm⟩
  | _ => cases h

-- A message with alternatives is an object.
theorem mixedMembers?_eq_some (h : mixedMembers? names value = some members) :
    value = .object members ∧ hasRepeated names members = false := by
  cases value with
  | object given =>
    simp only [mixedMembers?, Option.ite_none_left_eq_some, Option.ite_none_right_eq_some,
      Bool.not_eq_true] at h
    obtain ⟨hunique, -, hgiven⟩ := h
    cases hgiven
    exact ⟨rfl, hunique⟩
  | _ => cases h

theorem any_name_eq_isSome_lookup (choices : List (String × Reader α)) (name : String) :
    (choices.any fun choice => choice.1 == name) = (choices.lookup name).isSome := by
  rw [Bool.eq_iff_iff, List.any_eq_true, List.lookup_isSome_iff]
  simp only [beq_iff_eq, @eq_comm _ name]

end RpcRouting.Wire
