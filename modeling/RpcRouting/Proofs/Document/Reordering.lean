import RpcRouting.Proofs.Document.Plain
import Mathlib.Data.List.Forall2

namespace RpcRouting.Document

-- Members of one name. The name decides how their values are related.
inductive MemberRel (R : String → Value → Value → Prop) :
    String × Value → String × Value → Prop where
  | intro (name : String) {a b : Value} (h : R name a b) : MemberRel R (name, a) (name, b)

namespace Value

-- The same tree with the members of its objects in another order. Every object, at whatever depth,
-- may be put in an order of its own.
inductive Reordered : Value → Value → Prop where
  | same (value : Value) : Reordered value value
  | array {items items' : List Value} (hitems : List.Forall₂ Reordered items items') :
    Reordered (.array items) (.array items')
  | object {members middle members' : List (String × Value)}
    (hmembers : List.Forall₂ (MemberRel fun _ => Reordered) members middle)
    (hperm : middle.Perm members') : Reordered (.object members) (.object members')

namespace Reordered

variable {value other : Value} {items : List Value} {members : List (String × Value)}

theorem array_left (h : Reordered (.array items) other) :
    ∃ items', other = .array items' ∧ List.Forall₂ Reordered items items' := by
  cases h with
  | same => exact ⟨items, rfl, List.forall₂_same.mpr fun item _ => .same item⟩
  | array hitems => exact ⟨_, rfl, hitems⟩

theorem object_left (h : Reordered (.object members) other) :
    ∃ middle members', other = .object members' ∧
      List.Forall₂ (MemberRel fun _ => Reordered) members middle ∧ middle.Perm members' := by
  cases h with
  | same =>
    exact ⟨members, members, rfl, List.forall₂_same.mpr fun m _ => .intro m.1 (.same m.2), .refl _⟩
  | object hmembers hperm => exact ⟨_, _, rfl, hmembers, hperm⟩

theorem null_iff (h : Reordered value other) : other = .null ↔ value = .null := by
  cases h <;> simp

end Reordered

theorem readableItems_eq_of_forall₂ {R : Value → Value → Prop} {items items' : List Value}
    (hR : ∀ item ∈ items, ∀ item', R item item' → item'.readable = item.readable)
    (h : List.Forall₂ R items items') : readableItems items' = readableItems items := by
  induction h with
  | nil => rfl
  | @cons item item' rest rest' hitem _ ih =>
    have hrest := ih fun i hi => hR i (List.mem_cons_of_mem _ hi)
    rw [readableItems, readableItems, hR item List.mem_cons_self item' hitem, hrest]

theorem readableMembers_eq_of_forall₂ {R : String → Value → Value → Prop}
    {members members' : List (String × Value)}
    (hR : ∀ m ∈ members, ∀ value, R m.1 m.2 value → value.readable = m.2.readable)
    (h : List.Forall₂ (MemberRel R) members members') :
    readableMembers members' = readableMembers members := by
  induction h with
  | nil => rfl
  | @cons m m' rest rest' hm _ ih =>
    have hrest := ih fun i hi => hR i (List.mem_cons_of_mem _ hi)
    obtain ⟨name, hvalue⟩ := hm
    rw [readableMembers, readableMembers, hR _ List.mem_cons_self _ hvalue, hrest]

theorem readableMembers_eq_of_perm {members members' : List (String × Value)}
    (h : members.Perm members') : readableMembers members' = readableMembers members := by
  rw [Bool.eq_iff_iff, readableMembers_eq_true_iff, readableMembers_eq_true_iff]
  simp only [h.mem_iff]

-- The order of members has no part in whether a tree can be read.
theorem Reordered.readable_eq {value other : Value} (h : Reordered value other) :
    other.readable = value.readable := by
  match value with
  | .array items =>
    obtain ⟨items', rfl, hitems⟩ := h.array_left
    exact readableItems_eq_of_forall₂ (fun item _ item' hi => hi.readable_eq) hitems
  | .object members =>
    obtain ⟨middle, members', rfl, hmembers, hperm⟩ := h.object_left
    have hmiddle := readableMembers_eq_of_forall₂ (fun m _ part hp => hp.readable_eq) hmembers
    exact (readableMembers_eq_of_perm hperm).trans hmiddle
  | .null | .bool _ | .int _ | .float _ _ | .string _ | .unreadable =>
    cases h
    rfl
termination_by sizeOf value
decreasing_by
  · have hlt := List.sizeOf_lt_of_mem ‹item ∈ items›
    simp only [array.sizeOf_spec]
    omega
  · have hlt := List.sizeOf_lt_of_mem ‹m ∈ members›
    obtain ⟨name, part⟩ := m
    simp only [object.sizeOf_spec, Prod.mk.sizeOf_spec] at hlt ⊢
    omega

end Value

end RpcRouting.Document
