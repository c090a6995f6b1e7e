import RpcRouting.Document.Value

namespace RpcRouting.Document.Value

-- A part of a tree, the tree itself among them.
inductive Part : Value → Value → Prop where
  | self (value : Value) : Part value value
  | item {part item : Value} {items : List Value} (hitem : item ∈ items) (hpart : Part part item) :
    Part part (.array items)
  | member {part : Value} {member : String × Value} {members : List (String × Value)}
    (hmember : member ∈ members) (hpart : Part part member.2) : Part part (.object members)

-- Trees of 64-bit integers, without fractions and with nothing unreadable, in which at most
-- `depth` arrays and objects stand one inside the other and the names of every object are as
-- `names` says.
inductive Plain (names : List String → Prop) : Nat → Value → Prop where
  | null {depth : Nat} : Plain names depth .null
  | bool {depth : Nat} (b : Bool) : Plain names depth (.bool b)
  | int {depth : Nat} {n : Int} (hlow : Int64.minValue.toInt ≤ n) (hhigh : n < UInt64.size) :
    Plain names depth (.int n)
  | string {depth : Nat} (s : String) : Plain names depth (.string s)
  | array {depth : Nat} {items : List Value} (hitems : ∀ item ∈ items, Plain names depth item) :
    Plain names (depth + 1) (.array items)
  | object {depth : Nat} {members : List (String × Value)}
    (hnames : names (members.map Prod.fst))
    (hmembers : ∀ member ∈ members, Plain names depth member.2) :
    Plain names (depth + 1) (.object members)

variable {names : List String → Prop} {depth : Nat} {value : Value}

theorem readableItems_eq_true_iff (items : List Value) :
    readableItems items = true ↔ ∀ item ∈ items, item.readable = true := by
  induction items with
  | nil => simp [readableItems]
  | cons item rest ih => rw [readableItems, Bool.and_eq_true, ih, List.forall_mem_cons]

theorem readableMembers_eq_true_iff (members : List (String × Value)) :
    readableMembers members = true ↔ ∀ member ∈ members, member.2.readable = true := by
  induction members with
  | nil => simp [readableMembers]
  | cons member rest ih => rw [readableMembers, Bool.and_eq_true, ih, List.forall_mem_cons]

theorem Plain.readable (h : Plain names depth value) : value.readable = true := by
  induction h with
  | array _ ih => exact (readableItems_eq_true_iff _).mpr ih
  | object _ _ ih => exact (readableMembers_eq_true_iff _).mpr ih
  | _ => rfl

-- What holds of the names of one object holds of those of every object inside.
theorem Plain.names_of_part {members : List (String × Value)} (h : Plain names depth value)
    (hpart : Part (.object members) value) : names (members.map Prod.fst) := by
  induction h with
  | array _ ih =>
    cases hpart with
    | item hitem hpart => exact ih _ hitem hpart
  | object hnames _ ih =>
    cases hpart with
    | self => exact hnames
    | member hmember hpart => exact ih _ hmember hpart
  | _ => cases hpart

end RpcRouting.Document.Value
