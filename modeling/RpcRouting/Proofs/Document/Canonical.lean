import RpcRouting.Proofs.Document.Reordering
import Mathlib.Data.List.Perm.Basic

namespace RpcRouting

namespace Dict

variable {α : Type} {name : String} {value : α} {entry : String × α}
  {entries entries' : List (String × α)}

theorem nodup_names (dict : Dict α) : (dict.toList.map Prod.fst).Nodup :=
  List.pairwise_map.mpr (dict.ascending.imp String.ne_of_lt)

theorem eq_of_perm {a b : Dict α} (h : a.toList.Perm b.toList) : a = b :=
  ext_entries (h.eq_of_pairwise (fun _ _ _ _ hab hba => absurd hab (String.lt_asymm hba))
    a.ascending b.ascending)

theorem put_perm (h : name ∉ entries.map Prod.fst) :
    (put name value entries).Perm ((name, value) :: entries) := by
  induction entries with
  | nil => exact .refl _
  | cons first rest ih =>
    rw [List.map_cons, List.mem_cons, not_or] at h
    unfold put
    split
    · exact .refl _
    · rw [if_neg h.1]
      exact ((ih h.2).cons first).trans (.swap ..)

-- Entries of different names all find their place.

theorem foldl_insert_perm (dict : Dict α) (h : ((dict.toList ++ entries).map Prod.fst).Nodup) :
    (entries.foldl (fun dict entry => dict.insert entry.1 entry.2) dict).toList.Perm
      (dict.toList ++ entries) := by
  induction entries generalizing dict with
  | nil => simp
  | cons first rest ih =>
    have hput : (dict.insert first.1 first.2).toList.Perm (first :: dict.toList) := by
      refine put_perm fun hmem => ?_
      rw [List.map_append, List.map_cons, List.nodup_append] at h
      exact h.2.2 _ hmem _ List.mem_cons_self rfl
    have hall : ((dict.insert first.1 first.2).toList ++ rest).Perm (dict.toList ++ first :: rest) :=
      (hput.append_right rest).trans List.perm_middle.symm
    exact (ih _ ((hall.map Prod.fst).nodup_iff.mpr h)).trans hall

theorem ofList_perm (h : (entries.map Prod.fst).Nodup) : (ofList entries).toList.Perm entries :=
  foldl_insert_perm empty h

theorem ofList_eq_of_perm (h : (entries.map Prod.fst).Nodup) (hp : entries.Perm entries') :
    ofList entries' = ofList entries := by
  have h' : (entries'.map Prod.fst).Nodup := (hp.map Prod.fst).nodup_iff.mp h
  exact eq_of_perm ((ofList_perm h').trans (hp.symm.trans (ofList_perm h).symm))

theorem ofList_toList (dict : Dict α) : ofList dict.toList = dict :=
  eq_of_perm (ofList_perm dict.nodup_names)

theorem mem_foldl_insert (dict : Dict α)
    (h : entry ∈ (entries.foldl (fun dict entry => dict.insert entry.1 entry.2) dict).toList) :
    entry ∈ dict.toList ∨ entry ∈ entries := by
  induction entries generalizing dict with
  | nil => exact .inl h
  | cons first rest ih =>
    rcases ih _ h with h | h
    · rcases mem_put h with rfl | h
      · exact .inr List.mem_cons_self
      · exact .inl h
    · exact .inr (List.mem_cons_of_mem _ h)

theorem mem_of_mem_ofList (h : entry ∈ (ofList entries).toList) : entry ∈ entries :=
  (mem_foldl_insert empty h).resolve_left List.not_mem_nil

end Dict

namespace Document.Value

variable {names names' : List String → Prop} {depth : Nat} {value : Value}

theorem canonicalItems_eq_map (items : List Value) : canonicalItems items = items.map canonical := by
  induction items with
  | nil => rfl
  | cons item rest ih => rw [canonicalItems, ih, List.map_cons]

theorem canonicalMembers_eq_map (members : List (String × Value)) :
    canonicalMembers members = members.map fun m => (m.1, m.2.canonical) := by
  induction members with
  | nil => rfl
  | cons m rest ih => rw [canonicalMembers, ih, List.map_cons]

theorem Plain.imp (himp : ∀ list, names list → names' list) (h : Plain names depth value) :
    Plain names' depth value := by
  induction h with
  | null => exact .null
  | bool b => exact .bool b
  | int hlow hhigh => exact .int hlow hhigh
  | string s => exact .string s
  | array _ ih => exact .array ih
  | object hnames _ ih => exact .object (himp _ hnames) ih

-- A plain tree stays plain, and in no object of its canonical form a name stands twice.
theorem Plain.canonical (h : Plain names depth value) : Plain List.Nodup depth value.canonical := by
  induction h with
  | null => exact .null
  | bool b => exact .bool b
  | int hlow hhigh => exact .int hlow hhigh
  | string s => exact .string s
  | array _ ih =>
    rw [Value.canonical, canonicalItems_eq_map]
    exact .array (List.forall_mem_map.mpr ih)
  | @object depth members _ _ ih =>
    rw [Value.canonical, canonicalMembers_eq_map]
    refine .object (Dict.nodup_names _) fun m hm => ?_
    obtain ⟨original, ho, rfl⟩ := List.mem_map.mp (Dict.mem_of_mem_ofList hm)
    exact ih original ho

-- Where no name stands twice, the canonical form is the same tree in another order.
theorem Plain.reordered_canonical (h : Plain List.Nodup depth value) :
    value.Reordered value.canonical := by
  induction h with
  | array _ ih =>
    rw [Value.canonical, canonicalItems_eq_map]
    exact .array (List.forall₂_map_right_iff.mpr (List.forall₂_same.mpr ih))
  | @object depth members hnames _ ih =>
    rw [Value.canonical, canonicalMembers_eq_map]
    refine .object (List.forall₂_map_right_iff.mpr (List.forall₂_same.mpr fun m hm =>
      .intro m.1 (ih m hm))) (Dict.ofList_perm ?_).symm
    rwa [List.map_map]
  | _ => exact .same _

end Document.Value

end RpcRouting
