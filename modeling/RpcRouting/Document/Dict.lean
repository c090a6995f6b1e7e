namespace RpcRouting

-- A table of named values, in ascending order of the names. Each name stands once.
structure Dict (α : Type) where
  entries : List (String × α)
  ascending : entries.Pairwise (fun a b => a.1 < b.1)

namespace Dict

variable {α β : Type}

theorem ext_entries {a b : Dict α} (h : a.entries = b.entries) : a = b := by
  cases a
  cases b
  subst h
  rfl

instance [DecidableEq α] : DecidableEq (Dict α) := fun a b =>
  if h : a.entries = b.entries then isTrue (ext_entries h)
  else isFalse fun hab => h (congrArg entries hab)

instance [Repr α] : Repr (Dict α) where
  reprPrec dict _ := repr dict.entries

def empty : Dict α := ⟨[], .nil⟩

instance : Inhabited (Dict α) := ⟨empty⟩

-- Puts an entry in its place. An entry of the same name is replaced.
def put (name : String) (value : α) : List (String × α) → List (String × α)
  | [] => [(name, value)]
  | entry :: rest =>
    if name < entry.1 then (name, value) :: entry :: rest
    else if name = entry.1 then (name, value) :: rest
    else entry :: put name value rest

theorem mem_put {name : String} {value : α} {entry : String × α} {entries : List (String × α)}
    (h : entry ∈ put name value entries) : entry = (name, value) ∨ entry ∈ entries := by
  induction entries with
  | nil => exact Or.inl (List.mem_singleton.mp h)
  | cons head rest ih =>
    unfold put at h
    split at h
    · rcases List.mem_cons.mp h with h | h
      · exact Or.inl h
      · exact Or.inr h
    · split at h
      · rcases List.mem_cons.mp h with h | h
        · exact Or.inl h
        · exact Or.inr (List.mem_cons_of_mem _ h)
      · rcases List.mem_cons.mp h with h | h
        · exact Or.inr (h ▸ List.mem_cons_self)
        · exact (ih h).imp_right (List.mem_cons_of_mem _)

theorem lt_of_not_lt_of_ne {a b : String} (hlt : ¬ a < b) (hne : a ≠ b) : b < a :=
  String.not_le.mp fun h => hne (String.le_antisymm h (String.not_lt.mp hlt))

theorem put_ascending (name : String) (value : α) {entries : List (String × α)}
    (h : entries.Pairwise (fun a b => a.1 < b.1)) :
    (put name value entries).Pairwise (fun a b => a.1 < b.1) := by
  induction entries with
  | nil => exact List.pairwise_singleton _ _
  | cons head rest ih =>
    have hrest := List.pairwise_cons.mp h
    unfold put
    split
    case isTrue hlt =>
      refine List.pairwise_cons.mpr ⟨fun entry hentry => ?_, h⟩
      rcases List.mem_cons.mp hentry with he | he
      · exact he ▸ hlt
      · exact String.lt_trans hlt (hrest.1 entry he)
    case isFalse hlt =>
      split
      case isTrue heq =>
        exact List.pairwise_cons.mpr ⟨fun entry he => heq ▸ hrest.1 entry he, hrest.2⟩
      case isFalse hne =>
        refine List.pairwise_cons.mpr ⟨fun entry hentry => ?_, ih hrest.2⟩
        rcases mem_put hentry with he | he
        · exact he ▸ lt_of_not_lt_of_ne hlt hne
        · exact hrest.1 entry he

def insert (name : String) (value : α) (dict : Dict α) : Dict α :=
  ⟨put name value dict.entries, put_ascending name value dict.ascending⟩

-- The last of several entries of one name counts.
def ofList (entries : List (String × α)) : Dict α :=
  entries.foldl (fun dict entry => dict.insert entry.1 entry.2) empty

def toList (dict : Dict α) : List (String × α) := dict.entries

def map (f : α → β) (dict : Dict α) : Dict β :=
  ⟨dict.entries.map fun entry => (entry.1, f entry.2), by
    rw [List.pairwise_map]
    exact dict.ascending⟩

end Dict

end RpcRouting
