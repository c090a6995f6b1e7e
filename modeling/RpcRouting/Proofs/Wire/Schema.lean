import RpcRouting.Proofs.Document.Reordering
import RpcRouting.Proofs.Wire.Reader

namespace RpcRouting.Wire

open Document

-- What a part of a document is read as, for as much as edits depend on it: in which trees the order
-- of members has no say, and what a tree may be turned into.
structure Schema where
  settled : Value → Prop
  edited : Value → Value → Prop
  of_reordered : ∀ {value other}, value.Reordered other → edited value other
  readable_eq : ∀ {value other}, edited value other → other.readable = value.readable
  null_iff : ∀ {value other}, edited value other → (other = .null ↔ value = .null)

-- The schemas of members of a message, by name.
abbrev Schemas := List (String × Schema)

namespace Schema

variable {α : Type} {value other : Value} {items items' : List Value}
  {members kept added members' : Members} {fields choices : Schemas}

-- A part without messages. Its objects may be put in another order, and that is all.
def leaf : Schema where
  settled _ := True
  edited := Value.Reordered
  of_reordered h := h
  readable_eq h := h.readable_eq
  null_iff h := h.null_iff

inductive ListEdited (item : Schema) : Value → Value → Prop where
  | reordered {value other : Value} (h : value.Reordered other) : ListEdited item value other
  | items {items items' : List Value} (h : List.Forall₂ item.edited items items') :
    ListEdited item (.array items) (.array items')

-- An array whose items are all read alike.
def list (item : Schema) : Schema where
  settled value := ∀ items, value = .array items → ∀ i ∈ items, item.settled i
  edited := ListEdited item
  of_reordered h := .reordered h
  readable_eq h := by
    cases h with
    | reordered h => exact h.readable_eq
    | items h => exact Value.readableItems_eq_of_forall₂ (fun _ _ _ hi => item.readable_eq hi) h
  null_iff h := by
    cases h with
    | reordered h => exact h.null_iff
    | items h => simp

-- The schema of a member. Members that a message does not know are not read at all.
def ofName (known : Schemas) (name : String) : Schema := (known.lookup name).getD leaf

-- An array that stands for a message gives its fields in order.
inductive SlotsEdited : Schemas → List Value → List Value → Prop where
  | nil (fields : Schemas) : SlotsEdited fields [] []
  | field {name : String} {schema : Schema} {fields : Schemas} {item item' : Value}
    {items items' : List Value} (hitem : schema.edited item item')
    (hitems : SlotsEdited fields items items') :
    SlotsEdited ((name, schema) :: fields) (item :: items) (item' :: items')
  | excess {items items' : List Value} (h : List.Forall₂ Value.Reordered items items') :
    SlotsEdited [] items items'

inductive MessageEdited (fields choices : Schemas) : Value → Value → Prop where
  | reordered {value other : Value} (h : value.Reordered other) :
    MessageEdited fields choices value other
  | slots {items items' : List Value} (h : SlotsEdited fields items items') :
    MessageEdited fields choices (.array items) (.array items')
  -- every member is kept, members that the message does not know are added, and all are put in
  -- another order
  | members {members members' : Members} (kept added : Members)
    (hkept : List.Forall₂ (MemberRel fun name => (ofName (fields ++ choices) name).edited)
      members kept)
    (hadded : ∀ m ∈ added, m.1 ∉ (fields ++ choices).map Prod.fst ∧ m.2.readable = true)
    (hperm : (kept ++ added).Perm members') :
    MessageEdited fields choices (.object members) (.object members')

theorem SlotsEdited.readable_eq (h : SlotsEdited fields items items') :
    Value.readableItems items' = Value.readableItems items := by
  induction h with
  | nil => rfl
  | @field _ schema _ _ _ _ _ hitem _ ih =>
    rw [Value.readableItems, Value.readableItems, schema.readable_eq hitem, ih]
  | excess h => exact Value.readableItems_eq_of_forall₂ (fun _ _ _ hi => hi.readable_eq) h

theorem SlotsEdited.of_reordered (h : List.Forall₂ Value.Reordered items items') :
    SlotsEdited fields items items' := by
  induction fields generalizing items items' with
  | nil => exact .excess h
  | cons field fields ih =>
    cases h with
    | nil => exact .nil _
    | cons hitem hitems => exact .field (field.2.of_reordered hitem) (ih hitems)

theorem SlotsEdited.length_eq (h : SlotsEdited fields items items') :
    items'.length = items.length := by
  induction h with
  | nil => rfl
  | field _ _ ih => rw [List.length_cons, List.length_cons, ih]
  | excess h => exact h.length_eq.symm

theorem readableMembers_eq
    (hkept : List.Forall₂ (MemberRel fun name => (ofName (fields ++ choices) name).edited)
      members kept)
    (hadded : ∀ m ∈ added, m.1 ∉ (fields ++ choices).map Prod.fst ∧ m.2.readable = true)
    (hperm : (kept ++ added).Perm members') :
    Value.readableMembers members' = Value.readableMembers members := by
  have hk := Value.readableMembers_eq_of_forall₂
    (fun m _ part hp => (ofName (fields ++ choices) m.1).readable_eq hp) hkept
  rw [Value.readableMembers_eq_of_perm hperm, ← hk, Bool.eq_iff_iff]
  simp only [Value.readableMembers_eq_true_iff, List.forall_mem_append, and_iff_left_iff_imp]
  exact fun _ m hm => (hadded m hm).2

def MessageSettled (fields choices : Schemas) : Value → Prop
  | .object members =>
    ((members.map Prod.fst).filter (choices.map Prod.fst).contains).length ≤ 1 ∧
      ∀ m ∈ members, (ofName (fields ++ choices) m.1).settled m.2
  | .array items => ∀ slot ∈ fields.zip items, slot.1.2.settled slot.2
  | _ => True

-- A message with its fields and its alternatives. One alternative at most is named. Members that
-- are neither may be added, as long as they can be passed over.
def message (fields choices : Schemas) : Schema where
  settled := MessageSettled fields choices
  edited := MessageEdited fields choices
  of_reordered h := .reordered h
  readable_eq h := by
    cases h with
    | reordered h => exact h.readable_eq
    | slots h => exact h.readable_eq
    | members kept added hkept hadded hperm => exact readableMembers_eq hkept hadded hperm
  null_iff h := by
    cases h with
    | reordered h => exact h.null_iff
    | slots h => simp
    | members => simp

-- The members of a message before and after an edit, as a reader of the message sees them.
structure Alike (fields choices : Schemas) (members members' : Members) : Prop where
  field : ∀ name schema, fields.lookup name = some schema →
    Option.Rel (fun a b => schema.settled a ∧ schema.edited a b)
      (members.lookup name) (members'.lookup name)
  choice : Option.Rel
    (MemberRel fun name a b => ∀ schema, choices.lookup name = some schema →
      schema.settled a ∧ schema.edited a b)
    (members.find? fun m => (choices.map Prod.fst).contains m.1)
    (members'.find? fun m => (choices.map Prod.fst).contains m.1)

theorem edited_refl (schema : Schema) (value : Value) : schema.edited value value :=
  schema.of_reordered (.same value)

theorem ListEdited.array_left {item : Schema} (h : ListEdited item (.array items) other) :
    ∃ items', other = .array items' ∧ List.Forall₂ item.edited items items' := by
  cases h with
  | reordered h =>
    obtain ⟨items', rfl, hitems⟩ := h.array_left
    exact ⟨items', rfl, hitems.imp fun _ _ => item.of_reordered⟩
  | items h => exact ⟨_, rfl, h⟩

theorem MessageEdited.array_left (h : MessageEdited fields choices (.array items) other) :
    ∃ items', other = .array items' ∧ SlotsEdited fields items items' := by
  cases h with
  | reordered h =>
    obtain ⟨items', rfl, hitems⟩ := h.array_left
    exact ⟨items', rfl, .of_reordered hitems⟩
  | slots h => exact ⟨_, rfl, h⟩

theorem MessageEdited.object_left (h : MessageEdited fields choices (.object members) other) :
    ∃ kept added members', other = .object members' ∧
      List.Forall₂ (MemberRel fun name => (ofName (fields ++ choices) name).edited) members kept ∧
      (∀ m ∈ added, m.1 ∉ (fields ++ choices).map Prod.fst ∧ m.2.readable = true) ∧
      (kept ++ added).Perm members' := by
  cases h with
  | reordered h =>
    obtain ⟨middle, members', rfl, hmiddle, hperm⟩ := h.object_left
    refine ⟨middle, [], members', rfl, hmiddle.imp ?_, by simp, by simpa using hperm⟩
    rintro _ _ ⟨name, hvalue⟩
    exact .intro name ((ofName _ name).of_reordered hvalue)
  | members kept added hkept hadded hperm => exact ⟨kept, added, _, rfl, hkept, hadded, hperm⟩

theorem names_eq {R : String → Value → Value → Prop} (h : List.Forall₂ (MemberRel R) members kept) :
    kept.map Prod.fst = members.map Prod.fst := by
  induction h with
  | nil => rfl
  | cons hm _ ih =>
    obtain ⟨name, -⟩ := hm
    rw [List.map_cons, List.map_cons, ih]

theorem exists_kept {R : String → Value → Value → Prop}
    (h : List.Forall₂ (MemberRel R) members kept) {name : String} (hm : (name, value) ∈ members) :
    ∃ part, (name, part) ∈ kept ∧ R name value part := by
  induction h with
  | nil => cases hm
  | cons hfirst _ ih =>
    rcases List.mem_cons.mp hm with rfl | hm
    · obtain ⟨_, hvalue⟩ := hfirst
      exact ⟨_, List.mem_cons_self, hvalue⟩
    · obtain ⟨part, hpart, hvalue⟩ := ih hm
      exact ⟨part, List.mem_cons_of_mem _ hpart, hvalue⟩

-- An edit adds names, but none that the message knows.
theorem perm_names {R : String → Value → Value → Prop}
    (hkept : List.Forall₂ (MemberRel R) members kept) (hperm : (kept ++ added).Perm members') :
    (members'.map Prod.fst).Perm (members.map Prod.fst ++ added.map Prod.fst) := by
  rw [← names_eq hkept, ← List.map_append]
  exact (hperm.map Prod.fst).symm

theorem hasRepeated_eq {names : List String}
    (hnames : (members'.map Prod.fst).Perm (members.map Prod.fst ++ added.map Prod.fst))
    (hadded : ∀ m ∈ added, m.1 ∉ names) :
    hasRepeated names members' = hasRepeated names members := by
  have hcount : ∀ name ∈ names,
      (members'.map Prod.fst).count name = (members.map Prod.fst).count name := by
    intro name hname
    have hzero : (added.map Prod.fst).count name = 0 := by
      rw [List.count_eq_zero, List.mem_map]
      rintro ⟨m, hm, rfl⟩
      exact hadded m hm hname
    rw [hnames.count_eq, List.count_append, hzero, Nat.add_zero]
  rw [← Bool.not_inj_iff, Bool.eq_iff_iff]
  simp only [Bool.not_eq_true', hasRepeated_eq_false_iff]
  exact forall₂_congr fun name hname => by rw [hcount name hname]

-- A name that stands once stands for one value.
theorem lookup_eq_some_iff_mem {name : String} (h : (members.map Prod.fst).count name ≤ 1) :
    members.lookup name = some value ↔ (name, value) ∈ members := by
  induction members with
  | nil => simp
  | cons m rest ih =>
    obtain ⟨first, part⟩ := m
    simp only [List.map_cons, List.count_cons] at h
    by_cases hn : name = first
    · subst hn
      have hnot : (name, value) ∉ rest := by
        intro hm
        have hpos : 0 < (rest.map Prod.fst).count name :=
          List.count_pos_iff.mpr (List.mem_map.mpr ⟨_, hm, rfl⟩)
        simp only [beq_self_eq_true, if_true] at h
        omega
      simp [hnot, eq_comm]
    · have hcount : (rest.map Prod.fst).count name ≤ 1 := by omega
      simp [List.lookup_cons, beq_false_of_ne hn, ih hcount, hn]

theorem find?_eq_some_of_length_le {p : String × Value → Bool} {m : String × Value}
    (h : (members.filter p).length ≤ 1) (hm : m ∈ members) (hp : p m = true) :
    members.find? p = some m := by
  have hmem : m ∈ members.filter p := List.mem_filter.mpr ⟨hm, hp⟩
  have hone : members.filter p = [m] := by
    obtain ⟨first, hfirst⟩ := List.length_eq_one_iff.mp
      (Nat.le_antisymm h (List.length_pos_of_mem hmem))
    rw [hfirst, List.mem_singleton] at hmem
    rw [hfirst, hmem]
  rw [← List.head?_filter, hone, List.head?_cons]

theorem rel_mono {β γ : Type} {R S : β → γ → Prop} {b : Option β} {c : Option γ}
    (h : Option.Rel R b c) (himp : ∀ x y, R x y → S x y) : Option.Rel S b c := by
  cases h with
  | none => exact .none
  | some hxy => exact .some (himp _ _ hxy)

theorem name_mem {R : String → Value → Value → Prop}
    (hkept : List.Forall₂ (MemberRel R) members kept) (hperm : (kept ++ added).Perm members')
    {m : String × Value} (hm : m ∈ members') :
    m.1 ∈ members.map Prod.fst ∨ m.1 ∈ added.map Prod.fst :=
  List.mem_append.mp ((perm_names hkept hperm).mem_iff.mp (List.mem_map_of_mem hm))

-- Of a field that is not repeated, the one value stays where it can be looked up.
theorem rel_lookup {R : String → Value → Value → Prop} {name : String}
    (hcount : (members.map Prod.fst).count name ≤ 1)
    (hcount' : (members'.map Prod.fst).count name ≤ 1)
    (hkept : List.Forall₂ (MemberRel R) members kept) (hperm : (kept ++ added).Perm members')
    (hadded : name ∉ added.map Prod.fst) :
    Option.Rel (fun a b => (name, a) ∈ members ∧ R name a b)
      (members.lookup name) (members'.lookup name) := by
  cases hv : members.lookup name with
  | none =>
    have hnone : members'.lookup name = none := by
      rw [List.lookup_eq_none_iff] at hv ⊢
      intro m hm
      rcases name_mem hkept hperm hm with hmem | hmem
      · obtain ⟨old, ho, he⟩ := List.mem_map.mp hmem
        exact he ▸ hv old ho
      · exact bne_iff_ne.mpr fun h => hadded (h ▸ hmem)
    rw [hnone]
    exact .none
  | some value =>
    have hmem := (lookup_eq_some_iff_mem hcount).mp hv
    obtain ⟨part, hpart, hedited⟩ := exists_kept hkept hmem
    have hsome : members'.lookup name = some part :=
      (lookup_eq_some_iff_mem hcount').mpr (hperm.mem_iff.mp (List.mem_append_left _ hpart))
    rw [hsome]
    exact .some ⟨hmem, hedited⟩

-- Where one name at most is among some others, the first member of such a name is the only one, and
-- stays it.
theorem rel_find? {R : String → Value → Value → Prop} {names : List String}
    (hone : ((members.map Prod.fst).filter names.contains).length ≤ 1)
    (hkept : List.Forall₂ (MemberRel R) members kept) (hperm : (kept ++ added).Perm members')
    (hadded : ∀ m ∈ added, m.1 ∉ names) :
    Option.Rel (fun a b => a ∈ members ∧ a.1 ∈ names ∧ MemberRel R a b)
      (members.find? fun m => names.contains m.1) (members'.find? fun m => names.contains m.1) := by
  cases hf : members.find? fun m => names.contains m.1 with
  | none =>
    have hnone : members'.find? (fun m => names.contains m.1) = none := by
      rw [List.find?_eq_none] at hf ⊢
      intro m hm
      rcases name_mem hkept hperm hm with hmem | hmem
      · obtain ⟨old, ho, he⟩ := List.mem_map.mp hmem
        exact he ▸ hf old ho
      · obtain ⟨new, hn, he⟩ := List.mem_map.mp hmem
        have hnot := hadded new hn
        rw [he] at hnot
        simpa using hnot
    rw [hnone]
    exact .none
  | some m =>
    have hmem := List.mem_of_find?_eq_some hf
    have hname := List.find?_some hf
    obtain ⟨name, value⟩ := m
    obtain ⟨part, hpart, hedited⟩ := exists_kept hkept hmem
    have hnone : (added.map Prod.fst).filter names.contains = [] := by
      rw [List.filter_eq_nil_iff]
      intro other ho
      obtain ⟨new, hn, rfl⟩ := List.mem_map.mp ho
      simpa using hadded new hn
    have hone' : (members'.filter fun m => names.contains m.1).length ≤ 1 := by
      have hlength := ((perm_names hkept hperm).filter names.contains).length_eq
      rw [List.filter_append, hnone, List.append_nil, List.filter_map, List.length_map] at hlength
      exact hlength ▸ hone
    have hsome : members'.find? (fun m => names.contains m.1) = some (name, part) :=
      find?_eq_some_of_length_le hone' (hperm.mem_iff.mp (List.mem_append_left _ hpart)) hname
    rw [hsome]
    exact .some ⟨hmem, by simpa using hname, .intro name hedited⟩

-- Fields and alternatives keep their values but for edits of these, so that whoever knows no more
-- than them sees the same message.
theorem alike_of_edited
    (hdisjoint : ∀ name ∈ choices.map Prod.fst, name ∉ fields.map Prod.fst)
    (hunique : hasRepeated (fields.map Prod.fst) members = false)
    (hsettled : MessageSettled fields choices (.object members))
    (hkept : List.Forall₂ (MemberRel fun name => (ofName (fields ++ choices) name).edited)
      members kept)
    (hadded : ∀ m ∈ added, m.1 ∉ (fields ++ choices).map Prod.fst ∧ m.2.readable = true)
    (hperm : (kept ++ added).Perm members') : Alike fields choices members members' := by
  obtain ⟨hone, hparts⟩ := hsettled
  have hnew : ∀ m ∈ added, m.1 ∉ fields.map Prod.fst ∧ m.1 ∉ choices.map Prod.fst := by
    intro m hm
    have h := (hadded m hm).1
    rwa [List.map_append, List.mem_append, not_or] at h
  have hunique' : hasRepeated (fields.map Prod.fst) members' = false := by
    rw [hasRepeated_eq (perm_names hkept hperm) fun m hm => (hnew m hm).1, hunique]
  rw [hasRepeated_eq_false_iff] at hunique hunique'
  constructor
  · intro name schema hl
    have hname : name ∈ fields.map Prod.fst := by
      obtain ⟨before, after, rfl, -⟩ := List.lookup_eq_some_iff.mp hl
      simp
    have hschema : ofName (fields ++ choices) name = schema := by
      simp [ofName, List.lookup_append, hl]
    have hnot : name ∉ added.map Prod.fst := by
      intro hmem
      obtain ⟨new, hn, rfl⟩ := List.mem_map.mp hmem
      exact (hnew new hn).1 hname
    refine rel_mono (rel_lookup (hunique name hname) (hunique' name hname) hkept hperm hnot) ?_
    rintro a b ⟨hmem, hedited⟩
    exact ⟨hschema ▸ hparts _ hmem, hschema ▸ hedited⟩
  · refine rel_mono (rel_find? hone hkept hperm fun m hm => (hnew m hm).2) ?_
    rintro _ _ ⟨hmem, hname, ⟨name, hedited⟩⟩
    refine .intro name fun schema hl => ?_
    have hfield : fields.lookup name = none := by
      rw [List.lookup_eq_none_iff]
      intro field hf
      exact bne_iff_ne.mpr fun h => hdisjoint name hname (h ▸ List.mem_map_of_mem hf)
    have hschema : ofName (fields ++ choices) name = schema := by
      simp [ofName, List.lookup_append, hfield, hl]
    exact ⟨hschema ▸ hparts _ hmem, hschema ▸ hedited⟩

-- An array gives a message by its first fields, and no alternative.
theorem alike_of_slots (hsettled : ∀ slot ∈ fields.zip items, slot.1.2.settled slot.2)
    (h : SlotsEdited fields items items') :
    Alike fields [] ((fields.map Prod.fst).zip items) ((fields.map Prod.fst).zip items') := by
  have hno : ∀ ms : Members, ms.find? (fun m => ([] : List String).contains m.1) = none := by
    simp
  refine ⟨?_, by rw [List.map_nil, hno, hno]; exact .none⟩
  intro name schema hl
  induction h with
  | nil => simp only [List.zip_nil_right, List.lookup_nil, Option.Rel.none]
  | @field first slot _ item item' _ _ hitem _ ih =>
    rw [List.zip_cons_cons, List.forall_mem_cons] at hsettled
    rw [List.lookup_cons] at hl
    rw [List.map_cons, List.zip_cons_cons, List.zip_cons_cons, List.lookup_cons, List.lookup_cons]
    cases hn : name == first with
    | true =>
      rw [hn] at hl
      cases hl
      exact .some ⟨hsettled.1, hitem⟩
    | false =>
      rw [hn] at hl
      exact ih hsettled.2 hl
  | excess => cases hl

-- An edited message is read through the same fields, or is no message before and after.
theorem members?_rel (hsettled : (message fields []).settled value)
    (h : (message fields []).edited value other) :
    Option.Rel (Alike fields []) (members? (fields.map Prod.fst) value)
      (members? (fields.map Prod.fst) other) := by
  cases value with
  | object members =>
    obtain ⟨kept, added, members', rfl, hkept, hadded, hperm⟩ := MessageEdited.object_left h
    have hnew : ∀ m ∈ added, m.1 ∉ fields.map Prod.fst := by
      intro m hm
      have hname := (hadded m hm).1
      rwa [List.append_nil] at hname
    have hrepeated := hasRepeated_eq (perm_names hkept hperm) hnew
    rw [members?, members?, hrepeated]
    cases hunique : hasRepeated (fields.map Prod.fst) members with
    | true => exact .none
    | false => exact .some (alike_of_edited (by simp) hunique hsettled hkept hadded hperm)
  | array items =>
    obtain ⟨items', rfl, hitems⟩ := MessageEdited.array_left h
    rw [members?, members?, hitems.length_eq]
    split
    · exact .some (alike_of_slots hsettled hitems)
    · exact .none
  | _ =>
    obtain ⟨⟨⟩⟩ := h
    exact .none

theorem all_readable_eq (names : List String)
    (hkept : List.Forall₂ (MemberRel fun name => (ofName (fields ++ choices) name).edited)
      members kept)
    (hadded : ∀ m ∈ added, m.2.readable = true) (hperm : (kept ++ added).Perm members') :
    (members'.all fun m => names.contains m.1 || m.2.readable) =
      members.all fun m => names.contains m.1 || m.2.readable := by
  have hall : (added.all fun m => names.contains m.1 || m.2.readable) = true := by
    rw [List.all_eq_true]
    intro m hm
    rw [hadded m hm, Bool.or_true]
  rw [← hperm.all_eq, List.all_append, hall, Bool.and_true]
  clear hperm
  induction hkept with
  | nil => rfl
  | cons hm _ ih =>
    obtain ⟨name, hvalue⟩ := hm
    rw [List.all_cons, List.all_cons, ih, (ofName (fields ++ choices) name).readable_eq hvalue]

theorem mixedMembers?_rel
    (hdisjoint : ∀ name ∈ choices.map Prod.fst, name ∉ fields.map Prod.fst)
    (hsettled : (message fields choices).settled value)
    (h : (message fields choices).edited value other) :
    Option.Rel (Alike fields choices) (mixedMembers? (fields.map Prod.fst) value)
      (mixedMembers? (fields.map Prod.fst) other) := by
  cases value with
  | object members =>
    obtain ⟨kept, added, members', rfl, hkept, hadded, hperm⟩ := MessageEdited.object_left h
    have hnew : ∀ m ∈ added, m.1 ∉ fields.map Prod.fst := by
      intro m hm hname
      exact (hadded m hm).1 (by rw [List.map_append]; exact List.mem_append_left _ hname)
    have hrepeated := hasRepeated_eq (perm_names hkept hperm) hnew
    have hreadable := all_readable_eq (fields.map Prod.fst) hkept (fun m hm => (hadded m hm).2)
      hperm
    rw [mixedMembers?, mixedMembers?, hrepeated, hreadable]
    cases hunique : hasRepeated (fields.map Prod.fst) members with
    | true => exact .none
    | false =>
      rw [if_neg Bool.false_ne_true, if_neg Bool.false_ne_true]
      split
      · exact .some (alike_of_edited hdisjoint hunique hsettled hkept hadded hperm)
      · exact .none
  | array items =>
    obtain ⟨items', rfl, -⟩ := MessageEdited.array_left h
    exact .none
  | _ =>
    obtain ⟨⟨⟩⟩ := h
    exact .none

end Schema

end RpcRouting.Wire
