import RpcRouting.Proofs.Wire.Schema

namespace RpcRouting.Wire

open Document Reader

namespace Schema

variable {α : Type} {items items' : List Value} {members members' : Members}
  {fields choices : Schemas}

-- A reader that does not notice edits.
def Steady (schema : Schema) (reader : Reader α) : Prop :=
  ∀ value other, schema.settled value → schema.edited value other → reader other = reader value

theorem Alike.field_eq (h : Alike fields choices members members') (name : String)
    {schema : Schema} (hl : fields.lookup name = some schema) {reader : Reader α}
    (hr : schema.Steady reader) {default : α} :
    Wire.field members' name reader default = Wire.field members name reader default := by
  have hrel := h.field name schema hl
  unfold Wire.field
  generalize members.lookup name = value at hrel ⊢
  generalize members'.lookup name = value' at hrel ⊢
  cases hrel with
  | none => rfl
  | some hab => exact hr _ _ hab.1 hab.2

-- The alternatives of a message, each with a reader that does not notice edits.
abbrev SteadyChoices (choices : Schemas) (readers : List (String × Reader α)) : Prop :=
  List.Forall₂ (fun choice reader => choice.1 = reader.1 ∧ choice.2.Steady reader.2) choices readers

theorem SteadyChoices.names_eq {readers : List (String × Reader α)}
    (h : SteadyChoices choices readers) : readers.map Prod.fst = choices.map Prod.fst := by
  induction h with
  | nil => rfl
  | cons hfirst _ ih => rw [List.map_cons, List.map_cons, ih, hfirst.1]

theorem SteadyChoices.lookup_rel {readers : List (String × Reader α)}
    (h : SteadyChoices choices readers) (name : String) :
    Option.Rel (fun schema reader => schema.Steady reader)
      (choices.lookup name) (readers.lookup name) := by
  induction h with
  | nil => exact .none
  | @cons choice reader _ _ hfirst _ ih =>
    obtain ⟨first, schema⟩ := choice
    obtain ⟨other, read⟩ := reader
    obtain ⟨rfl, hsteady⟩ := hfirst
    rw [List.lookup_cons, List.lookup_cons]
    cases name == first with
    | true => exact .some hsteady
    | false => exact ih

-- The same alternative decides, and it is read alike.
theorem Alike.alternative_eq (h : Alike fields choices members members')
    {readers : List (String × Reader α)} (hr : SteadyChoices choices readers) :
    alternative readers members' = alternative readers members := by
  have hnamed : (fun m : String × Value => readers.any fun choice => choice.1 == m.1) =
      fun m => (choices.map Prod.fst).contains m.1 := by
    funext m
    rw [Bool.eq_iff_iff, ← hr.names_eq]
    simp
  have hrel := h.choice
  unfold alternative
  rw [hnamed]
  generalize members.find? _ = first at hrel ⊢
  generalize members'.find? _ = first' at hrel ⊢
  cases hrel with
  | none => rfl
  | some hvalues =>
    obtain ⟨name, hvalue⟩ := hvalues
    have hlookup := hr.lookup_rel name
    dsimp only
    generalize choices.lookup name = schema at hlookup hvalue
    generalize readers.lookup name = reader at hlookup ⊢
    cases hlookup with
    | none => rfl
    | some hsteady =>
      obtain ⟨hsettled, hedited⟩ := hvalue _ rfl
      exact hsteady _ _ hsettled hedited

-- Readers that do not notice edits

theorem steady_leaf {reader : Reader α} (harray : ∀ items, reader (.array items) = none)
    (hobject : ∀ members, reader (.object members) = none) : leaf.Steady reader := by
  intro value other _ h
  cases h with
  | same => rfl
  | array => rw [harray, harray]
  | object => rw [hobject, hobject]

theorem steady_text : leaf.Steady Reader.text := steady_leaf (fun _ => rfl) fun _ => rfl

theorem steady_flag : leaf.Steady Reader.flag := steady_leaf (fun _ => rfl) fun _ => rfl

theorem steady_int64 : leaf.Steady Reader.int64 := steady_leaf (fun _ => rfl) fun _ => rfl

theorem steady_int32 : leaf.Steady Reader.int32 := steady_leaf (fun _ => rfl) fun _ => rfl

theorem steady_uint32 : leaf.Steady Reader.uint32 := steady_leaf (fun _ => rfl) fun _ => rfl

theorem word_object_of_length_ne (words : List (String × α)) (h : members.length ≠ 1) :
    Reader.word words (.object members) = none := by
  match members with
  | [] => rfl
  | [_] => exact absurd rfl h
  | (_, part) :: _ :: _ => cases part <;> rfl

-- The object that stands for a word has one member, which has no other place.
theorem steady_word (words : List (String × α)) : leaf.Steady (Reader.word words) := by
  intro value other _ h
  cases h with
  | same => rfl
  | array => rfl
  | @object members middle members' hmembers hperm =>
    have hlength : members'.length = members.length := hperm.length_eq.symm.trans
      hmembers.length_eq.symm
    by_cases hone : members.length = 1
    · obtain ⟨m, rfl⟩ := List.length_eq_one_iff.mp hone
      cases hmembers with
      | cons hfirst hrest =>
        cases hrest
        obtain ⟨name, hvalue⟩ := hfirst
        obtain rfl := List.singleton_perm.mp hperm
        cases hvalue <;> rfl
    · rw [word_object_of_length_ne words hone, word_object_of_length_ne words (hlength ▸ hone)]

theorem Steady.optional {schema : Schema} {reader : Reader α} (h : schema.Steady reader) :
    schema.Steady (Reader.optional reader) := by
  intro value other hsettled hedited
  by_cases hnull : value = .null
  · rw [hnull, (schema.null_iff hedited).mpr hnull]
  · have hnull' : other ≠ .null := fun ho => hnull ((schema.null_iff hedited).mp ho)
    rw [Reader.optional.eq_2 _ _ hnull, Reader.optional.eq_2 _ _ hnull',
      h value other hsettled hedited]

theorem Steady.mapM {schema : Schema} {reader : Reader α} (h : schema.Steady reader)
    (hsettled : ∀ item ∈ items, schema.settled item)
    (hedited : List.Forall₂ schema.edited items items') :
    items'.mapM reader = items.mapM reader := by
  induction hedited with
  | nil => rfl
  | @cons item item' _ _ hitem _ ih =>
    rw [List.forall_mem_cons] at hsettled
    rw [List.mapM_cons, List.mapM_cons, h item item' hsettled.1 hitem, ih hsettled.2]

theorem Steady.list {schema : Schema} {reader : Reader α} (h : schema.Steady reader) :
    (list schema).Steady (Reader.list reader) := by
  intro value other hsettled hedited
  cases value with
  | array items =>
    obtain ⟨items', rfl, hitems⟩ := ListEdited.array_left hedited
    exact h.mapM (hsettled items rfl) hitems
  | object members =>
    cases hedited with
    | reordered hreordered =>
      obtain ⟨_, _, rfl, -, -⟩ := hreordered.object_left
      rfl
  | _ =>
    obtain ⟨⟨⟩⟩ := hedited
    rfl

theorem steady_message {body : Members → Option α}
    (h : ∀ members members', Alike fields [] members members' → body members' = body members) :
    (message fields []).Steady fun value => members? (fields.map Prod.fst) value >>= body := by
  intro value other hsettled hedited
  have hrel := members?_rel hsettled hedited
  dsimp only
  generalize members? (fields.map Prod.fst) value = found at hrel ⊢
  generalize members? (fields.map Prod.fst) other = found' at hrel ⊢
  cases hrel with
  | none => rfl
  | some halike => exact h _ _ halike

theorem steady_mixedMessage {body : Members → Option α}
    (hdisjoint : ∀ name ∈ choices.map Prod.fst, name ∉ fields.map Prod.fst)
    (h : ∀ members members', Alike fields choices members members' →
      body members' = body members) :
    (message fields choices).Steady fun value =>
      mixedMembers? (fields.map Prod.fst) value >>= body := by
  intro value other hsettled hedited
  have hrel := mixedMembers?_rel hdisjoint hsettled hedited
  dsimp only
  generalize mixedMembers? (fields.map Prod.fst) value = found at hrel ⊢
  generalize mixedMembers? (fields.map Prod.fst) other = found' at hrel ⊢
  cases hrel with
  | none => rfl
  | some halike => exact h _ _ halike

theorem steady_twoFields {α β γ : Type} {first second : String} {schema schema' : Schema}
    {reader : Reader α} {reader' : Reader β} {default : α} {default' : β} {make : α → β → γ}
    (hne : second ≠ first) (h : schema.Steady reader) (h' : schema'.Steady reader') :
    (message [(first, schema), (second, schema')] []).Steady fun value => do
      let members ← members? [first, second] value
      return make (← field members first reader default) (← field members second reader' default') :=
  steady_message fun members members' halike => by
    have hfirst : [(first, schema), (second, schema')].lookup first = some schema := by simp
    have hsecond : [(first, schema), (second, schema')].lookup second = some schema' := by
      simp [List.lookup_cons, beq_false_of_ne hne]
    rw [halike.field_eq first hfirst h, halike.field_eq second hsecond h']

theorem Steady.map {β : Type} {schema : Schema} {reader : Reader α} (h : schema.Steady reader)
    (f : α → β) : schema.Steady fun value => (reader value).map f := by
  intro value other hsettled hedited
  exact congrArg (Option.map f) (h value other hsettled hedited)

end Schema

end RpcRouting.Wire
