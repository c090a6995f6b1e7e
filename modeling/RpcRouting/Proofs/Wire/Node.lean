import RpcRouting.Proofs.Document.Canonical
import RpcRouting.Proofs.Wire.RoundTrip
import RpcRouting.Proofs.Wire.Steady
import RpcRouting.Wire.Node

namespace RpcRouting.Wire

open Document Reader

namespace Schema

variable {α : Type} {members members' : Members} {value : Value}

-- Messages in which the order of members has no say anywhere

def leaves (names : List String) : Schemas := names.map fun name => (name, leaf)

theorem names_leaves (names : List String) : (leaves names).map Prod.fst = names := by
  rw [leaves, List.map_map]
  exact List.map_id names

theorem ofName_leaves (names : List String) (name : String) : ofName (leaves names) name = leaf := by
  unfold ofName
  cases hl : (leaves names).lookup name with
  | none => rfl
  | some schema =>
    obtain ⟨before, after, hsplit, -⟩ := List.lookup_eq_some_iff.mp hl
    have hmem : (name, schema) ∈ leaves names := by simp [hsplit]
    obtain ⟨_, -, he⟩ := List.mem_map.mp hmem
    cases he
    rfl

theorem settled_object {fields : Schemas} (h : ∀ m ∈ members, (ofName fields m.1).settled m.2) :
    (message fields []).settled (.object members) := by
  refine ⟨?_, fun m hm => ?_⟩
  · rw [List.map_nil, List.filter_eq_nil_iff.mpr (by simp)]
    exact Nat.zero_le 1
  · rw [List.append_nil]
    exact h m hm

theorem settled_leaves (names : List String) (value : Value) :
    (message (leaves names) []).settled value := by
  cases value with
  | object members =>
    refine settled_object fun m _ => ?_
    rw [ofName_leaves]
    trivial
  | array items =>
    intro slot hslot
    obtain ⟨_, -, he⟩ := List.mem_map.mp (List.of_mem_zip hslot).1
    rw [← he]
    trivial
  | _ => trivial

theorem steady_leaves (names : List String) {body : Members → Option α}
    (h : ∀ members members', Alike (leaves names) [] members members' →
      body members' = body members) :
    leaf.Steady fun value => members? names value >>= body := by
  have hsteady := steady_message h
  rw [names_leaves] at hsteady
  exact fun value other _ hr => hsteady value other (settled_leaves names value) (.reordered hr)

-- Where no name stands twice, the canonical form of a part is read like the part itself.
theorem Steady.canonical {schema : Schema} {reader : Reader α} {depth : Nat}
    (h : schema.Steady reader) (hplain : Value.Plain List.Nodup depth value)
    (hsettled : schema.settled value) : reader value.canonical = reader value :=
  h _ _ hsettled (schema.of_reordered hplain.reordered_canonical)

theorem Steady.leafList {reader : Reader α} (h : leaf.Steady reader) :
    leaf.Steady (Reader.list reader) :=
  fun value other _ hr => h.list value other (fun _ _ _ _ => trivial) (.reordered hr)

-- An object of texts, in which no name stands twice.
def texts : Schema where
  settled value := ∀ members, value = .object members →
    (members.map Prod.fst).Nodup ∧ ∀ m ∈ members, ∃ s, m.2 = .string s
  edited := Value.Reordered
  of_reordered h := h
  readable_eq h := h.readable_eq
  null_iff h := h.null_iff

theorem eq_of_texts (htexts : ∀ m ∈ members, ∃ s, m.2 = .string s)
    (h : List.Forall₂ (MemberRel fun _ => Value.Reordered) members members') :
    members' = members := by
  induction h with
  | nil => rfl
  | cons hm _ ih =>
    rw [List.forall_mem_cons] at htexts
    obtain ⟨name, hvalue⟩ := hm
    obtain ⟨s, rfl⟩ := htexts.1
    cases hvalue
    rw [ih htexts.2]

theorem dict_texts (htexts : ∀ m ∈ members, ∃ s, m.2 = .string s) :
    Reader.dict anything (.object members) = some (Dict.ofList members) := by
  have hall : (members.mapM fun m => (anything m.2).map fun a => (m.1, a)) = some members := by
    induction members with
    | nil => rfl
    | cons m rest ih =>
      rw [List.forall_mem_cons] at htexts
      obtain ⟨name, part⟩ := m
      obtain ⟨s, rfl⟩ := htexts.1
      rw [List.mapM_cons, ih htexts.2]
      rfl
  rw [Reader.dict, hall]
  rfl

theorem steady_texts : texts.Steady (Reader.dict anything) := by
  intro value other hsettled hr
  cases value with
  | object members =>
    obtain ⟨middle, members', rfl, hmiddle, hperm⟩ := Value.Reordered.object_left hr
    obtain ⟨hnodup, htexts⟩ := hsettled members rfl
    rw [eq_of_texts htexts hmiddle] at hperm
    have htexts' : ∀ m ∈ members', ∃ s, m.2 = .string s := fun m hm =>
      htexts m (hperm.mem_iff.mpr hm)
    rw [dict_texts htexts, dict_texts htexts', Dict.ofList_eq_of_perm hnodup hperm]
  | array items =>
    obtain ⟨items', rfl, -⟩ := Value.Reordered.array_left hr
    rfl
  | _ =>
    cases hr
    rfl

end Schema

open Schema

theorem Locality.steady : leaf.Steady read :=
  steady_leaves ["region", "zone", "sub_zone"] fun _ _ h => by
    rw [h.field_eq "region" rfl steady_text, h.field_eq "zone" rfl steady_text,
      h.field_eq "sub_zone" rfl steady_text]

theorem SocketAddress.steady : leaf.Steady read :=
  steady_leaves ["address", "port_value"] fun _ _ h => by
    rw [h.field_eq "address" rfl steady_text, h.field_eq "port_value" rfl steady_uint32]

theorem Address.steady : leaf.Steady read :=
  steady_leaves ["socket_address"] fun _ _ h => by
    rw [h.field_eq "socket_address" rfl SocketAddress.steady.optional]

def Node.schemas : Schemas :=
  [("id", leaf), ("cluster", leaf), ("metadata", texts), ("locality", leaf),
    ("user_agent_name", leaf), ("user_agent_version", leaf), ("client_features", leaf),
    ("listening_addresses", leaf)]

def LegacyNode.schemas : Schemas :=
  [("id", leaf), ("cluster", leaf), ("metadata", texts), ("locality", leaf),
    ("build_version", leaf), ("user_agent_name", leaf), ("user_agent_version", leaf),
    ("client_features", leaf), ("listening_addresses", leaf)]

namespace Node

-- The order of members has no say in the parts of a node, but for names that stand twice in the
-- metadata.
structure Known (schemas : Schemas) : Prop where
  leaf : ∀ name ∈ ["id", "cluster", "locality", "user_agent_name", "user_agent_version",
    "client_features", "listening_addresses"], schemas.lookup name = some leaf
  metadata : schemas.lookup "metadata" = some texts

theorem known : Known schemas where
  leaf := by simp [schemas, List.lookup_cons]
  metadata := rfl

theorem Known.ofMembers?_eq {schemas : Schemas} (hk : Known schemas) {members members' : Members}
    (h : Alike schemas [] members members') : ofMembers? members' = ofMembers? members := by
  have hleaf := hk.leaf
  simp only [List.forall_mem_cons] at hleaf
  obtain ⟨hid, hcluster, hlocality, hname, hversion, hfeatures, haddresses, -⟩ := hleaf
  rw [ofMembers?, ofMembers?, h.field_eq "id" hid steady_text,
    h.field_eq "cluster" hcluster steady_text, h.field_eq "metadata" hk.metadata steady_texts,
    h.field_eq "locality" hlocality Locality.steady.optional,
    h.field_eq "user_agent_name" hname steady_text,
    h.field_eq "user_agent_version" hversion steady_text,
    h.field_eq "client_features" hfeatures steady_text.leafList,
    h.field_eq "listening_addresses" haddresses Address.steady.leafList]

end Node

theorem LegacyNode.known : Node.Known schemas where
  leaf := by simp [schemas, List.lookup_cons]
  metadata := rfl

theorem Node.steady : (message schemas []).Steady read :=
  steady_message fun _ _ h => known.ofMembers?_eq h

theorem LegacyNode.steady : (message schemas []).Steady read :=
  steady_message fun _ _ h => by
    rw [known.ofMembers?_eq h, h.field_eq "build_version" rfl steady_text]

-- What is written is read again, in the order of writing as in that of the names.

theorem Locality.faithful : Faithful 1 read write := by
  have hplain : ∀ (locality : Locality) more, Value.Plain Tidy (more + 1) locality.write :=
    fun locality more => .object (show Tidy ["region", "zone", "sub_zone"] by decide) (by
      rw [List.forall_mem_cons, List.forall_mem_cons, List.forall_mem_singleton]
      exact ⟨.string _, .string _, .string _⟩)
  refine ⟨hplain, fun locality => ?_⟩
  simp [read, write, members?_of_plain (hplain locality 0), field_cons_self, field_cons_ne,
    faithful_text.read]

theorem SocketAddress.faithful : Faithful 1 read write :=
  faithful_twoFields (fun _ => rfl) (by decide) faithful_text faithful_uint32

theorem Address.faithful : Faithful 2 read write :=
  faithful_oneField (fun _ => rfl) (by decide) (SocketAddress.faithful.optional rfl)

namespace Node

-- All metadata are texts.
def HasTexts (node : Node) : Prop := ∀ m ∈ node.metadata.toList, ∃ s, m.2 = .string s

variable {node : Node}

theorem Known.settled_toMembers {schemas : Schemas} (hk : Known schemas) (h : node.HasTexts) :
    ∀ m ∈ node.toMembers, (ofName schemas m.1).settled m.2 := by
  have hleaf : ∀ name ∈ ["id", "cluster", "locality", "user_agent_name", "user_agent_version",
      "client_features", "listening_addresses"], ∀ value, (ofName schemas name).settled value := by
    intro name hname value
    rw [ofName, hk.leaf name hname]
    trivial
  have hmetadata : (ofName schemas "metadata").settled (.object node.metadata.toList) := by
    rw [ofName, hk.metadata]
    rintro members he
    cases he
    exact ⟨node.metadata.nodup_names, h⟩
  simp only [List.forall_mem_cons] at hleaf
  obtain ⟨hid, hcluster, hlocality, hname, hversion, hfeatures, haddresses, -⟩ := hleaf
  simp only [toMembers, List.forall_mem_cons]
  exact ⟨hid _, hcluster _, hmetadata, hlocality _, hname _, hversion _, hfeatures _,
    haddresses _, List.forall_mem_nil _⟩

theorem ofMembers?_toMembers (h : node.HasTexts) (others : Members) :
    ofMembers? (node.toMembers ++ others) = some node := by
  have hmetadata : Reader.dict anything (.object node.metadata.toList) = some node.metadata := by
    rw [dict_texts h, Dict.ofList_toList]
  have hlocality := Locality.faithful.optional rfl
  have hfeatures := faithful_text.list
  have haddresses := Address.faithful.list
  simp [ofMembers?, toMembers, writeTexts, field_cons_self, field_cons_ne, hmetadata,
    faithful_text.read, hlocality.read, hfeatures.read, haddresses.read]

theorem plain_toMembers (h : node.HasTexts) (more : Nat) :
    ∀ m ∈ node.toMembers, Value.Plain List.Nodup (more + 3) m.2 := by
  have hmetadata : Value.Plain List.Nodup (more + 3) (.object node.metadata.toList) := by
    refine .object node.metadata.nodup_names fun m hm => ?_
    obtain ⟨s, hs⟩ := h m hm
    rw [hs]
    exact .string s
  have hlocality := (Locality.faithful.optional rfl).deeper (show 1 ≤ 3 by decide)
  have hfeatures : Faithful 3 (list text) writeTexts :=
    faithful_text.list.deeper (show 1 ≤ 3 by decide)
  have haddresses := Address.faithful.list
  have hnodup : ∀ {names : List String}, Tidy names → names.Nodup := And.left
  simp only [toMembers, List.forall_mem_cons]
  exact ⟨.string _, .string _, hmetadata, (hlocality.plain _ more).imp fun _ => hnodup,
    .string _, .string _, (hfeatures.plain _ more).imp fun _ => hnodup,
    (haddresses.plain _ more).imp fun _ => hnodup, List.forall_mem_nil _⟩

theorem nodup_names (node : Node) : (node.toMembers.map Prod.fst).Nodup :=
  show List.Nodup ["id", "cluster", "metadata", "locality", "user_agent_name",
    "user_agent_version", "client_features", "listening_addresses"] by decide

theorem plain_write (h : node.HasTexts) (more : Nat) :
    Value.Plain List.Nodup (more + 4) node.write :=
  .object node.nodup_names (plain_toMembers h more)

theorem read_written (h : node.HasTexts) : read node.write = some node := by
  have hread := ofMembers?_toMembers h []
  rw [List.append_nil] at hread
  simp [read, write, members?, hasRepeated_eq_false node.nodup_names, hread]

theorem read_canonical (h : node.HasTexts) : read node.write.canonical = some node := by
  have hsettled : (message schemas []).settled node.write :=
    settled_object (known.settled_toMembers h)
  rw [steady.canonical (plain_write h 0) hsettled, read_written h]

end Node

namespace LegacyNode

variable {node : LegacyNode}

theorem nodup_names (node : LegacyNode) :
    ((node.toMembers ++ [("build_version", Value.string node.buildVersion)]).map Prod.fst).Nodup :=
  show List.Nodup ["id", "cluster", "metadata", "locality", "user_agent_name",
    "user_agent_version", "client_features", "listening_addresses", "build_version"] by decide

theorem plain_write (h : node.HasTexts) (more : Nat) :
    Value.Plain List.Nodup (more + 4) node.write := by
  refine .object node.nodup_names (List.forall_mem_append.mpr ⟨Node.plain_toMembers h more, ?_⟩)
  exact List.forall_mem_singleton.mpr (.string _)

theorem read_written (h : node.HasTexts) : read node.write = some node := by
  have hversion : field (node.toMembers ++ [("build_version", Value.string node.buildVersion)])
      "build_version" text "" = some node.buildVersion := by
    simp [Node.toMembers, field_cons_self, field_cons_ne, faithful_text.read]
  simp [read, write, members?, hasRepeated_eq_false node.nodup_names,
    Node.ofMembers?_toMembers h, hversion]

theorem read_canonical (h : node.HasTexts) : read node.write.canonical = some node := by
  have hsettled : (message schemas []).settled node.write :=
    settled_object (List.forall_mem_append.mpr
      ⟨known.settled_toMembers h, List.forall_mem_singleton.mpr trivial⟩)
  rw [steady.canonical (plain_write h 0) hsettled, read_written h]

end LegacyNode

end RpcRouting.Wire
