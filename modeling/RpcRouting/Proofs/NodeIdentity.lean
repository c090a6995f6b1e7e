import RpcRouting.Node.Node
import RpcRouting.Proofs.Wire.Node

namespace RpcRouting

open Document

theorem Dict.map_map {α β γ : Type} (f : α → β) (g : β → γ) (dict : Dict α) :
    (dict.map f).map g = dict.map (g ∘ f) :=
  ext_entries (by simp [Dict.map])

theorem Dict.map_id {α : Type} (dict : Dict α) : dict.map id = dict :=
  ext_entries (List.map_id _)

theorem Locality.ofWire_toWire (locality : Locality) : ofWire locality.toWire = locality := rfl

theorem Address.ofWire?_toWire (address : Address) : ofWire? address.toWire = some address := rfl

namespace Node

theorem ofWire_toWire (node : Node) : ofWire node.toWire = { node with buildVersion := "" } := by
  have hmetadata : (node.metadata.map Value.string).map metadataText = node.metadata := by
    rw [Dict.map_map]
    exact node.metadata.map_id
  have hlocality : (node.locality.map (·.toWire)).map Locality.ofWire = node.locality := by
    cases node.locality with
    | none => rfl
    | some locality => exact congrArg some (Locality.ofWire_toWire locality)
  have haddresses : (node.listeningAddresses.map (·.toWire)).filterMap Address.ofWire? =
      node.listeningAddresses := by
    have hback : Address.ofWire? ∘ Address.toWire = some := funext Address.ofWire?_toWire
    rw [List.filterMap_map, hback, List.filterMap_some]
  simp only [ofWire, toWire, hmetadata, hlocality, haddresses]

theorem ofLegacyWire_toLegacyWire (node : Node) : ofLegacyWire node.toLegacyWire = node := by
  have hshared : ofLegacyWire node.toLegacyWire =
      { ofWire node.toWire with buildVersion := node.buildVersion } := rfl
  rw [hshared, ofWire_toWire]

theorem hasTexts_toWire (node : Node) : node.toWire.HasTexts := by
  intro m hm
  obtain ⟨entry, -, rfl⟩ := List.mem_map.mp hm
  exact ⟨entry.2, rfl⟩

-- What a version has a place for.
def kept : ApiVersion → Node → Node
  | .v2, node => node
  | .v3, node => { node with buildVersion := "" }

-- The node that a document stands for in a version.
def read? : ApiVersion → Value → Option Node
  | .v2, document => (Wire.LegacyNode.read document).map ofLegacyWire
  | .v3, document => (Wire.Node.read document).map ofWire

theorem plain_toDocument (node : Node) (version : ApiVersion) :
    Value.Plain List.Nodup Json.maxDepth (node.toDocument version) := by
  cases version with
  | v2 => exact (Wire.LegacyNode.plain_write node.hasTexts_toWire 123).canonical
  | v3 => exact (Wire.Node.plain_write node.hasTexts_toWire 123).canonical

theorem read?_toDocument (node : Node) (version : ApiVersion) :
    read? version (node.toDocument version) = some (node.kept version) := by
  cases version with
  | v2 =>
    have hread := @Wire.LegacyNode.read_canonical node.toLegacyWire node.hasTexts_toWire
    rw [read?, toDocument, hread, Option.map_some, ofLegacyWire_toLegacyWire]
    rfl
  | v3 =>
    rw [read?, toDocument, Wire.Node.read_canonical node.hasTexts_toWire, Option.map_some,
      ofWire_toWire]
    rfl

-- A node keeps all that a version has a place for: in the wire form, in the document, and in every
-- text that the document is printed as. What a wire form loses when it is first read, such as
-- metadata that are no texts and addresses that are no sockets, is all that it ever loses.
theorem survives_wire (node : Node) (wire : Wire.Node) (legacy : Wire.LegacyNode) :
    ofLegacyWire node.toLegacyWire = node ∧
    ofWire node.toWire = { node with buildVersion := "" } ∧
    (∀ version, read? version (node.toDocument version) = some (node.kept version)) ∧
    (∀ version layout, (Json.parse? (Json.print layout 0 (node.toDocument version))).bind
      (read? version) = some (node.kept version)) ∧
    ofWire (ofWire wire).toWire = ofWire wire ∧
    ofLegacyWire (ofLegacyWire legacy).toLegacyWire = ofLegacyWire legacy := by
  refine ⟨node.ofLegacyWire_toLegacyWire, node.ofWire_toWire, node.read?_toDocument, ?_, ?_,
    ofLegacyWire_toLegacyWire _⟩
  · intro version layout
    rw [Json.parse?_print (node.plain_toDocument version) layout]
    exact node.read?_toDocument version
  · exact ofWire_toWire _

end Node

end RpcRouting
