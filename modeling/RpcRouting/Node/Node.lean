import RpcRouting.Document.Json.Printer
import RpcRouting.Node.Locality

namespace RpcRouting

open Document

-- Who a client is. Its metadata are texts.
structure Node where
  id : String := ""
  cluster : String := ""
  metadata : Dict String := .empty
  locality : Option Locality := none
  listeningAddresses : List Address := []
  buildVersion : String := ""
  userAgentName : String := ""
  userAgentVersion : String := ""
  clientFeatures : List String := []
deriving Repr, DecidableEq

namespace Node

def addAddress (address : Address) (node : Node) : Node :=
  { node with listeningAddresses := node.listeningAddresses ++ [address] }

def addFeature (feature : String) (node : Node) : Node :=
  { node with clientFeatures := node.clientFeatures ++ [feature] }

-- The form of version 3, which has no place for the version of the build.
def toWire (node : Node) : Wire.Node where
  id := node.id
  cluster := node.cluster
  metadata := node.metadata.map .string
  locality := node.locality.map (·.toWire)
  userAgentName := node.userAgentName
  userAgentVersion := node.userAgentVersion
  clientFeatures := node.clientFeatures
  listeningAddresses := node.listeningAddresses.map (·.toWire)

def toLegacyWire (node : Node) : Wire.LegacyNode :=
  { node.toWire with buildVersion := node.buildVersion }

-- Metadata that are no text keep their written form.
def metadataText : Value → String
  | .string s => s
  | value => Json.compact value

def ofWire (wire : Wire.Node) : Node where
  id := wire.id
  cluster := wire.cluster
  metadata := wire.metadata.map metadataText
  locality := wire.locality.map Locality.ofWire
  listeningAddresses := wire.listeningAddresses.filterMap Address.ofWire?
  userAgentName := wire.userAgentName
  userAgentVersion := wire.userAgentVersion
  clientFeatures := wire.clientFeatures

def ofLegacyWire (wire : Wire.LegacyNode) : Node :=
  { ofWire wire.toNode with buildVersion := wire.buildVersion }

-- The wire form as a document, with the names in order.
def toDocument (node : Node) : ApiVersion → Value
  | .v2 => node.toLegacyWire.write.canonical
  | .v3 => node.toWire.write.canonical

end Node

end RpcRouting
