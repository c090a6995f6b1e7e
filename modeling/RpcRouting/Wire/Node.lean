import RpcRouting.Wire.Reader
import RpcRouting.Wire.Writing

namespace RpcRouting.Wire

open Document Reader

structure Locality where
  region : String := ""
  zone : String := ""
  subZone : String := ""
deriving Repr, DecidableEq

structure SocketAddress where
  address : String := ""
  port : UInt32 := 0
deriving Repr, DecidableEq

structure Address where
  socketAddress : Option SocketAddress := none
deriving Repr, DecidableEq

-- Who a client is, as it is sent in version 3.
structure Node where
  id : String := ""
  cluster : String := ""
  metadata : Dict Value := .empty
  locality : Option Locality := none
  userAgentName : String := ""
  userAgentVersion : String := ""
  clientFeatures : List String := []
  listeningAddresses : List Address := []
deriving Repr

-- Version 2 also sends the version of the build.
structure LegacyNode extends Node where
  buildVersion : String := ""
deriving Repr

def Locality.read : Reader Locality := fun v => do
  let ms ← members? ["region", "zone", "sub_zone"] v
  return ⟨← field ms "region" text "", ← field ms "zone" text "", ← field ms "sub_zone" text ""⟩

def SocketAddress.read : Reader SocketAddress := fun v => do
  let ms ← members? ["address", "port_value"] v
  return ⟨← field ms "address" text "", ← field ms "port_value" uint32 0⟩

def Address.read : Reader Address := fun v => do
  let ms ← members? ["socket_address"] v
  return ⟨← field ms "socket_address" (optional SocketAddress.read) none⟩

def Node.ofMembers? (ms : Members) : Option Node := do
  return {
    id := ← field ms "id" text ""
    cluster := ← field ms "cluster" text ""
    metadata := ← field ms "metadata" (dict anything) .empty
    locality := ← field ms "locality" (optional Locality.read) none
    userAgentName := ← field ms "user_agent_name" text ""
    userAgentVersion := ← field ms "user_agent_version" text ""
    clientFeatures := ← field ms "client_features" (list text) []
    listeningAddresses := ← field ms "listening_addresses" (list Address.read) [] }

def Node.read : Reader Node := fun v => do
  Node.ofMembers? (← members? ["id", "cluster", "metadata", "locality", "user_agent_name",
    "user_agent_version", "client_features", "listening_addresses"] v)

def LegacyNode.read : Reader LegacyNode := fun v => do
  let ms ← members? ["id", "cluster", "metadata", "locality", "build_version", "user_agent_name",
    "user_agent_version", "client_features", "listening_addresses"] v
  return { ← Node.ofMembers? ms with buildVersion := ← field ms "build_version" text "" }

def Locality.write (locality : Locality) : Value :=
  .object [("region", .string locality.region), ("zone", .string locality.zone),
    ("sub_zone", .string locality.subZone)]

def SocketAddress.write (address : SocketAddress) : Value :=
  .object [("address", .string address.address), ("port_value", writeNat32 address.port)]

def Address.write (address : Address) : Value :=
  .object [("socket_address", writeOptional SocketAddress.write address.socketAddress)]

def Node.toMembers (node : Node) : Members :=
  [("id", .string node.id), ("cluster", .string node.cluster),
    ("metadata", .object node.metadata.toList),
    ("locality", writeOptional Locality.write node.locality),
    ("user_agent_name", .string node.userAgentName),
    ("user_agent_version", .string node.userAgentVersion),
    ("client_features", writeTexts node.clientFeatures),
    ("listening_addresses", writeList Address.write node.listeningAddresses)]

def Node.write (node : Node) : Value := .object node.toMembers

def LegacyNode.write (node : LegacyNode) : Value :=
  .object (node.toMembers ++ [("build_version", .string node.buildVersion)])

end RpcRouting.Wire
