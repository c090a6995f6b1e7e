import RpcRouting.Wire.Node

namespace RpcRouting

-- Where a node runs. Localities are ordered by region, then by zone, then by part of the zone.
structure Locality where
  region : String := ""
  zone : String := ""
  subZone : String := ""
deriving Repr, DecidableEq, Ord

namespace Locality

def label (locality : Locality) : String :=
  locality.region ++ "/" ++ locality.zone ++ "/" ++ locality.subZone

def toWire (locality : Locality) : Wire.Locality :=
  ⟨locality.region, locality.zone, locality.subZone⟩

def ofWire (wire : Wire.Locality) : Locality := ⟨wire.region, wire.zone, wire.subZone⟩

end Locality

-- A host and a port on which a node listens.
structure Address where
  host : String := ""
  port : UInt32 := 0
deriving Repr, DecidableEq

namespace Address

def label (address : Address) : String := address.host ++ ":" ++ toString address.port.toNat

def toWire (address : Address) : Wire.Address := ⟨some ⟨address.host, address.port⟩⟩

-- Addresses that are no sockets have no counterpart.
def ofWire? (wire : Wire.Address) : Option Address :=
  wire.socketAddress.map fun socket => ⟨socket.address, socket.port⟩

end Address

end RpcRouting
