import RpcRouting.Random.Draw

namespace RpcRouting

-- A member of a weighted split.
structure ClusterWeight where
  name : String
  weight : UInt32
deriving Repr, DecidableEq

namespace ClusterWeight

def total (clusters : List ClusterWeight) : Nat :=
  clusters.foldr (fun cluster sum => cluster.weight.toNat + sum) 0

-- Weights divide the numbers below their total into consecutive parts. Finds the member whose part
-- holds a number, given the end of the parts before the list.
def holder? (draw : Nat) : Nat → List ClusterWeight → Option ClusterWeight
  | _, [] => none
  | passed, cluster :: rest =>
    let upper := passed + cluster.weight.toNat
    if draw < upper then some cluster else holder? draw upper rest

-- The last member stands in where no part holds the number.
def select (clusters : List ClusterWeight) (draw : Nat) : String :=
  match (holder? draw 0 clusters).or clusters.getLast? with
  | some cluster => cluster.name
  | none => ""

end ClusterWeight

inductive Destination where
  | cluster (name : String)
  | weighted (clusters : List ClusterWeight)
deriving Repr, DecidableEq

-- The time a request may take, in nanoseconds. The largest value stands for no limit.
abbrev TimeoutNanos := Int64

namespace TimeoutNanos

def infinite : TimeoutNanos := Int64.maxValue

def default : TimeoutNanos := 15000000000

-- The limit in nanoseconds, if there is one. Negative values leave no time at all.
def limit? (nanos : TimeoutNanos) : Option Nat :=
  if nanos = infinite then none else some nanos.toInt.toNat

end TimeoutNanos

-- What happens to a request whose route was found.
structure RouteAction where
  timeoutNanos : TimeoutNanos
  destination : Destination
deriving Repr, DecidableEq

namespace RouteAction

-- How long a request may take, in nanoseconds, if that is limited.
def timeout? (action : RouteAction) : Option Nat := action.timeoutNanos.limit?

-- A single cluster is chosen without a draw, a member of a split with one.
def selectCluster (action : RouteAction) : Draw String :=
  match action.destination with
  | .cluster name => pure name
  | .weighted clusters => do
    return ClusterWeight.select clusters (← Draw.number (ClusterWeight.total clusters))

end RouteAction

end RpcRouting
