import RpcRouting.Lifecycle.Shutdown
import RpcRouting.Main
import RpcRouting.Proofs.PublishedTable
import RpcRouting.Proofs.Refinement
import RpcRouting.Proofs.Upgrade
import RpcRouting.Proofs.Wire.CommonLanguage
import RpcRouting.Proofs.Document.Json.RoundTrip
import RpcRouting.Proofs.Wire.RoundTrip
import RpcRouting.Proofs.Provenance
import RpcRouting.Proofs.Check
import RpcRouting.Proofs.HeaderVisibility
import RpcRouting.Proofs.Wire.Compatibility
import RpcRouting.Proofs.Reconciliation
import RpcRouting.Proofs.Finality
import RpcRouting.Proofs.Publication
import RpcRouting.Proofs.NodeIdentity
import RpcRouting.Proofs.Document.Canonical
import RpcRouting.Proofs.Wire.Node
import RpcRouting.Proofs.Notification
import RpcRouting.Proofs.Specificity
import RpcRouting.Proofs.Apportionment
import RpcRouting.Proofs.Candidates
import RpcRouting.Proofs.Precedence
import RpcRouting.Proofs.RouteList
import RpcRouting.Proofs.CatchAll
import RpcRouting.Proofs.Regex.Enclosure
import RpcRouting.Proofs.TimeLimit
import RpcRouting.Proofs.BinaryHeaders
import RpcRouting.Proofs.HeaderCondition
import RpcRouting.Proofs.UsableSettings
import RpcRouting.Proofs.SeededDraws
