import RoleDiscovery.Client
import RoleDiscovery.Definition
import RoleDiscovery.Injection
import RoleDiscovery.Log.Setup
import RoleDiscovery.Options
import RoleDiscovery.Store.Memory
import RoleDiscovery.Proofs.Discovery.Passes
import RoleDiscovery.Proofs.Injection.Convergence
import RoleDiscovery.Proofs.Topology.Payload
import RoleDiscovery.Proofs.Injection.Failure
import RoleDiscovery.Proofs.Injection.Wiring
import RoleDiscovery.Proofs.Sidecar.Idempotence
import RoleDiscovery.Proofs.Discovery.Concurrency
import RoleDiscovery.Proofs.Injection.Growth
import RoleDiscovery.Proofs.Discovery.Isolation
import RoleDiscovery.Proofs.Discovery.Ownership
import RoleDiscovery.Proofs.Discovery.Report
import RoleDiscovery.Proofs.Resource.Custom
import RoleDiscovery.Proofs.Topology.Report
import RoleDiscovery.Proofs.Resource.Comparison
import RoleDiscovery.Proofs.Sidecar.Result
import RoleDiscovery.Proofs.Environment.Canonical
import RoleDiscovery.Proofs.Injection.Steps
import RoleDiscovery.Proofs.Injection.Stability
import RoleDiscovery.Proofs.Comparison.Symmetry
