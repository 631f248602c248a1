import RoleDiscovery.Topology
import RoleDiscovery.Yaml.Document

/-!
# The payload of a discovery ConfigMap

The topology of a group as the document that its pods read.

Results:

* `ClusterConfig.toYaml`, `ClusterConfig.ofYaml?`: the two directions.
-/

namespace RoleDiscovery.ClusterConfig

/-- The document of a topology. -/
def toYaml (config : ClusterConfig) : String :=
  codec.toYaml config

/-- The topology that a document holds. -/
def ofYaml? (text : String) : Option ClusterConfig :=
  codec.ofYaml? text

/-- What is said of a document that holds no topology. -/
def undecodable : String :=
  "failed to deserialize cluster config"

end RoleDiscovery.ClusterConfig
