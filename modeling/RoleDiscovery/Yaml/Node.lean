import RoleDiscovery.Yaml.Token.Stream

/-!
# The nodes of a document

The tree that a document spells: scalars, sequences and mappings, each with an anchor and a tag if
it was given one, and aliases that refer to anchored nodes.

An anchor is known by a number: that of the distinct names that had been given before it. An alias
refers to the last node with its number.

Results:

* `Node`: the tree.
* `Node.target?`: the node that an alias refers to.
* `Node.size`: the number of marks that a tree is made of.
-/

namespace RoleDiscovery.Yaml

/-- A node of a document. -/
inductive Node where
  | scalar (anchor : Option Nat) (tag : Option Tag) (form : Form) (text : List Char)
  | sequence (anchor : Option Nat) (tag : Option Tag) (items : List Node)
  | mapping (anchor : Option Nat) (tag : Option Tag) (entries : List (Node × Node))
  | alias (target : Nat)
  deriving Inhabited

namespace Node

/-- The node of a value that is left out. -/
def empty : Node :=
  .scalar none none .plain []

/-- The number of the anchor of a node. -/
def anchor? : Node → Option Nat
  | .scalar anchor _ _ _ | .sequence anchor _ _ | .mapping anchor _ _ => anchor
  | .alias _ => none

mutual

/-- The last node with an anchor, in the order in which nodes start. -/
def target? (id : Nat) : Node → Option Node
  | .scalar anchor tag form text =>
    if anchor = some id then some (.scalar anchor tag form text) else none
  | .sequence anchor tag items =>
    targetInItems? id items <|>
      if anchor = some id then some (.sequence anchor tag items) else none
  | .mapping anchor tag entries =>
    targetInEntries? id entries <|>
      if anchor = some id then some (.mapping anchor tag entries) else none
  | .alias _ => none

/-- The last such node among the items of a sequence. -/
def targetInItems? (id : Nat) : List Node → Option Node
  | [] => none
  | item :: rest => targetInItems? id rest <|> target? id item

/-- The last such node among the entries of a mapping. -/
def targetInEntries? (id : Nat) : List (Node × Node) → Option Node
  | [] => none
  | (key, value) :: rest => targetInEntries? id rest <|> target? id value <|> target? id key

end

mutual

/-- The number of marks of a tree: one for a scalar or an alias, two around a collection. -/
def size : Node → Nat
  | .scalar _ _ _ _ | .alias _ => 1
  | .sequence _ _ items => sizeOfItems items + 2
  | .mapping _ _ entries => sizeOfEntries entries + 2

/-- The number of marks of the items of a sequence. -/
def sizeOfItems : List Node → Nat
  | [] => 0
  | item :: rest => size item + sizeOfItems rest

/-- The number of marks of the entries of a mapping. -/
def sizeOfEntries : List (Node × Node) → Nat
  | [] => 0
  | (key, value) :: rest => size key + size value + sizeOfEntries rest

end

end Node

end RoleDiscovery.Yaml
