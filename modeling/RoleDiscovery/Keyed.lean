/-!
# Lists keyed by name

Operations on a list whose elements carry a key, such as the containers of a pod by name. The order
of first occurrence is kept throughout.

Results:

* `Keyed.collapse`: one element per key, at the first position of its key with the value of its last
  occurrence.
* `Keyed.merge`: adds the elements whose key is not taken yet; an element that is there stays.
-/

namespace RoleDiscovery.Keyed

variable {α κ : Type} [DecidableEq κ]

/-- Puts `item` in the place of the first element with its key, else at the end. -/
def put (key : α → κ) (items : List α) (item : α) : List α :=
  match items with
  | [] => [item]
  | first :: rest =>
    if key first = key item then item :: rest else first :: put key rest item

/-- Appends `item` unless its key is taken. -/
def add (key : α → κ) (items : List α) (item : α) : List α :=
  if items.any fun other => key other = key item then items else items ++ [item]

/-- One element per key: the place of the first and the value of the last of that key. -/
def collapse (key : α → κ) (items : List α) : List α :=
  items.foldl (put key) []

/-- The collapsed list followed by the additions whose key is not taken, the first of each key. -/
def merge (key : α → κ) (existing additions : List α) : List α :=
  additions.foldl (add key) (collapse key existing)

end RoleDiscovery.Keyed
