import OverlayGateway.Decimal.Unsigned
import OverlayGateway.Yaml.Tree
/-!
The names of nodes in a YAML document. A node's name is worth a label, which says how many names
there were when the node began, and an alias stands for the last node of the document whose label is
the one that its own name had last. A name that is given again may so share its label with the next
new one, of which the later node then stands for both.
-/

set_option autoImplicit false
set_option relaxedAutoImplicit false

namespace OverlayGateway.Yaml

/-- The label that each name had last. -/
abbrev Labels := List (String × String)

namespace Labels

/-- Labels a node that begins here, if it has a name. -/
def begin (labels : Labels) (properties : Properties) : Properties × Labels :=
  match properties.anchor with
  | none => (properties, labels)
  | some name =>
    let label := Decimal.write labels.length
    ({ properties with anchor := some label },
      (name, label) :: labels.filter fun entry ↦ entry.1 ≠ name)

end Labels

namespace Tree

mutual

/-- The tree with labels in place of names, unless there is an alias for a name that is not there
yet. -/
def labelled? (labels : Labels) : Tree → Option (Tree × Labels)
  | .alias name => (labels.lookup name).map fun label ↦ (.alias label, labels)
  | .scalar properties text isPlain =>
    let (properties, labels) := labels.begin properties
    some (.scalar properties text isPlain, labels)
  | .sequence properties items => do
    let (properties, labels) := labels.begin properties
    let (items, labels) ← labelledItems? labels items
    return (.sequence properties items, labels)
  | .mapping properties members => do
    let (properties, labels) := labels.begin properties
    let (members, labels) ← labelledMembers? labels members
    return (.mapping properties members, labels)

def labelledItems? (labels : Labels) : List Tree → Option (List Tree × Labels)
  | [] => some ([], labels)
  | item :: items => do
    let (item, labels) ← labelled? labels item
    let (items, labels) ← labelledItems? labels items
    return (item :: items, labels)

def labelledMembers? (labels : Labels) :
    List (Tree × Tree) → Option (List (Tree × Tree) × Labels)
  | [] => some ([], labels)
  | (key, value) :: members => do
    let (key, labels) ← labelled? labels key
    let (value, labels) ← labelled? labels value
    let (members, labels) ← labelledMembers? labels members
    return ((key, value) :: members, labels)

end

/-- What stands in front of a node. -/
def properties : Tree → Properties
  | .alias _ => {}
  | .scalar properties _ _ | .sequence properties _ | .mapping properties _ => properties

/-- A tree with its label, if it has one. -/
def withLabel (tree : Tree) : List (String × Tree) :=
  tree.properties.anchor.toList.map fun label ↦ (label, tree)

mutual

/-- The nodes that have a label, in the order in which they begin. -/
def bearers : Tree → List (String × Tree)
  | .alias _ => []
  | .scalar properties text isPlain => withLabel (.scalar properties text isPlain)
  | .sequence properties items =>
    withLabel (.sequence properties items) ++ bearersOfItems items
  | .mapping properties members =>
    withLabel (.mapping properties members) ++ bearersOfMembers members

def bearersOfItems : List Tree → List (String × Tree)
  | [] => []
  | item :: items => item.bearers ++ bearersOfItems items

def bearersOfMembers : List (Tree × Tree) → List (String × Tree)
  | [] => []
  | (key, value) :: members => key.bearers ++ value.bearers ++ bearersOfMembers members

end

mutual

/-- How many events make up a tree. -/
def size : Tree → Nat
  | .alias _ => 1
  | .scalar _ _ _ => 1
  | .sequence _ items => sizeOfItems items + 2
  | .mapping _ members => sizeOfMembers members + 2

def sizeOfItems : List Tree → Nat
  | [] => 0
  | item :: items => item.size + sizeOfItems items

def sizeOfMembers : List (Tree × Tree) → Nat
  | [] => 0
  | (key, value) :: members => key.size + value.size + sizeOfMembers members

end

end Tree

end OverlayGateway.Yaml
