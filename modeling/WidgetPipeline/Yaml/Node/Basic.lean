/-!
Nodes of a YAML document. An alias names the anchor of another node by its number; `preorder` lists
the nodes in the order in which a text writes them.
-/

namespace WidgetPipeline.Yaml

/-- What may stand in front of a node. -/
structure Properties where
  /-- The number of the anchor under which aliases find the node. -/
  anchor : Option Nat := none
  /-- The bytes of the tag, which need not be text. -/
  tag : Option (List UInt8) := none
deriving DecidableEq, Repr

inductive Node where
  | alias (anchor : Nat)
  /-- A scalar, and whether it was written without quotes and indicators. -/
  | scalar (properties : Properties) (text : String) (plain : Bool)
  | sequence (properties : Properties) (items : List Node)
  | mapping (properties : Properties) (entries : List (Node × Node))
deriving Repr

namespace Node

def empty : Node := .scalar {} "" true

instance : Inhabited Node := ⟨empty⟩

/-- The properties of a node. An alias has none. -/
def properties : Node → Properties
  | .alias _ => {}
  | .scalar properties _ _ => properties
  | .sequence properties _ => properties
  | .mapping properties _ => properties

mutual

/-- A node and all nodes in it, each in front of those in it. -/
def preorder : Node → List Node
  | .sequence properties items => .sequence properties items :: itemsPreorder items
  | .mapping properties entries => .mapping properties entries :: entriesPreorder entries
  | node => [node]

def itemsPreorder : List Node → List Node
  | [] => []
  | item :: items => item.preorder ++ itemsPreorder items

/-- The nodes of a mapping, a key in front of its value. -/
def entriesPreorder : List (Node × Node) → List Node
  | [] => []
  | (key, value) :: entries => key.preorder ++ (value.preorder ++ entriesPreorder entries)

end

/-- How many events belong to a node alone: a collection starts and ends. -/
def ownEvents : Node → Nat
  | .sequence _ _ | .mapping _ _ => 2
  | _ => 1

def eventCount (node : Node) : Nat :=
  node.preorder.foldl (fun count node => count + ownEvents node) 0

/-- The nodes with anchors by their numbers. Of several with one number the last in the text comes
first. -/
def targets (root : Node) : List (Nat × Node) :=
  (root.preorder.filterMap fun node => node.properties.anchor.map (·, node)).reverse

end Node

end WidgetPipeline.Yaml
