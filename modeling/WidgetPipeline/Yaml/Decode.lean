import WidgetPipeline.Yaml.Node.Document
import WidgetPipeline.Yaml.Scalar

/-!
Reading values from nodes. A string takes the text of any scalar, whatever it looks like. Aliases are
followed where a value is wanted; how often is bounded by the size of the document, so that a short
text cannot stand for an endless value.
-/

namespace WidgetPipeline.Yaml

/-- Reads from a document, or fails. What is given are the nodes by the numbers of their anchors; the
state is the number of aliases that may still be followed. -/
abbrev Decoder := ReaderT (Nat → Option Node) (StateT Nat Option)

namespace Decoder

/-- How many collections may be nested. -/
def maxDepth : Nat := 128

/-- How many aliases may be followed for each event of the document. -/
def followsPerEvent : Nat := 100

/-- The node itself, or the one that an alias stands for. -/
def follow (node : Node) : Decoder Node :=
  match node with
  | .alias anchor => do
    let budget ← get
    if budget = 0 then failure
    set (budget - 1)
    match (← read) anchor with
    | some node => return node
    | none => failure
  | node => return node

def text (node : Node) : Decoder String := do
  match ← follow node with
  | .scalar _ text _ => return text
  | _ => failure

/-- Whether the node is a scalar without anything written for it. -/
def isBare : Node → Bool
  | .scalar _ text plain => plain && text.isEmpty
  | _ => false

/-- The items of a sequence, none where nothing is written. -/
def items (node : Node) : Decoder (List Node) := do
  match ← follow node with
  | .sequence _ items => return items
  | node => if isBare node then return [] else failure

/-- The entries of a mapping with the texts of their keys, none where nothing is written. -/
def entries (node : Node) : Decoder (List (String × Node)) := do
  match ← follow node with
  | .mapping _ entries => entries.mapM fun (key, value) => return (← text key, value)
  | node => if isBare node then return [] else failure

def textList (node : Node) : Decoder (List String) := do (← items node).mapM text

/-- A table of texts. Of a repeated key the last value counts. -/
def textTable (node : Node) : Decoder (OrderedMap String String) := do
  return .ofList (← (← entries node).mapM fun (key, value) => return (key, ← text value))

/-- Whether the tag is one of the application's own. -/
def hasOwnTag (properties : Properties) : Bool := properties.tag.any isOwnTag

/-- Any value, with at most `depth` collections nested in it. -/
def json (depth : Nat) (node : Node) : Decoder Json := do
  match ← follow node, depth with
  | .scalar properties text plain, _ =>
    match scalarValue? properties.tag text plain with
    | some value => return value
    | none => failure
  | .sequence properties items, depth + 1 =>
    if hasOwnTag properties then failure
    return .array (← items.mapM (json depth))
  | .mapping properties entries, depth + 1 =>
    if hasOwnTag properties then failure
    return .ofFields (← entries.mapM fun (key, value) => return (← text key, ← json depth value))
  | _, _ => failure

/-- The fields of a record in the order of their names. Other fields are passed over; a field may
not be repeated. -/
def slots (names : List String) (node : Node) : Decoder (List (Option Node)) := do
  let known := (← entries node).filter fun entry => names.contains entry.1
  if known.length ≠ (known.map (·.1)).eraseDups.length then failure
  return names.map fun name => known.lookup name

def run? {α : Type} (decode : Node → Decoder α) (text : String) : Option α := do
  let root := (← Node.ofText? text).getD .empty
  let targets := root.targets
  let (value, _) ← (decode root).run (List.lookup · targets) |>.run (followsPerEvent * root.eventCount)
  return value

end Decoder

end WidgetPipeline.Yaml
