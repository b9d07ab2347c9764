import NamingDirectory.Path.Name
import NamingDirectory.Value.Basic

/-!
The naming tree: a forest of nodes mapping local names to values or nodes, and walking paths.
-/

namespace NamingDirectory

/-- Nodes are numbered in the order they are made. -/
abbrev NodeId := Nat

/-- What a tree fixes for all its nodes: the delimiter, and whether closing is ignored. -/
structure NodeConfig where
  delimiter : Delimiter := Delimiter.default
  ignoreClose : Bool := false
  deriving Inhabited

/-- What a name is bound to: a value or a node. -/
inductive Bound where
  | value (v : Value)
  | node (id : NodeId)
  deriving Inhabited

namespace Bound

/-- Equality of bindings: values compare as values, nodes by identity. -/
def same : Bound → Bound → Bool
  | .value a, .value b => a == b
  | .node a, .node b => a == b
  | _, _ => false

/-- The node bound, if it is one. -/
def node? : Bound → Option NodeId
  | .node id => some id
  | .value _ => none

/-- The value bound, if it is one. -/
def value? : Bound → Option Value
  | .value v => some v
  | .node _ => none

end Bound

/-- A node of the tree. -/
structure Node where
  /-- The name in the namespace, once it is fixed. -/
  fixedName : Option String := none
  /-- The segment it was made under; empty for a root. -/
  localName : String := ""
  /-- The node it was made under; a root has none. -/
  parent : Option NodeId := none
  config : NodeConfig := {}
  bindings : OrderedMap Bound := .empty
  closed : Bool := false
  deriving Inhabited

/-- All nodes made so far, by number. -/
structure Forest where
  nodes : Array Node := #[]
  deriving Inhabited

/-- Operations on a forest that may fail; what they changed before failing stays changed. -/
abbrev TreeM := ExceptT NamingError (StateM Forest)

namespace Forest

/-- A node by number. -/
def get (forest : Forest) (id : NodeId) : Node := forest.nodes[id]?.getD default

/-- Changes one node. -/
def update (forest : Forest) (id : NodeId) (change : Node → Node) : Forest :=
  ⟨forest.nodes.modify id change⟩

/-- The name of a node in the namespace; empty until it is fixed. -/
def name (forest : Forest) (id : NodeId) : String := (forest.get id).fixedName.getD ""

/-- The delimiter of a node's paths. -/
def delimiter (forest : Forest) (id : NodeId) : Delimiter := (forest.get id).config.delimiter

/-- The name of a segment under a node: alone under an empty name, else after the node's name. -/
def compose (forest : Forest) (id : NodeId) (segment : String) : String :=
  let base := forest.name id
  if base.isEmpty then segment else base ++ (forest.delimiter id).separator ++ segment

/-- The failure of an operation on a closed node. -/
def closedError (forest : Forest) (id : NodeId) : NamingError := .closed (forest.name id)

/-- Adds a root with a configuration. -/
def addRoot (forest : Forest) (config : NodeConfig) : NodeId × Forest :=
  (forest.nodes.size, ⟨forest.nodes.push { config := config }⟩)

/-- Adds a node made under another one for a segment; it is not bound yet. -/
def addChild (forest : Forest) (owner : NodeId) (segment : String) : NodeId × Forest :=
  (forest.nodes.size, ⟨forest.nodes.push {
    fixedName := some (forest.compose owner segment), localName := segment,
    parent := some owner, config := (forest.get owner).config }⟩)

/-- The node a path leads to from a node. -/
def walk (forest : Forest) (start : NodeId) : List String → Except NamingError NodeId
  | [] => .ok start
  | segment :: rest =>
    let node := forest.get start
    if node.closed then .error (forest.closedError start)
    else match node.bindings.get? segment with
      | some (.node child) => walk forest child rest
      | some (.value _) => .error (.notANode (forest.compose start segment))
      | none => .error (.notFound (forest.compose start segment))

/-- A path cut with the delimiter of the node it is used on. -/
def resolve (forest : Forest) (start : NodeId) (path : PathArg) : Name :=
  path.resolve (forest.delimiter start)

/-- The node holding the last segment of a path, and that segment; an empty path fails. -/
def owner (forest : Forest) (start : NodeId) (name : Name) (operation : String) :
    Except NamingError (NodeId × String) :=
  match name.last? with
  | none => .error (.invalidPath ("cannot " ++ operation ++ " an empty name"))
  | some last => (forest.walk start name.parent.segments).map (·, last)

/-- What a path is bound to; the empty path stands for the node itself. -/
def lookup (forest : Forest) (start : NodeId) (path : PathArg) : Except NamingError Bound := do
  let name := forest.resolve start path
  match name.last? with
  | none => if (forest.get start).closed then .error (forest.closedError start) else .ok (.node start)
  | some last =>
    let owner ← forest.walk start name.parent.segments
    let node := forest.get owner
    if node.closed then .error (forest.closedError owner)
    else match node.bindings.get? last with
      | some bound => .ok bound
      | none => .error (.notFound (forest.compose owner last))

/-- The value a path is bound to; a node there is not a value. -/
def lookupValue (forest : Forest) (start : NodeId) (path : PathArg) : Except NamingError Value := do
  match ← forest.lookup start path with
  | .value v => .ok v
  | .node id => .error (.invalidPath ("'" ++ forest.name id ++ "' is a node, not a value"))

/-- The open node a path leads to. -/
def openNodeAt (forest : Forest) (start : NodeId) (path : PathArg) : Except NamingError NodeId := do
  let id ← forest.walk start (forest.resolve start path).segments
  if (forest.get id).closed then .error (forest.closedError id) else .ok id

/-- The names bound in the node a path leads to, in order. -/
def list (forest : Forest) (start : NodeId) (path : PathArg) : Except NamingError (List String) :=
  (forest.openNodeAt start path).map fun id => (forest.get id).bindings.keys

/-- The bindings of the node a path leads to, in order. -/
def listBindings (forest : Forest) (start : NodeId) (path : PathArg) :
    Except NamingError (List (String × Bound)) :=
  (forest.openNodeAt start path).map fun id => (forest.get id).bindings.entries

/-- The number of bindings of a node. -/
def size (forest : Forest) (id : NodeId) : Nat := (forest.get id).bindings.size

end Forest

end NamingDirectory
