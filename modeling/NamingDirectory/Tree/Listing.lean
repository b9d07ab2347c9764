import NamingDirectory.Tree.Liveness
import NamingDirectory.Value.Text
import NamingDirectory.Text.Escape

/-!
Views of the naming tree: listings, summaries and debug texts.
-/

namespace NamingDirectory

/-- One binding in the listing of a node. -/
inductive Entry where
  /-- A value. -/
  | value (v : Value)
  /-- An open node made under the listed node, with its own listing. -/
  | subtree (entries : List (String × Entry))
  /-- A closed node made under the listed node, by name. -/
  | closedSubtree (name : String)
  /-- A node made elsewhere, by name. -/
  | link (name : String)
  deriving Inhabited

/-- What can be told about a node at a glance. -/
structure NodeInfo where
  name : String
  localName : String
  closed : Bool
  size : Nat
  ignoreClose : Bool
  /-- The name of the node's parent, while it lives. -/
  parent : Option String
  deriving Inhabited

namespace Forest

/-- The listing of a node's bindings; the fuel bounds the depth. -/
def entriesWith (forest : Forest) : Nat → NodeId → List (String × Entry)
  | 0, _ => []
  | fuel + 1, id =>
    (forest.get id).bindings.entries.map fun (key, bound) =>
      match bound with
      | .value v => (key, .value v)
      | .node child =>
        let node := forest.get child
        if node.parent == some id then
          if node.closed then (key, .closedSubtree (forest.name child))
          else (key, .subtree (forest.entriesWith fuel child))
        else (key, .link (forest.name child))

/-- The listing of an open node. -/
def listing (forest : Forest) (id : NodeId) : Except NamingError (List (String × Entry)) :=
  if (forest.get id).closed then .error (forest.closedError id)
  else .ok (forest.entriesWith (forest.nodes.size + 1) id)

/-- What can be told about a node; `held` are the nodes held from outside the forest. -/
def info (forest : Forest) (held : List NodeId) (id : NodeId) : NodeInfo :=
  let node := forest.get id
  ⟨forest.name id, node.localName, node.closed, node.bindings.size, node.config.ignoreClose,
    (forest.parent? held id).map forest.name⟩

/-- The debug text of a node: its name, how many bindings it has, and whether it is closed. -/
def nodeDebug (forest : Forest) (id : NodeId) : String :=
  "Node \x7b name: " ++ Text.quote (forest.name id) ++ ", bindings: " ++
    toString (forest.size id) ++ ", closed: " ++ toString (forest.get id).closed ++ " \x7d"

/-- The debug text of a binding. -/
def boundDebug (forest : Forest) : Bound → String
  | .value v => "Value(" ++ v.debug ++ ")"
  | .node id => "Node(" ++ forest.nodeDebug id ++ ")"

end Forest

end NamingDirectory
