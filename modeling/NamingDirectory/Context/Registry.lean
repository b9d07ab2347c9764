import NamingDirectory.Tree.Basic

/-!
Registries of shared roots: root ids to the roots published under them.
-/

namespace NamingDirectory

/-- Roots published under ids. -/
structure SharedRoots where
  roots : List (String × NodeId) := []
  deriving Inhabited

namespace SharedRoots

/-- The root published under an id. -/
def get? (registry : SharedRoots) (rootId : String) : Option NodeId := registry.roots.lookup rootId

/-- Whether a root is published under an id. -/
def contains (registry : SharedRoots) (rootId : String) : Bool := (registry.get? rootId).isSome

/-- Publishes a root under an id that has none. -/
def publish (registry : SharedRoots) (rootId : String) (root : NodeId) : SharedRoots :=
  ⟨registry.roots ++ [(rootId, root)]⟩

/-- Removes the root published under an id, and gives it. -/
def remove (registry : SharedRoots) (rootId : String) : Option NodeId × SharedRoots :=
  (registry.get? rootId, ⟨registry.roots.filter (·.1 != rootId)⟩)

/-- Removes the root published under an id if it is the given root. -/
def removeRoot (registry : SharedRoots) (rootId : String) (root : NodeId) : SharedRoots :=
  if registry.get? rootId == some root then (registry.remove rootId).2 else registry

/-- The number of published roots. -/
def size (registry : SharedRoots) : Nat := registry.roots.length

/-- Whether no root is published. -/
def isEmpty (registry : SharedRoots) : Bool := registry.roots.isEmpty

/-- The published roots. -/
def held (registry : SharedRoots) : List NodeId := registry.roots.map (·.2)

end SharedRoots

end NamingDirectory
