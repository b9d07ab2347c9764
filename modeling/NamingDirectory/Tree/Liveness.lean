import NamingDirectory.Tree.Basic

/-!
The living nodes: the largest set of nodes each held from outside or bound in a member.
-/

namespace NamingDirectory

namespace Forest

/-- Whether a node binds another one. -/
def binds (forest : Forest) (binder target : NodeId) : Bool :=
  (forest.get binder).bindings.entries.any fun (_, bound) => bound.node? == some target

/-- One round: keeps the nodes held from outside or bound in a node of the set. -/
def keepHeld (forest : Forest) (held : List NodeId) (living : List NodeId) : List NodeId :=
  living.filter fun id => held.contains id || living.any fun binder => forest.binds binder id

/-- Rounds until nothing more is dropped, at most `fuel` of them. -/
def keepHeldWith (forest : Forest) (held : List NodeId) : Nat → List NodeId → List NodeId
  | 0, living => living
  | fuel + 1, living =>
    let next := forest.keepHeld held living
    if next.length == living.length then living else forest.keepHeldWith held fuel next

/-- The living nodes, given the nodes held from outside. -/
def living (forest : Forest) (held : List NodeId) : List NodeId :=
  forest.keepHeldWith held (forest.nodes.size + 1) (List.range forest.nodes.size)

/-- The node a node was made under, while it lives. -/
def parent? (forest : Forest) (held : List NodeId) (id : NodeId) : Option NodeId :=
  (forest.get id).parent.filter fun p => (forest.living held).contains p

end Forest

end NamingDirectory
