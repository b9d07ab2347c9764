import NamingDirectory.Tree.Basic

/-!
Changing the naming tree: binding, renaming, making, releasing and destroying nodes.
-/

namespace NamingDirectory

namespace Forest

/-- The owner of a path's last segment, as `owner` finds it, when that node is open. -/
def openOwner (forest : Forest) (start : NodeId) (path : PathArg) (operation : String) :
    Except NamingError (NodeId × String) := do
  let (owner, last) ← forest.owner start (forest.resolve start path) operation
  if (forest.get owner).closed then .error (forest.closedError owner) else .ok (owner, last)

/-- Sets a binding of a node. -/
def setBinding (forest : Forest) (id : NodeId) (segment : String) (bound : Bound) : Forest :=
  forest.update id fun node => { node with bindings := node.bindings.insert segment bound }

/-- Removes a binding of a node. -/
def eraseBinding (forest : Forest) (id : NodeId) (segment : String) : Forest :=
  forest.update id fun node => { node with bindings := node.bindings.erase segment }

/-- Binds a free name. -/
def bind (forest : Forest) (start : NodeId) (path : PathArg) (bound : Bound) :
    Except NamingError Forest := do
  let (owner, last) ← forest.openOwner start path "bind"
  if (forest.get owner).bindings.contains last then .error (.alreadyBound (forest.compose owner last))
  else .ok (forest.setBinding owner last bound)

/-- Binds a name, replacing what it was bound to. -/
def rebind (forest : Forest) (start : NodeId) (path : PathArg) (bound : Bound) :
    Except NamingError Forest := do
  let (owner, last) ← forest.openOwner start path "rebind"
  .ok (forest.setBinding owner last bound)

/-- Removes a bound name. -/
def unbind (forest : Forest) (start : NodeId) (path : PathArg) : Except NamingError Forest := do
  let (owner, last) ← forest.openOwner start path "unbind"
  if (forest.get owner).bindings.contains last then .ok (forest.eraseBinding owner last)
  else .error (.notFound (forest.compose owner last))

/-- Makes a node under a free name and binds it there. -/
def createSubnode (forest : Forest) (start : NodeId) (path : PathArg) :
    Except NamingError (NodeId × Forest) := do
  let (owner, last) ← forest.openOwner start path "create"
  if (forest.get owner).bindings.contains last then .error (.alreadyBound (forest.compose owner last))
  else
    let (child, forest) := forest.addChild owner last
    .ok (child, forest.setBinding owner last (.node child))

/-- Fixes the name of a node that has none yet. -/
def setName (forest : Forest) (id : NodeId) (name : String) : Except NamingError Forest :=
  match (forest.get id).fixedName with
  | some current => .error (.nameLocked current name)
  | none => .ok (forest.update id fun node => { node with fixedName := some name })

/-- Closes and empties a node, then releases the nodes made under it that it binds. -/
def releaseWith : Nat → Forest → NodeId → Forest
  | 0, forest, _ => forest
  | fuel + 1, forest, id =>
    let node := forest.get id
    if node.closed then forest
    else
      let cleared := forest.update id fun n => { n with closed := true, bindings := .empty }
      node.bindings.entries.foldl (fun acc (_, bound) =>
        match bound with
        | .node child => if (acc.get child).parent == some id then releaseWith fuel acc child else acc
        | .value _ => acc) cleared

/-- Releases a node and every open node made under it that is reached through bindings. -/
def release (forest : Forest) (id : NodeId) : Forest := releaseWith (forest.nodes.size + 1) forest id

/-- Closes a node, unless its tree ignores closing. -/
def close (forest : Forest) (id : NodeId) : Forest :=
  if (forest.get id).config.ignoreClose then forest else forest.release id

/-- Releases the node a path is bound to and removes the binding. -/
def destroySubnode (forest : Forest) (start : NodeId) (path : PathArg) :
    Except NamingError Forest := do
  let (owner, last) ← forest.openOwner start path "destroy"
  let child ← match (forest.get owner).bindings.get? last with
    | some (.node child) => .ok child
    | some (.value _) => .error (.notANode (forest.compose owner last))
    | none => .error (.notFound (forest.compose owner last))
  let released := forest.release child
  match (released.get owner).bindings.get? last with
  | some (.node current) => if current == child then .ok (released.eraseBinding owner last) else .ok released
  | _ => .ok released

end Forest

/-- Lifts a change of the forest that fails without changing anything. -/
def TreeM.change (f : Forest → Except NamingError Forest) : TreeM Unit := do
  match f (← get) with
  | .ok forest => set forest
  | .error e => throw e

/-- Lifts a change of the forest with a result. -/
def TreeM.make {α : Type} (f : Forest → Except NamingError (α × Forest)) : TreeM α := do
  match f (← get) with
  | .ok (a, forest) => set forest; pure a
  | .error e => throw e

/-- Lifts a question to the forest. -/
def TreeM.ask {α : Type} (f : Forest → Except NamingError α) : TreeM α := do
  match f (← get) with
  | .ok a => pure a
  | .error e => throw e

namespace TreeM

/-- Walks a path from a node, making every missing node, and gives the last; a value stops it. -/
def ensureSegments : NodeId → List String → TreeM NodeId
  | current, [] => pure current
  | current, segment :: rest => do
    let forest ← get
    let node := forest.get current
    if node.closed then throw (forest.closedError current)
    match node.bindings.get? segment with
    | some (.node child) => ensureSegments child rest
    | some (.value _) => throw (.structuralConflict (forest.compose current segment))
    | none =>
      let (child, grown) := forest.addChild current segment
      set (grown.setBinding current segment (.node child))
      ensureSegments child rest

/-- The node a path leads to, made with every missing node on the way. -/
def ensureSubnode (start : NodeId) (path : PathArg) : TreeM NodeId := do
  ensureSegments start ((← get).resolve start path).segments

/-- Moves what one path is bound to onto another, free one. -/
def rename (start : NodeId) (old new : PathArg) : TreeM Unit := do
  let forest ← get
  let delimiter := forest.delimiter start
  let old := old.resolve delimiter
  let new := new.resolve delimiter
  if old.isEmpty || new.isEmpty then throw (.invalidPath "cannot rename an empty name")
  let bound ← TreeM.ask (·.lookup start (.segments old))
  if ((← get).lookup start (.segments new)).toOption.isSome then
    throw (.alreadyBound (new.join delimiter))
  TreeM.change (·.unbind start (.segments old))
  TreeM.change (·.bind start (.segments new) bound)

end TreeM

end NamingDirectory
