import NamingDirectory.Session.Step

/-!
A session's workspace, and running a request on it.
-/

namespace NamingDirectory

/-- The state of a session. -/
structure Workspace where
  directory : Directory := {}
  handles : OrderedMap NamingContext := .empty
  kept : OrderedMap NodeId := .empty
  /-- The session's registry of shared roots. -/
  registry : RegistryId := Directory.processWide
  /-- The conversions of the session's handles and of loaders into kept nodes. -/
  conversion : ConversionService := ConversionService.standard

/-- Steps of a session that may fail; what they changed before failing stays changed. -/
abbrev SessionM := ExceptT StepFailure (StateM Workspace)

namespace Workspace

/-- A fresh workspace with a registry of its own. -/
def start (conversion : ConversionService) : Workspace :=
  let (registry, directory) := ({} : Directory).addRegistry
  { directory := directory, registry := registry, conversion := conversion }

/-- The nodes held from outside the forest. -/
def held (ws : Workspace) : List NodeId :=
  ws.handles.entries.map (·.2.root) ++ ws.kept.entries.map (·.2) ++ ws.directory.published

/-- The registry a registry step names. -/
def registryOf (ws : Workspace) (processWide : Bool) : RegistryId :=
  if processWide then Directory.processWide else ws.registry

end Workspace

namespace SessionM

/-- Fails with a failure of the directory. -/
def ofExcept {α : Type} : Except NamingError α → SessionM α
  | .ok a => pure a
  | .error e => throw (.naming e)

/-- Runs an operation on the directory. -/
def onDirectory {α : Type} (step : DirectoryM α) : SessionM α := do
  let ws ← get
  let (result, d) := (step.run.run ws.directory).run
  set { ws with directory := d }
  ofExcept result

/-- Runs an operation on the forest. -/
def onForest {α : Type} (step : TreeM α) : SessionM α := onDirectory (DirectoryM.onForest step)

/-- The forest as it is. -/
def forest : SessionM Forest := return (← get).directory.forest

/-- A handle by name. -/
def context (name : String) : SessionM NamingContext := do
  match (← get).handles.get? name with
  | some ctx => pure ctx
  | none => throw (.unknownHandle name)

/-- A kept node by name. -/
def keptNode (name : String) : SessionM NodeId := do
  match (← get).kept.get? name with
  | some id => pure id
  | none => throw (.unknownNode name)

/-- The node a target stands for: a handle's root, or a kept node. -/
def node : Target → SessionM NodeId
  | .handle name => return (← context name).root
  | .node name => keptNode name

/-- What an operand binds. -/
def operand : Operand → SessionM Bound
  | .value v => pure (.value v)
  | .node name => return .node (← keptNode name)

/-- Replaces a handle. -/
def putContext (name : String) (ctx : NamingContext) : SessionM Unit :=
  modify fun ws => { ws with handles := ws.handles.insert name ctx }

/-- A loader into kept nodes. -/
def loader : SessionM Loader := return ⟨(← get).conversion⟩

/-- What a path is bound to from a target, shown, with the node it names. -/
def lookup (target : Target) (path : PathArg) : SessionM Bound := do
  let id ← node target
  ofExcept ((← forest).lookup id path)

/-- A reply naming a node, which the step may keep. -/
def nodeReply (id : NodeId) : SessionM (Reply × Option NodeId) :=
  return (.node ((← forest).name id), some id)

/-- Runs one step: its reply, and the node it names. -/
def step : Step → SessionM (Reply × Option NodeId)
  | .openHandle handle config sources plain => do
    let ws ← get
    let builder : ContextBuilder ← if plain then pure { config := config }
      else do
        let sources ← sources.mapM ofExcept
        pure {
          config := config, registry := some ws.registry, conversion := ws.conversion,
          sources := sources }
    let ctx ← onDirectory (builder.build ws.held)
    putContext handle ctx
    return (.opened ctx.isShared ctx.rootId, none)
  | .lookup target path => do
    let bound ← lookup target path
    return (.bound ((← forest).shown bound), bound.node?)
  | .lookupValue target path => do
    let id ← node target
    return (.value (← ofExcept ((← forest).lookupValue id path)), none)
  | .bind target path operand => do
    let id ← node target
    let bound ← SessionM.operand operand
    onForest (TreeM.change (·.bind id path bound))
    return (.done, none)
  | .rebind target path operand => do
    let id ← node target
    let bound ← SessionM.operand operand
    onForest (TreeM.change (·.rebind id path bound))
    return (.done, none)
  | .inspect target path => do
    let bound ← lookup target path
    let forest ← forest
    return (.inspection ⟨forest.shown bound, forest.boundDebug bound, bound.same bound⟩, bound.node?)
  | .equal target path other otherPath => do
    let a ← lookup target path
    let b ← lookup other otherPath
    return (.flag (a.same b), none)
  | .debug target => do
    match target with
    | .handle name => return (.text ((← context name).debug (← forest)), none)
    | .node name => return (.text ((← forest).nodeDebug (← keptNode name)), none)
  | .config target => do
    match target with
    | .handle name => return (.config (← context name).config, none)
    | .node _ => throw (.handleOnly "config")
  | .unbind target path => do
    let id ← node target
    onForest (TreeM.change (·.unbind id path))
    return (.done, none)
  | .rename target old new => do
    let id ← node target
    onForest (TreeM.rename id old new)
    return (.done, none)
  | .list target path => do
    let id ← node target
    return (.names (← ofExcept ((← forest).list id path)), none)
  | .listBindings target path => do
    let id ← node target
    let forest ← forest
    let entries ← ofExcept (forest.listBindings id path)
    return (.bindings (entries.map fun (key, bound) => (key, forest.shown bound)), none)
  | .createSubnode target path => do
    let id ← node target
    nodeReply (← onForest (TreeM.make (·.createSubnode id path)))
  | .ensureSubnode target path => do
    let id ← node target
    nodeReply (← onForest (TreeM.ensureSubnode id path))
  | .destroySubnode target path => do
    let id ← node target
    onForest (TreeM.change (·.destroySubnode id path))
    return (.done, none)
  | .close target => do
    match target with
    | .handle name =>
      let ws ← get
      let (ctx, d) := (← context name).close ws.directory
      set { ws with directory := d }
      putContext name ctx
    | .node name =>
      let id ← keptNode name
      modify fun ws => { ws with directory.forest := ws.directory.forest.close id }
    return (.done, none)
  | .dump target => do
    let id ← node target
    return (.listing (← ofExcept ((← forest).listing id)), none)
  | .info target => do
    match target with
    | .handle name => return (.contextInfo ((← context name).info (← forest)), none)
    | .node name =>
      let id ← keptNode name
      return (.nodeInfo ((← forest).info (← get).held id), none)
  | .setName target name => do
    let id ← node target
    onForest (TreeM.change (·.setName id name))
    return (.done, none)
  | .root target => do
    match target with
    | .handle name => nodeReply (← context name).root
    | .node _ => throw (.handleOnly "root")
  | .parent target => do
    let id ← node target
    let forest ← forest
    match forest.parent? (← get).held id with
    | some p => nodeReply p
    | none => return (.maybeNode none, none)
  | .load target records => do
    let held := (← get).held
    match target with
    | .handle name => onForest ((← context name).load held records)
    | .node name => onForest ((← loader).load held records (← keptNode name))
    return (.done, none)
  | .loadInto target records path => do
    match target with
    | .handle name => onForest ((← context name).loadInto (← get).held records path)
    | .node _ => throw (.handleOnly "load_into")
    return (.done, none)
  | .loadText target format content => do
    match target with
    | .handle name => onForest ((← context name).loadText (← get).held format content)
    | .node _ => throw (.handleOnly "load_text")
    return (.done, none)
  | .loadSource target source => do
    let held := (← get).held
    match target with
    | .handle name =>
      let ctx ← context name
      onForest (ctx.loadSource held (← ofExcept source))
    | .node name =>
      let id ← keptNode name
      onForest ((← loader).loadSource held (← ofExcept source) id)
    return (.done, none)
  | .registryIsEmpty processWide => do
    let ws ← get
    return (.flag (ws.directory.registry (ws.registryOf processWide)).isEmpty, none)
  | .registryContains processWide rootId => do
    let ws ← get
    return (.flag ((ws.directory.registry (ws.registryOf processWide)).contains rootId), none)
  | .registryLen processWide => do
    let ws ← get
    return (.count (ws.directory.registry (ws.registryOf processWide)).size, none)
  | .registryRemove processWide rootId => do
    let ws ← get
    let registry := ws.registryOf processWide
    let (removed, rest) := (ws.directory.registry registry).remove rootId
    set { ws with directory := ws.directory.updateRegistry registry fun _ => rest }
    return (.flag removed.isSome, none)
  | .registryGet processWide rootId => do
    let ws ← get
    match (ws.directory.registry (ws.registryOf processWide)).get? rootId with
    | some root => nodeReply root
    | none => return (.maybeNode none, none)
  | .same a b => do
    let a ← node a
    let b ← node b
    return (.flag (a == b), none)

end SessionM

namespace Workspace

/-- Runs a request: the step's outcome, and the workspace after it with the reply's node kept if asked. -/
def perform (ws : Workspace) (request : Request) : Except StepFailure Reply × Workspace :=
  let (result, ws) := ((SessionM.step request.step).run.run ws).run
  match result, request.keep with
  | .ok (reply, some id), some name => (.ok reply, { ws with kept := ws.kept.insert name id })
  | .ok (reply, _), _ => (.ok reply, ws)
  | .error e, _ => (.error e, ws)

/-- Runs requests in order and gives each outcome. -/
def performAll (ws : Workspace) : List Request → List (Except StepFailure Reply)
  | [] => []
  | request :: rest =>
    let (outcome, ws) := ws.perform request
    outcome :: performAll ws rest

end Workspace

end NamingDirectory
