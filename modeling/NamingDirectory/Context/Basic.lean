import NamingDirectory.Context.Registry
import NamingDirectory.Loading
import NamingDirectory.Tree.Listing
import NamingDirectory.Config

/-!
Handles onto naming trees, private or on a root shared through a registry, and closing them.
-/

namespace NamingDirectory

/-- Registries are numbered; the first is the process-wide one. -/
abbrev RegistryId := Nat

/-- What handles share: the forest of nodes and the registries of shared roots. -/
structure Directory where
  forest : Forest := {}
  registries : Array SharedRoots := #[{}]
  deriving Inhabited

/-- Operations on a directory that may fail; what they changed before failing stays changed. -/
abbrev DirectoryM := ExceptT NamingError (StateM Directory)

namespace Directory

/-- The process-wide registry. -/
def processWide : RegistryId := 0

/-- A registry by number. -/
def registry (d : Directory) (id : RegistryId) : SharedRoots := d.registries[id]?.getD {}

/-- Changes one registry. -/
def updateRegistry (d : Directory) (id : RegistryId) (change : SharedRoots → SharedRoots) :
    Directory :=
  { d with registries := d.registries.modify id change }

/-- Adds an empty registry. -/
def addRegistry (d : Directory) : RegistryId × Directory :=
  (d.registries.size, { d with registries := d.registries.push {} })

/-- The roots that registries hold. -/
def published (d : Directory) : List NodeId := d.registries.toList.flatMap SharedRoots.held

end Directory

/-- Runs an operation on the forest of a directory. -/
def DirectoryM.onForest {α : Type} (step : TreeM α) : DirectoryM α := do
  let d ← get
  let (result, forest) := (step.run.run d.forest).run
  set { d with forest := forest }
  match result with
  | .ok a => pure a
  | .error e => throw e

/-- An open handle onto a naming tree. -/
structure NamingContext where
  root : NodeId
  config : NamingConfig
  /-- The registry of a shared handle. -/
  registry : Option RegistryId := none
  loader : Loader := {}
  closed : Bool := false

/-- What can be told about a handle at a glance. -/
structure ContextInfo where
  closed : Bool
  shared : Bool
  rootId : String
  rootClosed : Bool
  name : String
  size : Nat
  deriving Inhabited

/-- What a handle is built from. -/
structure ContextBuilder where
  config : NamingConfig := {}
  registry : Option RegistryId := none
  conversion : ConversionService := ConversionService.standard
  sources : List TextSource := []

namespace ContextBuilder

/-- Loads every source into a root and fails with the first failure. -/
def loadSources (loader : Loader) (held : List NodeId) (root : NodeId) (sources : List TextSource) :
    TreeM Unit := do
  let failures ← sources.mapM fun source => Loader.attempt (loader.loadSource held source root)
  match failures.filterMap id with
  | first :: _ => throw first
  | [] => pure ()

/-- Opens a handle; `held` are the nodes held from outside the forest. -/
def build (b : ContextBuilder) (held : List NodeId) : DirectoryM NamingContext := do
  let delimiter ← match b.config.compileDelimiter with
    | .ok d => pure d
    | .error e => throw e
  let loader : Loader := ⟨b.conversion⟩
  let fresh : DirectoryM NodeId := DirectoryM.onForest do
    let root ← TreeM.make fun forest => .ok (forest.addRoot ⟨delimiter, b.config.ignoreClose⟩)
    loadSources loader (root :: held) root b.sources
    pure root
  if b.config.shared then
    let registry := b.registry.getD Directory.processWide
    let root ← match ((← get).registry registry).get? b.config.root with
      | some root => pure root
      | none => do
        let root ← fresh
        modify fun d => d.updateRegistry registry (·.publish b.config.root root)
        pure root
    pure { root := root, config := b.config, registry := some registry, loader := loader }
  else
    pure { root := ← fresh, config := b.config, loader := loader }

end ContextBuilder

namespace NamingContext

/-- Whether the handle is on a shared root. -/
def isShared (ctx : NamingContext) : Bool := ctx.registry.isSome

/-- The root id of the handle's configuration. -/
def rootId (ctx : NamingContext) : String := ctx.config.root

/-- Closes the handle. -/
def close (ctx : NamingContext) (d : Directory) : NamingContext × Directory :=
  if ctx.config.ignoreClose || ctx.closed then (ctx, d)
  else
    let d := match ctx.registry with
      | some registry => d.updateRegistry registry (·.removeRoot ctx.config.root ctx.root)
      | none => d
    ({ ctx with closed := true }, { d with forest := d.forest.release ctx.root })

/-- Loads records into the root. -/
def load (ctx : NamingContext) (held : List NodeId) (records : Records) : TreeM Unit :=
  ctx.loader.load held records ctx.root

/-- Loads records into the node a path leads to, made as needed. -/
def loadInto (ctx : NamingContext) (held : List NodeId) (records : Records) (path : PathArg) :
    TreeM Unit := do
  let target ← TreeM.ensureSubnode ctx.root path
  ctx.loader.load held records target

/-- Loads a source into the root. -/
def loadSource (ctx : NamingContext) (held : List NodeId) (source : TextSource) : TreeM Unit :=
  ctx.loader.loadSource held source ctx.root

/-- Loads a text of a format into the root, with the handle's comment character. -/
def loadText (ctx : NamingContext) (held : List NodeId) (format : RecordFormat) (content : String) :
    TreeM Unit :=
  ctx.loadSource held { TextSource.new format content with commentChar := ctx.config.commentChar }

/-- What can be told about the handle. -/
def info (ctx : NamingContext) (forest : Forest) : ContextInfo :=
  ⟨ctx.closed, ctx.isShared, ctx.rootId, (forest.get ctx.root).closed, forest.name ctx.root,
    forest.size ctx.root⟩

/-- The debug text: the root, the configuration, and whether the handle is shared and closed. -/
def debug (ctx : NamingContext) (forest : Forest) : String :=
  "NamingContext \x7b root: " ++ forest.nodeDebug ctx.root ++ ", config: " ++ ctx.config.debug ++
    ", shared: " ++ toString ctx.isShared ++ ", closed: " ++ toString ctx.closed ++ " \x7d"

end NamingContext

end NamingDirectory
