import NamingDirectory.Tree.Edit
import NamingDirectory.Tree.Liveness
import NamingDirectory.Descriptor
import NamingDirectory.Conversion.Service
import NamingDirectory.Source.Text

/-!
Loading records into a naming tree: leaves, then typed entries, or one value in the target's place.
-/

namespace NamingDirectory

/-- Loads records into naming trees, converting typed entries with a conversion service. -/
structure Loader where
  conversion : ConversionService := ConversionService.standard

namespace Loader

/-- The value of a plain leaf. -/
def leafValue : RecordValue → Value
  | .single raw => .text raw
  | .multi raws => .list (raws.map Value.text)

/-- The segment a leaf is bound under. -/
def lastSegment (name : Name) : Except NamingError String :=
  match name.last? with
  | some last => .ok last
  | none => .error (.invalidPath "cannot bind an empty key")

/-- Binds a plain leaf under its path. -/
def bindLeaf (target : NodeId) (name : Name) (value : RecordValue) : TreeM Unit := do
  let last ← TreeM.ask fun _ => lastSegment name
  let parent ← TreeM.ensureSubnode target (.segments name.parent)
  TreeM.change (·.bind parent (.segments ⟨[last]⟩) (.value (leafValue value)))

/-- Converts a typed entry and binds it under its path. -/
def bindDescriptor (loader : Loader) (target : NodeId) (d : TypeDescriptor) : TreeM Unit := do
  let last ← TreeM.ask fun _ => lastSegment d.path
  let value ← TreeM.ask fun _ => loader.conversion.convert d
  let parent ← TreeM.ensureSubnode target (.segments d.path.parent)
  TreeM.change (·.bind parent (.segments ⟨[last]⟩) (.value value))

/-- Converts a whole-set descriptor and binds it in place of the target. -/
def replaceNamespace (loader : Loader) (held : List NodeId) (d : TypeDescriptor) (target : NodeId) :
    TreeM Unit := do
  let forest ← get
  let parent ← match forest.parent? (target :: held) target with
    | some p => pure p
    | none => throw (.invalidPath ("cannot replace the root with a '" ++ d.typeName ++ "' value"))
  let value ← TreeM.ask fun _ => loader.conversion.convert d
  TreeM.change (·.rebind parent (.segments ⟨[(forest.get target).localName]⟩) (.value value))

/-- Runs a step and gives its failure instead of failing. -/
def attempt (step : TreeM Unit) : TreeM (Option NamingError) :=
  tryCatch (do step; pure none) fun e => pure (some e)

/-- Loads records into a node; `held` are the nodes held from outside the forest. -/
def load (loader : Loader) (held : List NodeId) (records : Records) (target : NodeId) : TreeM Unit := do
  let sorted := classify records ((← get).delimiter target)
  match sorted.whole with
  | some d => loader.replaceNamespace held d target
  | none =>
    let leafFailures ← sorted.leaves.mapM fun (name, value) => attempt (bindLeaf target name value)
    let typedFailures ← sorted.descriptors.mapM fun d => attempt (loader.bindDescriptor target d)
    match (leafFailures ++ typedFailures).filterMap id with
    | first :: _ => throw first
    | [] => pure ()

/-- Reads a source and loads it into a node, or into the node its namespace names. -/
def loadSource (loader : Loader) (held : List NodeId) (source : TextSource) (target : NodeId) :
    TreeM Unit := do
  let records ← TreeM.ask fun forest => source.records (forest.delimiter target)
  let node ← match source.scope with
    | some scope => if scope.isEmpty then pure target else TreeM.ensureSubnode target (.key scope)
    | none => pure target
  loader.load (target :: held) records node

end Loader

end NamingDirectory
