import NamingDirectory.Context.Basic

/-!
The steps of a session, on named handles or kept nodes, and their replies.
-/

namespace NamingDirectory

/-- Where a step acts: a handle by name, or a node kept under a name. -/
inductive Target where
  | handle (name : String)
  | node (name : String)
  deriving Inhabited

/-- What a binding step binds: a value, or a kept node. -/
inductive Operand where
  | value (v : Value)
  | node (name : String)
  deriving Inhabited

/-- One step of a session. -/
inductive Step where
  /-- Opens a handle; a plain one takes the standard conversions and no sources. -/
  | openHandle (handle : String) (config : NamingConfig)
      (sources : List (Except NamingError TextSource)) (plain : Bool)
  | lookup (target : Target) (path : PathArg)
  | lookupValue (target : Target) (path : PathArg)
  | bind (target : Target) (path : PathArg) (operand : Operand)
  | rebind (target : Target) (path : PathArg) (operand : Operand)
  | inspect (target : Target) (path : PathArg)
  | equal (target : Target) (path : PathArg) (other : Target) (otherPath : PathArg)
  | debug (target : Target)
  | config (target : Target)
  | unbind (target : Target) (path : PathArg)
  | rename (target : Target) (old new : PathArg)
  | list (target : Target) (path : PathArg)
  | listBindings (target : Target) (path : PathArg)
  | createSubnode (target : Target) (path : PathArg)
  | ensureSubnode (target : Target) (path : PathArg)
  | destroySubnode (target : Target) (path : PathArg)
  | close (target : Target)
  | dump (target : Target)
  | info (target : Target)
  | setName (target : Target) (name : String)
  | root (target : Target)
  | parent (target : Target)
  | load (target : Target) (records : Records)
  | loadInto (target : Target) (records : Records) (path : PathArg)
  | loadText (target : Target) (format : RecordFormat) (content : String)
  | loadSource (target : Target) (source : Except NamingError TextSource)
  /-- Whether a registry is empty; `processWide` picks the process-wide one over the session's. -/
  | registryIsEmpty (processWide : Bool)
  | registryContains (processWide : Bool) (rootId : String)
  | registryLen (processWide : Bool)
  | registryRemove (processWide : Bool) (rootId : String)
  | registryGet (processWide : Bool) (rootId : String)
  | same (a b : Target)
  deriving Inhabited

/-- A step, and the name to keep the node of its reply under. -/
structure Request where
  step : Step
  keep : Option String := none
  deriving Inhabited

/-- A binding as a reply shows it: a value, or a node by name. -/
inductive Shown where
  | value (v : Value)
  | node (name : String)
  deriving Inhabited

/-- A binding looked at closely. -/
structure Inspection where
  shown : Shown
  debug : String
  /-- Whether the binding equals itself; a value holding NaN does not. -/
  equalsSelf : Bool
  deriving Inhabited

/-- The reply of a step. -/
inductive Reply where
  | done
  | opened (shared : Bool) (rootId : String)
  | bound (shown : Shown)
  | value (v : Value)
  | names (keys : List String)
  | bindings (entries : List (String × Shown))
  | node (name : String)
  | maybeNode (name : Option String)
  | flag (b : Bool)
  | count (n : Nat)
  | text (s : String)
  | config (c : NamingConfig)
  | inspection (i : Inspection)
  | listing (entries : List (String × Entry))
  | contextInfo (i : ContextInfo)
  | nodeInfo (i : NodeInfo)
  deriving Inhabited

/-- Why a step failed: the directory refused it, or the step names what the session lacks. -/
inductive StepFailure where
  | naming (e : NamingError)
  | unknownHandle (name : String)
  | unknownNode (name : String)
  | handleOnly (step : String)
  deriving Inhabited

/-- The text of a failure that the session, not the directory, reports. -/
def StepFailure.message : StepFailure → String
  | .naming e => (e.message?).getD e.kind
  | .unknownHandle name => "no handle '" ++ name ++ "'"
  | .unknownNode name => "no node '" ++ name ++ "'"
  | .handleOnly step => step ++ " needs a handle"

/-- How a binding shows. -/
def Forest.shown (forest : Forest) : Bound → Shown
  | .value v => .value v
  | .node id => .node (forest.name id)

end NamingDirectory
