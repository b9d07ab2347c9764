import Mathlib
import NamingDirectory.Session.Workspace
import NamingDirectory.Proofs.Tree.ClosedNode
import NamingDirectory.Proofs.Tree.Teardown

/-!
What each step of a session can change: all but the opening, closing and destroying steps only
grow the forest (`Forest.Grows`) and keep handles and registries.
-/

namespace NamingDirectory

namespace Forest

/-- The forest only grew: nodes were added, and none was closed, reopened or given another parent. -/
structure Grows (forest after : Forest) : Prop where
  size_le : forest.nodes.size ≤ after.nodes.size
  parent : ∀ m < forest.nodes.size, (after.get m).parent = (forest.get m).parent
  closed : ∀ m, (after.get m).closed = (forest.get m).closed

namespace Grows

theorem refl (forest : Forest) : forest.Grows forest := ⟨le_rfl, fun _ _ => rfl, fun _ => rfl⟩

theorem trans {first second third : Forest} (one : first.Grows second)
    (two : second.Grows third) : first.Grows third :=
  ⟨one.size_le.trans two.size_le,
    fun m old => (two.parent m (lt_of_lt_of_le old one.size_le)).trans (one.parent m old),
    fun m => (two.closed m).trans (one.closed m)⟩

/-- Changing a node grows the forest when the change keeps its parent and its closed flag. -/
theorem update (forest : Forest) (id : NodeId) {change : Node → Node}
    (parent : ∀ node, (change node).parent = node.parent)
    (closed : ∀ node, (change node).closed = node.closed) :
    forest.Grows (forest.update id change) := by
  refine ⟨by simp, fun m _ => ?_, fun m => ?_⟩
  · rw [get_update]
    split
    · exact parent _
    · rfl
  · rw [get_update]
    split
    · exact closed _
    · rfl

theorem setBinding (forest : Forest) (id : NodeId) (segment : String) (bound : Bound) :
    forest.Grows (forest.setBinding id segment bound) :=
  update forest id (fun _ => rfl) (fun _ => rfl)

theorem eraseBinding (forest : Forest) (id : NodeId) (segment : String) :
    forest.Grows (forest.eraseBinding id segment) :=
  update forest id (fun _ => rfl) (fun _ => rfl)

/-- A new node is added open; the nodes there were are kept. -/
theorem addChild (forest : Forest) (owner : NodeId) (segment : String) :
    forest.Grows (forest.addChild owner segment).2 := by
  refine ⟨by simp, fun m old => by rw [get_addChild_of_lt _ _ _ old], fun m => ?_⟩
  rw [get_addChild]
  split
  · rename_i fresh
    rw [fresh, get_of_size_le _ le_rfl]
    rfl
  · rfl

theorem grow (forest : Forest) (owner : NodeId) (segment : String) :
    forest.Grows (forest.grow owner segment) :=
  (addChild forest owner segment).trans (setBinding _ _ _ _)

end Grows

/-- A new root is the last node, open and made under no node. -/
theorem get_addRoot (forest : Forest) (config : NodeConfig) (n : NodeId) :
    (forest.addRoot config).2.get n = if n = forest.nodes.size then { config := config }
      else forest.get n := by
  simp only [get, addRoot, Array.getElem?_push]
  split <;> simp

@[simp] theorem size_addRoot (forest : Forest) (config : NodeConfig) :
    (forest.addRoot config).2.nodes.size = forest.nodes.size + 1 := by
  simp [addRoot]

theorem Grows.addRoot (forest : Forest) (config : NodeConfig) :
    forest.Grows (forest.addRoot config).2 := by
  refine ⟨by simp, fun m old => ?_, fun m => ?_⟩
  · rw [get_addRoot, if_neg (Nat.ne_of_lt old)]
  · rw [get_addRoot]
    split
    · rename_i fresh
      rw [fresh, get_of_size_le _ le_rfl]
      rfl
    · rfl

section Edits

variable {forest after : Forest} {start : NodeId} {path : PathArg}

/-- Whatever a successful change after `openOwner` does, if every outcome grows the forest. -/
theorem grows_of_openOwner_bind {operation : String}
    {f : NodeId × String → Except NamingError Forest}
    (grows : ∀ owner last after, f (owner, last) = .ok after → forest.Grows after)
    (ok : (forest.openOwner start path operation >>= f) = .ok after) : forest.Grows after := by
  cases opened : forest.openOwner start path operation with
  | error e => simp [opened, Bind.bind, Except.bind] at ok
  | ok pair =>
      simp only [opened, Bind.bind, Except.bind] at ok
      exact grows pair.1 pair.2 after ok

theorem grows_of_bind {bound : Bound} (ok : forest.bind start path bound = .ok after) :
    forest.Grows after := by
  refine grows_of_openOwner_bind (fun owner last after made => ?_) ok
  dsimp only at made
  split at made
  · cases made
  · cases made
    exact Grows.setBinding _ _ _ _

theorem grows_of_rebind {bound : Bound} (ok : forest.rebind start path bound = .ok after) :
    forest.Grows after := by
  refine grows_of_openOwner_bind (fun owner last after made => ?_) ok
  cases made
  exact Grows.setBinding _ _ _ _

theorem grows_of_unbind (ok : forest.unbind start path = .ok after) : forest.Grows after := by
  refine grows_of_openOwner_bind (fun owner last after made => ?_) ok
  dsimp only at made
  split at made
  · cases made
    exact Grows.eraseBinding _ _ _
  · cases made

theorem grows_of_createSubnode {child : NodeId}
    (ok : forest.createSubnode start path = .ok (child, after)) : forest.Grows after := by
  unfold createSubnode at ok
  cases opened : forest.openOwner start path "create" with
  | error e => simp [opened, Bind.bind, Except.bind] at ok
  | ok pair =>
      simp only [opened, Bind.bind, Except.bind] at ok
      split at ok
      · cases ok
      · cases ok
        exact (Grows.addChild _ _ _).trans (Grows.setBinding _ _ _ _)

theorem grows_of_setName {id : NodeId} {name : String} (ok : forest.setName id name = .ok after) :
    forest.Grows after := by
  unfold setName at ok
  split at ok
  · cases ok
  · cases ok
    exact Grows.update _ _ (fun _ => rfl) (fun _ => rfl)

end Edits

end Forest

namespace TreeM

variable {α β : Type}

/-- A tree operation only grows the forest, whether it succeeds or fails. -/
def Grows (x : TreeM α) : Prop := ∀ forest : Forest, forest.Grows (x.exec forest).2

namespace Grows

protected theorem pure (a : α) : (pure a : TreeM α).Grows := fun forest => .refl forest

protected theorem throw (e : NamingError) : (throw e : TreeM α).Grows := fun forest => .refl forest

protected theorem get : (get : TreeM Forest).Grows := fun forest => .refl forest

/-- A sequence grows the forest when its first step does and, whatever it gives, the rest does. -/
protected theorem bind {x : TreeM α} {f : α → TreeM β} (first : x.Grows)
    (rest : ∀ a, (f a).Grows) : (x >>= f).Grows := by
  intro forest
  have grown := first forest
  rw [exec_bind]
  rcases outcome : x.exec forest with ⟨_ | a, after⟩
  all_goals rw [outcome] at grown
  · exact grown
  · exact grown.trans (rest a after)

protected theorem change {f : Forest → Except NamingError Forest}
    (grows : ∀ forest after, f forest = .ok after → forest.Grows after) :
    (TreeM.change f).Grows := by
  intro forest
  rw [exec_change]
  cases changed : f forest with
  | error e => exact .refl forest
  | ok after => exact grows forest after changed

protected theorem make {f : Forest → Except NamingError (α × Forest)}
    (grows : ∀ forest a after, f forest = .ok (a, after) → forest.Grows after) :
    (TreeM.make f).Grows := by
  intro forest
  rw [exec_make]
  cases made : f forest with
  | error e => exact .refl forest
  | ok pair => exact grows forest pair.1 pair.2 made

protected theorem ask (f : Forest → Except NamingError α) : (TreeM.ask f).Grows := by
  intro forest
  rw [exec_ask_snd]
  exact .refl forest

protected theorem attempt {step : TreeM Unit} (grows : step.Grows) : (Loader.attempt step).Grows := by
  intro forest
  rw [exec_attempt]
  exact grows forest

protected theorem mapM {xs : List β} {f : β → TreeM α} (each : ∀ b ∈ xs, (f b).Grows) :
    (xs.mapM f).Grows := by
  induction xs with
  | nil => exact .pure _
  | cons b rest ih =>
      rw [List.mapM_cons]
      refine .bind (each b List.mem_cons_self) fun a => .bind (ih fun b' mem => ?_) fun _ => .pure _
      exact each b' (List.mem_cons_of_mem _ mem)

/-- Making the missing nodes of a path adds nodes and binds them, and nothing else. -/
theorem ensureSegments (start : NodeId) (path : List String) :
    (TreeM.ensureSegments start path).Grows := by
  induction path generalizing start with
  | nil => exact .pure _
  | cons segment rest ih =>
      intro forest
      cases closed : (forest.get start).closed
      case true =>
        rw [exec_ensureSegments_closed forest segment rest closed]
        exact .refl forest
      rw [exec_ensureSegments_cons forest segment rest closed]
      split
      · exact ih _ forest
      · exact .refl forest
      · exact (Forest.Grows.grow forest start segment).trans (ih _ _)

theorem ensureSubnode (start : NodeId) (path : PathArg) : (TreeM.ensureSubnode start path).Grows := by
  intro forest
  rw [exec_ensureSubnode]
  exact ensureSegments _ _ forest

/-- A rename unbinds and binds, whether it ends in success or not. -/
theorem rename (start : NodeId) (old new : PathArg) : (TreeM.rename start old new).Grows := by
  intro forest
  rw [exec_rename]
  split
  · exact .refl forest
  split
  · exact .refl forest
  split
  · exact .refl forest
  split
  · exact .refl forest
  rename_i unbound
  split
  · rename_i moved
    exact (Forest.grows_of_unbind unbound).trans (Forest.grows_of_bind moved)
  · exact Forest.grows_of_unbind unbound

theorem bindLeaf (target : NodeId) (name : Name) (value : RecordValue) :
    (Loader.bindLeaf target name value).Grows := by
  unfold Loader.bindLeaf
  exact .bind (.ask _) fun _ => .bind (ensureSubnode _ _) fun _ =>
    .change fun _ _ => Forest.grows_of_bind

theorem bindDescriptor (loader : Loader) (target : NodeId) (d : TypeDescriptor) :
    (loader.bindDescriptor target d).Grows := by
  unfold Loader.bindDescriptor
  exact .bind (.ask _) fun _ => .bind (.ask _) fun _ => .bind (ensureSubnode _ _) fun _ =>
    .change fun _ _ => Forest.grows_of_bind

theorem replaceNamespace (loader : Loader) (held : List NodeId) (d : TypeDescriptor)
    (target : NodeId) : (loader.replaceNamespace held d target).Grows := by
  unfold Loader.replaceNamespace
  refine .bind .get fun forest => ?_
  have rebinds : ∀ parent, (do
      let value ← TreeM.ask fun _ => loader.conversion.convert d
      TreeM.change (·.rebind parent (.segments ⟨[(forest.get target).localName]⟩) (.value value))
      : TreeM Unit).Grows :=
    fun _ => .bind (.ask _) fun _ => .change fun _ _ => Forest.grows_of_rebind
  dsimp only
  split
  · exact .bind (.pure _) rebinds
  · exact .bind (.throw _) rebinds

/-- A load binds and makes nodes, or rebinds the target in its parent; it closes no node. -/
theorem load (loader : Loader) (held : List NodeId) (records : Records) (target : NodeId) :
    (loader.load held records target).Grows := by
  unfold Loader.load
  refine .bind .get fun forest => ?_
  dsimp only
  split
  · exact replaceNamespace _ _ _ _
  · refine .bind (.mapM fun _ _ => .attempt (bindLeaf _ _ _)) fun _ =>
      .bind (.mapM fun _ _ => .attempt (bindDescriptor _ _ _)) fun _ => ?_
    split
    · exact .throw _
    · exact .pure _

theorem loadSource (loader : Loader) (held : List NodeId) (source : TextSource) (target : NodeId) :
    (loader.loadSource held source target).Grows := by
  unfold Loader.loadSource
  refine .bind (.ask _) fun records => ?_
  have loads : ∀ node, (loader.load (target :: held) records node).Grows := fun _ => load _ _ _ _
  dsimp only
  split
  · split
    · exact .bind (.pure _) loads
    · exact .bind (ensureSubnode _ _) loads
  · exact .bind (.pure _) loads

theorem loadSources (loader : Loader) (held : List NodeId) (root : NodeId)
    (sources : List TextSource) : (ContextBuilder.loadSources loader held root sources).Grows := by
  unfold ContextBuilder.loadSources
  refine .bind (.mapM fun _ _ => .attempt (loadSource _ _ _ _)) fun _ => ?_
  split
  · exact .throw _
  · exact .pure _

end Grows

end TreeM

namespace DirectoryM

variable {α : Type}

/-- How an operation on a directory runs: its outcome and the directory after it. -/
def exec (x : DirectoryM α) (d : Directory) : Except NamingError α × Directory := (x.run.run d).run

@[simp] theorem exec_get_bind {β : Type} (f : Directory → DirectoryM β) (d : Directory) :
    (get >>= f).exec d = (f d).exec d := rfl

/-- An operation on the forest changes the directory's forest alone. -/
theorem exec_onForest (t : TreeM α) (d : Directory) :
    (DirectoryM.onForest t).exec d = ((t.exec d.forest).1, { d with forest := (t.exec d.forest).2 }) := by
  rw [DirectoryM.onForest, exec_get_bind]
  unfold exec TreeM.exec
  rcases (t.run.run d.forest).run with ⟨_ | a, forest⟩ <;> rfl

end DirectoryM

namespace SessionM

variable {α β : Type}

/-- How a session step runs on a workspace: its outcome and the workspace after it. -/
def exec (x : SessionM α) (ws : Workspace) : Except StepFailure α × Workspace := (x.run.run ws).run

@[simp] theorem exec_pure (a : α) (ws : Workspace) : (pure a : SessionM α).exec ws = (.ok a, ws) :=
  rfl

@[simp] theorem exec_throw (e : StepFailure) (ws : Workspace) :
    (throw e : SessionM α).exec ws = (.error e, ws) := rfl

@[simp] theorem exec_get_bind (f : Workspace → SessionM α) (ws : Workspace) :
    (get >>= f).exec ws = (f ws).exec ws := rfl

@[simp] theorem exec_set_bind (next : Workspace) (f : PUnit → SessionM α) (ws : Workspace) :
    (set next >>= f).exec ws = (f ⟨⟩).exec next := rfl

@[simp] theorem exec_modify (change : Workspace → Workspace) (ws : Workspace) :
    (modify change : SessionM PUnit).exec ws = (.ok ⟨⟩, change ws) := rfl

/-- A step runs on the workspace its predecessor left, and a failure skips it. -/
theorem exec_bind (x : SessionM α) (f : α → SessionM β) (ws : Workspace) :
    (x >>= f).exec ws = match x.exec ws with
      | (.ok a, after) => (f a).exec after
      | (.error e, after) => (.error e, after) := by
  simp only [exec, ExceptT.run_bind, StateT.run_bind]
  generalize StateT.run (ExceptT.run x) ws = outcome
  rcases outcome with ⟨_ | a, after⟩ <;> rfl

/-- An operation on the directory changes the workspace's directory alone. -/
theorem exec_onDirectory (step : DirectoryM α) (ws : Workspace) :
    (onDirectory step).exec ws =
      ((step.exec ws.directory).1.mapError .naming, { ws with directory := (step.exec ws.directory).2 }) := by
  rw [onDirectory, exec_get_bind]
  unfold exec DirectoryM.exec
  rcases (step.run.run ws.directory).run with ⟨_ | a, d⟩ <;> rfl

theorem exec_onForest (t : TreeM α) (ws : Workspace) :
    (onForest t).exec ws = ((t.exec ws.directory.forest).1.mapError .naming,
      { ws with directory := { ws.directory with forest := (t.exec ws.directory.forest).2 } }) := by
  rw [onForest, exec_onDirectory, DirectoryM.exec_onForest]

end SessionM

namespace Workspace

/-- The workspace only grew: its forest grew, and its handles and registries are as they were. -/
structure Grows (ws after : Workspace) : Prop where
  forest : ws.directory.forest.Grows after.directory.forest
  registries : after.directory.registries = ws.directory.registries
  handles : after.handles = ws.handles
  registry : after.registry = ws.registry

theorem Grows.refl (ws : Workspace) : ws.Grows ws := ⟨.refl _, rfl, rfl, rfl⟩

theorem Grows.trans {first second third : Workspace} (one : first.Grows second)
    (two : second.Grows third) : first.Grows third :=
  ⟨one.forest.trans two.forest, two.registries.trans one.registries,
    two.handles.trans one.handles, two.registry.trans one.registry⟩

end Workspace

namespace SessionM

variable {α β : Type}

/-- A session operation that only reads: it leaves the workspace as it was, failing or not. -/
def Reads (x : SessionM α) : Prop := ∀ ws, (x.exec ws).2 = ws

/-- A session operation that only grows the workspace, failing or not. -/
def Grows (x : SessionM α) : Prop := ∀ ws : Workspace, ws.Grows (x.exec ws).2

namespace Reads

protected theorem pure (a : α) : (pure a : SessionM α).Reads := fun _ => rfl

protected theorem throw (e : StepFailure) : (throw e : SessionM α).Reads := fun _ => rfl

protected theorem get : (get : SessionM Workspace).Reads := fun _ => rfl

protected theorem bind {x : SessionM α} {f : α → SessionM β} (first : x.Reads)
    (rest : ∀ a, (f a).Reads) : (x >>= f).Reads := by
  intro ws
  have same := first ws
  rw [exec_bind]
  rcases outcome : x.exec ws with ⟨_ | a, after⟩
  all_goals rw [outcome] at same
  · exact same
  · rw [rest a after, ← same]

theorem grows {x : SessionM α} (reads : x.Reads) : x.Grows := fun ws => by
  rw [reads ws]
  exact .refl ws

protected theorem mapM {xs : List β} {f : β → SessionM α} (each : ∀ b ∈ xs, (f b).Reads) :
    (xs.mapM f).Reads := by
  induction xs with
  | nil => exact .pure _
  | cons b rest ih =>
      rw [List.mapM_cons]
      refine .bind (each b List.mem_cons_self) fun a => .bind (ih fun b' mem => ?_) fun _ => .pure _
      exact each b' (List.mem_cons_of_mem _ mem)

theorem ofExcept (r : Except NamingError α) : (ofExcept r).Reads := by
  cases r
  · exact .throw _
  · exact .pure _

theorem forest : SessionM.forest.Reads := .bind .get fun _ => .pure _

theorem context (name : String) : (context name).Reads := by
  refine .bind .get fun _ => ?_
  split
  · exact .pure _
  · exact .throw _

theorem keptNode (name : String) : (keptNode name).Reads := by
  refine .bind .get fun _ => ?_
  split
  · exact .pure _
  · exact .throw _

theorem node (target : Target) : (node target).Reads := by
  cases target
  · exact .bind (context _) fun _ => .pure _
  · exact keptNode _

theorem operand (operand : Operand) : (SessionM.operand operand).Reads := by
  cases operand
  · exact .pure _
  · exact .bind (keptNode _) fun _ => .pure _

theorem loader : SessionM.loader.Reads := .bind .get fun _ => .pure _

theorem lookup (target : Target) (path : PathArg) : (lookup target path).Reads :=
  .bind (node _) fun _ => .bind forest fun _ => ofExcept _

theorem nodeReply (id : NodeId) : (nodeReply id).Reads := .bind forest fun _ => .pure _

end Reads

namespace Grows

protected theorem bind {x : SessionM α} {f : α → SessionM β} (first : x.Grows)
    (rest : ∀ a, (f a).Grows) : (x >>= f).Grows := by
  intro ws
  have grown := first ws
  rw [exec_bind]
  rcases outcome : x.exec ws with ⟨_ | a, after⟩
  all_goals rw [outcome] at grown
  · exact grown
  · exact grown.trans (rest a after)

/-- A tree operation that only grows the forest, run on the directory's forest. -/
theorem onForest {t : TreeM α} (grows : t.Grows) : (onForest t).Grows := by
  intro ws
  rw [exec_onForest]
  exact ⟨grows _, rfl, rfl, rfl⟩

end Grows

end SessionM

namespace Step

/-- Whether a step works on the forest alone: all but open, close, destroy and registry removal. -/
def isOrdinary : Step → Bool
  | .openHandle .. | .destroySubnode .. | .close _ | .registryRemove .. => false
  | _ => true

end Step

namespace SessionM

/-- A step that works on the forest alone only grows the workspace, failing or not. -/
theorem Grows.step {s : Step} (ordinary : s.isOrdinary = true) : (SessionM.step s).Grows := by
  cases s with
  | openHandle | destroySubnode | close | registryRemove => cases ordinary
  | lookup target path =>
      exact (Reads.bind (.lookup _ _) fun _ => .bind .forest fun _ => .pure _).grows
  | lookupValue target path =>
      exact (Reads.bind (.node _) fun _ => .bind .forest fun _ =>
        .bind (.ofExcept _) fun _ => .pure _).grows
  | bind target path operand =>
      exact .bind (Reads.node _).grows fun _ => .bind (Reads.operand _).grows fun _ =>
        .bind (.onForest (.change fun _ _ => Forest.grows_of_bind)) fun _ => (Reads.pure _).grows
  | rebind target path operand =>
      exact .bind (Reads.node _).grows fun _ => .bind (Reads.operand _).grows fun _ =>
        .bind (.onForest (.change fun _ _ => Forest.grows_of_rebind)) fun _ => (Reads.pure _).grows
  | inspect target path =>
      exact (Reads.bind (.lookup _ _) fun _ => .bind .forest fun _ => .pure _).grows
  | equal target path other otherPath =>
      exact (Reads.bind (.lookup _ _) fun _ => .bind (.lookup _ _) fun _ => .pure _).grows
  | debug target =>
      cases target
      · exact (Reads.bind (.context _) fun _ => .bind .forest fun _ => .pure _).grows
      · exact (Reads.bind .forest fun _ => .bind (.keptNode _) fun _ => .pure _).grows
  | config target =>
      cases target
      · exact (Reads.bind (.context _) fun _ => .pure _).grows
      · exact (Reads.throw _).grows
  | unbind target path =>
      exact .bind (Reads.node _).grows fun _ =>
        .bind (.onForest (.change fun _ _ => Forest.grows_of_unbind)) fun _ => (Reads.pure _).grows
  | rename target old new =>
      exact .bind (Reads.node _).grows fun _ =>
        .bind (.onForest (TreeM.Grows.rename _ _ _)) fun _ => (Reads.pure _).grows
  | list target path | listBindings target path | dump target =>
      exact (Reads.bind (.node _) fun _ => .bind .forest fun _ =>
        .bind (.ofExcept _) fun _ => .pure _).grows
  | createSubnode target path =>
      exact .bind (Reads.node _).grows fun _ =>
        .bind (.onForest (.make fun _ _ _ => Forest.grows_of_createSubnode)) fun _ =>
          (Reads.nodeReply _).grows
  | ensureSubnode target path =>
      exact .bind (Reads.node _).grows fun _ =>
        .bind (.onForest (TreeM.Grows.ensureSubnode _ _)) fun _ => (Reads.nodeReply _).grows
  | info target =>
      cases target
      · exact (Reads.bind (.context _) fun _ => .bind .forest fun _ => .pure _).grows
      · exact (Reads.bind (.keptNode _) fun _ => .bind .forest fun _ =>
          .bind .get fun _ => .pure _).grows
  | setName target name =>
      exact .bind (Reads.node _).grows fun _ =>
        .bind (.onForest (.change fun _ _ => Forest.grows_of_setName)) fun _ => (Reads.pure _).grows
  | root target =>
      cases target
      · exact (Reads.bind (.context _) fun _ => .nodeReply _).grows
      · exact (Reads.throw _).grows
  | parent target =>
      refine (Reads.bind (.node _) fun _ => .bind .forest fun _ => .bind .get fun _ => ?_).grows
      split
      · exact .nodeReply _
      · exact .pure _
  | load target records =>
      refine .bind Reads.get.grows fun ws => ?_
      dsimp only
      cases target
      · exact .bind (Reads.context _).grows fun _ =>
          .bind (.onForest (.load _ _ _ _)) fun _ => (Reads.pure _).grows
      · exact .bind Reads.loader.grows fun _ => .bind (Reads.keptNode _).grows fun _ =>
          .bind (.onForest (.load _ _ _ _)) fun _ => (Reads.pure _).grows
  | loadInto target records path =>
      simp only [SessionM.step]
      cases target
      · exact .bind (Reads.context _).grows fun _ => .bind Reads.get.grows fun _ =>
          .bind (.onForest (.bind (.ensureSubnode _ _) fun _ => .load _ _ _ _)) fun _ =>
            (Reads.pure _).grows
      · exact .bind (Reads.throw _).grows fun _ => (Reads.pure _).grows
  | loadText target format content =>
      simp only [SessionM.step]
      cases target
      · exact .bind (Reads.context _).grows fun _ => .bind Reads.get.grows fun _ =>
          .bind (.onForest (.loadSource _ _ _ _)) fun _ => (Reads.pure _).grows
      · exact .bind (Reads.throw _).grows fun _ => (Reads.pure _).grows
  | loadSource target source =>
      refine .bind Reads.get.grows fun ws => ?_
      dsimp only
      cases target
      · exact .bind (Reads.context _).grows fun _ => .bind (Reads.ofExcept _).grows fun _ =>
          .bind (.onForest (.loadSource _ _ _ _)) fun _ => (Reads.pure _).grows
      · exact .bind (Reads.keptNode _).grows fun _ => .bind Reads.loader.grows fun _ =>
          .bind (Reads.ofExcept _).grows fun _ =>
            .bind (.onForest (.loadSource _ _ _ _)) fun _ => (Reads.pure _).grows
  | registryIsEmpty processWide | registryContains processWide rootId
  | registryLen processWide =>
      exact (Reads.bind .get fun _ => .pure _).grows
  | registryGet processWide rootId =>
      refine (Reads.bind .get fun _ => ?_).grows
      split
      · exact .nodeReply _
      · exact .pure _
  | same a b =>
      exact (Reads.bind (.node _) fun _ => .bind (.node _) fun _ => .pure _).grows

end SessionM

end NamingDirectory
