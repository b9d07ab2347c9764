import Mathlib
import NamingDirectory.Proofs.Session.Frame

/-!
The steps that open, close and destroy, each as an equation or as the list of what it can do.
-/

namespace NamingDirectory

namespace DirectoryM

variable {α β : Type}

@[simp] theorem exec_pure (a : α) (d : Directory) : (pure a : DirectoryM α).exec d = (.ok a, d) := rfl

@[simp] theorem exec_throw (e : NamingError) (d : Directory) :
    (throw e : DirectoryM α).exec d = (.error e, d) := rfl

@[simp] theorem exec_modify_bind (change : Directory → Directory) (f : PUnit → DirectoryM α)
    (d : Directory) : (modify change >>= f).exec d = (f ⟨⟩).exec (change d) := rfl

theorem exec_bind (x : DirectoryM α) (f : α → DirectoryM β) (d : Directory) :
    (x >>= f).exec d = match x.exec d with
      | (.ok a, after) => (f a).exec after
      | (.error e, after) => (.error e, after) := by
  simp only [exec, ExceptT.run_bind, StateT.run_bind]
  generalize StateT.run (ExceptT.run x) d = outcome
  rcases outcome with ⟨_ | a, after⟩ <;> rfl

end DirectoryM

/-- The second forest is the first grown by a new root past its nodes, made under no node. -/
structure Forest.NewRoot (forest after : Forest) : Prop where
  grows : forest.Grows after
  lt : forest.nodes.size < after.nodes.size
  parentless : (after.get forest.nodes.size).parent = none

namespace ContextBuilder

/-- The tree operation that makes a new root for a handle and loads the sources into it. -/
def makeRoot (b : ContextBuilder) (held : List NodeId) (delimiter : Delimiter) : TreeM NodeId := do
  let root ← TreeM.make fun forest => .ok (forest.addRoot ⟨delimiter, b.config.ignoreClose⟩)
  loadSources ⟨b.conversion⟩ (root :: held) root b.sources
  pure root

/-- A new root is the next node; the sources load into it whether they fail or not. -/
theorem exec_makeRoot (b : ContextBuilder) (held : List NodeId) (delimiter : Delimiter)
    (forest : Forest) :
    (b.makeRoot held delimiter).exec forest =
      match (loadSources ⟨b.conversion⟩ (forest.nodes.size :: held) forest.nodes.size
          b.sources).exec (forest.addRoot ⟨delimiter, b.config.ignoreClose⟩).2 with
      | (.ok _, after) => (.ok forest.nodes.size, after)
      | (.error e, after) => (.error e, after) := by
  rw [makeRoot, TreeM.exec_bind, TreeM.exec_make]
  simp only [Forest.addRoot]
  rw [TreeM.exec_bind]
  rcases (loadSources ⟨b.conversion⟩ (forest.nodes.size :: held) forest.nodes.size
    b.sources).exec ⟨forest.nodes.push { config := ⟨delimiter, b.config.ignoreClose⟩ }⟩ with
    ⟨_ | _, after⟩ <;> rfl

/-- Building a handle hands out the root published under a shared id, or makes and loads a new one. -/
theorem exec_build (b : ContextBuilder) (held : List NodeId) (d : Directory) :
    (b.build held).exec d =
      match b.config.compileDelimiter with
      | .error e => (.error e, d)
      | .ok delimiter =>
        if b.config.shared then
          match (d.registry (b.registry.getD Directory.processWide)).get? b.config.root with
          | some root =>
            (.ok ⟨root, b.config, some (b.registry.getD Directory.processWide), ⟨b.conversion⟩,
              false⟩, d)
          | none =>
            match (b.makeRoot held delimiter).exec d.forest with
            | (.ok root, forest) =>
              (.ok ⟨root, b.config, some (b.registry.getD Directory.processWide), ⟨b.conversion⟩,
                false⟩, { d with forest }.updateRegistry (b.registry.getD Directory.processWide)
                  (·.publish b.config.root root))
            | (.error e, forest) => (.error e, { d with forest })
        else
          match (b.makeRoot held delimiter).exec d.forest with
          | (.ok root, forest) => (.ok ⟨root, b.config, none, ⟨b.conversion⟩, false⟩, { d with forest })
          | (.error e, forest) => (.error e, { d with forest }) := by
  unfold build
  dsimp only
  cases b.config.compileDelimiter with
  | error e => rfl
  | ok delimiter =>
    simp only [pure_bind]
    split
    · rw [DirectoryM.exec_get_bind]
      cases (d.registry (b.registry.getD Directory.processWide)).get? b.config.root with
      | some root => rfl
      | none =>
        rw [DirectoryM.exec_bind, DirectoryM.exec_onForest, ← makeRoot]
        rcases (b.makeRoot held delimiter).exec d.forest with ⟨_ | root, forest⟩ <;> rfl
    · rw [DirectoryM.exec_bind, DirectoryM.exec_onForest, ← makeRoot]
      rcases (b.makeRoot held delimiter).exec d.forest with ⟨_ | root, forest⟩ <;> rfl

/-- Making a root grows the forest by a new parentless root and what loading it makes. -/
theorem makeRoot_new (b : ContextBuilder) (held : List NodeId) (delimiter : Delimiter)
    (forest : Forest) : forest.NewRoot ((b.makeRoot held delimiter).exec forest).2 := by
  have added := Forest.Grows.addRoot forest ⟨delimiter, b.config.ignoreClose⟩
  have loaded := TreeM.Grows.loadSources ⟨b.conversion⟩ (forest.nodes.size :: held)
    forest.nodes.size b.sources (forest.addRoot ⟨delimiter, b.config.ignoreClose⟩).2
  have fresh : forest.nodes.size < (forest.addRoot ⟨delimiter, b.config.ignoreClose⟩).2.nodes.size := by
    simp
  have parentless :
      ((forest.addRoot ⟨delimiter, b.config.ignoreClose⟩).2.get forest.nodes.size).parent = none := by
    simp [Forest.get_addRoot]
  rw [exec_makeRoot]
  generalize (loadSources ⟨b.conversion⟩ (forest.nodes.size :: held) forest.nodes.size
    b.sources).exec (forest.addRoot ⟨delimiter, b.config.ignoreClose⟩).2 = outcome at loaded ⊢
  rcases outcome with ⟨_ | _, after⟩ <;>
    exact ⟨added.trans loaded, lt_of_lt_of_le fresh loaded.size_le,
      (loaded.parent _ fresh).trans parentless⟩

/-- A successful make gives the next node. -/
theorem makeRoot_ok {b : ContextBuilder} {held : List NodeId} {delimiter : Delimiter}
    {forest after : Forest} {root : NodeId}
    (made : (b.makeRoot held delimiter).exec forest = (.ok root, after)) :
    root = forest.nodes.size := by
  rw [exec_makeRoot] at made
  split at made <;> simp_all

/-- What building a handle on a directory ends in. -/
inductive Built (b : ContextBuilder) (d : Directory) :
    Except NamingError NamingContext × Directory → Prop
  /-- The delimiter does not compile, and nothing changes. -/
  | refused (e : NamingError) : Built b d (.error e, d)
  /-- A shared handle gets the root published under its id. -/
  | reused (root : NodeId) : b.config.shared = true →
      (d.registry (b.registry.getD Directory.processWide)).get? b.config.root = some root →
      Built b d (.ok ⟨root, b.config, some (b.registry.getD Directory.processWide),
        ⟨b.conversion⟩, false⟩, d)
  /-- A new root is made and a source fails to load; the root stays, published nowhere. -/
  | failed (e : NamingError) (forest : Forest) : d.forest.NewRoot forest →
      Built b d (.error e, { d with forest })
  /-- A private handle gets a new root. -/
  | madePrivate (forest : Forest) : d.forest.NewRoot forest → b.config.shared = false →
      Built b d (.ok ⟨d.forest.nodes.size, b.config, none, ⟨b.conversion⟩, false⟩,
        { d with forest })
  /-- A shared handle whose id has no root gets a new root, published once it is loaded. -/
  | madeShared (forest : Forest) : d.forest.NewRoot forest → b.config.shared = true →
      (d.registry (b.registry.getD Directory.processWide)).get? b.config.root = none →
      Built b d (.ok ⟨d.forest.nodes.size, b.config, some (b.registry.getD Directory.processWide),
          ⟨b.conversion⟩, false⟩,
        { d with forest }.updateRegistry (b.registry.getD Directory.processWide)
          (·.publish b.config.root d.forest.nodes.size))

/-- Building a handle ends in one of the five ways `Built` lists. -/
theorem built (b : ContextBuilder) (held : List NodeId) (d : Directory) :
    Built b d ((b.build held).exec d) := by
  rw [exec_build]
  cases b.config.compileDelimiter with
  | error e => exact .refused e
  | ok delimiter =>
    have fresh := makeRoot_new b held delimiter d.forest
    dsimp only
    cases shared : b.config.shared
    · rw [if_neg Bool.false_ne_true]
      rcases outcome : (b.makeRoot held delimiter).exec d.forest with ⟨_ | root, forest⟩ <;>
        rw [outcome] at fresh <;> dsimp only
      · exact .failed _ _ fresh
      · rw [makeRoot_ok outcome]
        exact .madePrivate _ fresh shared
    · rw [if_pos rfl]
      cases found : (d.registry (b.registry.getD Directory.processWide)).get? b.config.root with
      | some root => exact .reused root shared found
      | none =>
        dsimp only
        rcases outcome : (b.makeRoot held delimiter).exec d.forest with ⟨_ | root, forest⟩ <;>
          rw [outcome] at fresh <;> dsimp only
        · exact .failed _ _ fresh
        · rw [makeRoot_ok outcome]
          exact .madeShared _ fresh shared found

end ContextBuilder

namespace SessionM

/-- Opening a handle fails on an unreadable source, changing nothing, or builds and names the handle. -/
theorem exec_openHandle (ws : Workspace) (handle : String) (config : NamingConfig)
    (sources : List (Except NamingError TextSource)) (plain : Bool) :
    (∃ e, (SessionM.step (.openHandle handle config sources plain)).exec ws = (.error e, ws)) ∨
    ∃ b : ContextBuilder, b.config = config ∧
      b.registry = (if plain then none else some ws.registry) ∧
      (SessionM.step (.openHandle handle config sources plain)).exec ws =
        match (b.build ws.held).exec ws.directory with
        | (.ok ctx, d) =>
          (.ok (.opened ctx.isShared ctx.rootId, none),
            { ws with directory := d, handles := ws.handles.insert handle ctx })
        | (.error e, d) => (.error (.naming e), { ws with directory := d }) := by
  have builds : ∀ b : ContextBuilder,
      (do
        let ctx ← onDirectory (b.build ws.held)
        putContext handle ctx
        return (Reply.opened ctx.isShared ctx.rootId, none) : SessionM (Reply × Option NodeId)).exec ws =
        match (b.build ws.held).exec ws.directory with
        | (.ok ctx, d) =>
          (.ok (.opened ctx.isShared ctx.rootId, none),
            { ws with directory := d, handles := ws.handles.insert handle ctx })
        | (.error e, d) => (.error (.naming e), { ws with directory := d }) := by
    intro b
    rw [exec_bind, exec_onDirectory]
    rcases (b.build ws.held).exec ws.directory with ⟨_ | ctx, d⟩ <;> rfl
  rw [SessionM.step, exec_get_bind]
  cases plain
  · rw [if_neg Bool.false_ne_true, exec_bind]
    have kept : ((sources.mapM ofExcept).exec ws).2 = ws :=
      Reads.mapM (fun source _ => Reads.ofExcept source) ws
    rcases read : (sources.mapM ofExcept).exec ws with ⟨_ | read, after⟩
    all_goals rw [read] at kept
    all_goals dsimp only at kept
    all_goals subst after
    · exact .inl ⟨_, rfl⟩
    · dsimp only
      rw [pure_bind]
      exact .inr ⟨_, rfl, rfl, builds _⟩
  · rw [if_pos rfl, pure_bind]
    exact .inr ⟨_, rfl, rfl, builds _⟩

/-- Closing a handle closes it as `NamingContext.close` does and keeps it under its name. -/
theorem exec_closeHandle (ws : Workspace) (name : String) :
    (SessionM.step (.close (.handle name))).exec ws =
      match ws.handles.get? name with
      | some ctx =>
        (.ok (.done, none),
          { ws with
            directory := (ctx.close ws.directory).2
            handles := ws.handles.insert name (ctx.close ws.directory).1 })
      | none => (.error (.unknownHandle name), ws) := by
  rw [SessionM.step, exec_get_bind, exec_bind, context, exec_get_bind]
  cases ws.handles.get? name <;> rfl

/-- Closing a kept node closes it in the forest. -/
theorem exec_closeNode (ws : Workspace) (name : String) :
    (SessionM.step (.close (.node name))).exec ws =
      match ws.kept.get? name with
      | some id =>
        (.ok (.done, none), { ws with directory := { ws.directory with
          forest := ws.directory.forest.close id } })
      | none => (.error (.unknownNode name), ws) := by
  rw [SessionM.step, exec_bind, keptNode, exec_get_bind]
  cases ws.kept.get? name <;> rfl

/-- Destroying a node changes the forest as `Forest.destroySubnode` does, or nothing. -/
theorem exec_destroySubnode (ws : Workspace) (target : Target) (path : PathArg) :
    (SessionM.step (.destroySubnode target path)).exec ws =
      match (node target).exec ws with
      | (.ok id, _) =>
        match ws.directory.forest.destroySubnode id path with
        | .ok after => (.ok (.done, none), { ws with directory := { ws.directory with
            forest := after } })
        | .error e => (.error (.naming e), ws)
      | (.error e, _) => (.error e, ws) := by
  rw [SessionM.step, exec_bind]
  have kept := Reads.node target ws
  rcases found : (node target).exec ws with ⟨_ | id, after⟩
  all_goals rw [found] at kept
  all_goals dsimp only at kept
  all_goals subst after
  · rfl
  · dsimp only
    rw [exec_bind, exec_onForest, TreeM.exec_change]
    cases ws.directory.forest.destroySubnode id path <;> rfl

/-- Removing a registry entry changes that registry alone. -/
theorem exec_registryRemove (ws : Workspace) (processWide : Bool) (rootId : String) :
    (SessionM.step (.registryRemove processWide rootId)).exec ws =
      (.ok (.flag ((ws.directory.registry (ws.registryOf processWide)).get? rootId).isSome, none),
        { ws with
          directory := ws.directory.updateRegistry (ws.registryOf processWide)
            fun _ => ((ws.directory.registry (ws.registryOf processWide)).remove rootId).2 }) := rfl

end SessionM

namespace Forest

/-- A release adds no node and moves none. -/
theorem release_parent (forest : Forest) (id : NodeId) :
    (forest.release id).nodes.size = forest.nodes.size ∧
      ∀ m, ((forest.release id).get m).parent = (forest.get m).parent :=
  have shrinks := (forest.releaseWith_frame (forest.nodes.size + 1) id).1
  ⟨shrinks.1, shrinks.parent_eq⟩

/-- Closing a node adds no node and moves none. -/
theorem close_parent (forest : Forest) (id : NodeId) :
    (forest.close id).nodes.size = forest.nodes.size ∧
      ∀ m, ((forest.close id).get m).parent = (forest.get m).parent := by
  unfold close
  split
  · exact ⟨rfl, fun _ => rfl⟩
  · exact forest.release_parent id

/-- Destroying a node adds no node and moves none. -/
theorem destroySubnode_parent {forest after : Forest} {start : NodeId} {path : PathArg}
    (ok : forest.destroySubnode start path = .ok after) :
    after.nodes.size = forest.nodes.size ∧ ∀ m, (after.get m).parent = (forest.get m).parent := by
  obtain ⟨owner, last, child, -, -, result⟩ := destroySubnode_cases ok
  obtain ⟨size, parent⟩ := forest.release_parent child
  rcases result with rfl | rfl
  · refine ⟨by simp [eraseBinding, size], fun m => ?_⟩
    rw [get_eraseBinding]
    split
    · exact parent m
    · exact parent m
  · exact ⟨size, parent⟩

end Forest

namespace Workspace

/-- The workspace after running requests in order. -/
def run (ws : Workspace) (requests : List Request) : Workspace :=
  requests.foldl (fun ws request => (ws.perform request).2) ws

@[simp] theorem run_nil (ws : Workspace) : ws.run [] = ws := rfl

@[simp] theorem run_cons (ws : Workspace) (request : Request) (rest : List Request) :
    ws.run (request :: rest) = (ws.perform request).2.run rest := rfl

/-- A run in which no request, taken in the workspace it runs in, is one that `bad` names. -/
inductive Avoids (bad : Workspace → Request → Prop) : Workspace → List Request → Prop
  | nil (ws : Workspace) : Avoids bad ws []
  | cons {ws : Workspace} {request : Request} {rest : List Request} : ¬ bad ws request →
      Avoids bad (ws.perform request).2 rest → Avoids bad ws (request :: rest)

/-- A run avoids what `bad` names, or has a first request `bad` names after a stretch that avoids it. -/
theorem avoids_or_first (bad : Workspace → Request → Prop) (ws : Workspace)
    (requests : List Request) :
    ws.Avoids bad requests ∨ ∃ before request after, requests = before ++ request :: after ∧
      ws.Avoids bad before ∧ bad (ws.run before) request := by
  induction requests generalizing ws with
  | nil => exact .inl (.nil ws)
  | cons request rest ih =>
      by_cases first : bad ws request
      · exact .inr ⟨[], request, rest, rfl, .nil ws, first⟩
      · rcases ih (ws.perform request).2 with avoided | ⟨before, named, after, split, avoided, found⟩
        · exact .inl (.cons first avoided)
        · exact .inr ⟨request :: before, named, after, by rw [split]; rfl, .cons first avoided,
            found⟩

/-- A request runs its step and keeps the node of the reply when asked. -/
theorem perform_snd (ws : Workspace) (request : Request) :
    ∃ kept, (ws.perform request).2 = { ((SessionM.step request.step).exec ws).2 with kept := kept } := by
  unfold perform SessionM.exec
  rcases ((SessionM.step request.step).run.run ws).run with ⟨_ | ⟨reply, _ | id⟩, after⟩
  · exact ⟨after.kept, rfl⟩
  · exact ⟨after.kept, rfl⟩
  · cases request.keep with
    | none => exact ⟨after.kept, rfl⟩
    | some name => exact ⟨after.kept.insert name id, rfl⟩

/-- A request fails exactly when its step does, with the same failure. -/
theorem perform_fst (ws : Workspace) (request : Request) :
    (ws.perform request).1 = ((SessionM.step request.step).exec ws).1.map Prod.fst := by
  unfold perform SessionM.exec
  rcases ((SessionM.step request.step).run.run ws).run with ⟨_ | ⟨reply, _ | id⟩, after⟩
  · rfl
  · rfl
  · cases request.keep <;> rfl

end Workspace

end NamingDirectory
