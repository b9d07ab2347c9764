import Mathlib
import NamingDirectory.Proofs.Session.Registry

/-!
Shared handles of one registry and root id see one tree (`shared_roots_agree`).
-/

namespace NamingDirectory

namespace Forest

/-- A node made under no node is reached from no other node through nodes made under others. -/
theorem not_ownedReach_of_root {forest : Forest} {id x : NodeId}
    (root : (forest.get x).parent = none) (other : x ≠ id) : ¬ forest.OwnedReach id x := by
  intro reached
  cases reached with
  | refl => exact other rfl
  | step _ _ _ made =>
      rw [root] at made
      cases made

/-- Releasing a node leaves every other root as it was. -/
theorem release_get_of_root (forest : Forest) {id x : NodeId} (root : (forest.get x).parent = none)
    (other : x ≠ id) : (forest.release id).get x = forest.get x :=
  (forest.releaseWith_frame (forest.nodes.size + 1) id).2 x (not_ownedReach_of_root root other)

end Forest

namespace Directory

/-- A guarded withdrawal changes an entry only when it is the given id and publishes the given root. -/
theorem removeRoot_changed (d : Directory) {R R' : RegistryId} {r r' : String} {root : NodeId}
    (changed : ((d.updateRegistry R' (·.removeRoot r' root)).registry R).get? r ≠
      (d.registry R).get? r) :
    R' = R ∧ r = r' ∧ d.Publishes R r root := by
  rw [registry_updateRegistry] at changed
  split at changed
  · rename_i same
    obtain ⟨rfl, -⟩ := same
    rw [SharedRoots.get?_removeRoot] at changed
    split at changed
    · rename_i own
      obtain ⟨rfl, own⟩ := own
      exact ⟨rfl, rfl, own⟩
    · exact absurd rfl changed
  · exact absurd rfl changed

end Directory

namespace Workspace

/-- A request opens a handle under a name, successfully, and leaves it there. -/
def Opens (ws : Workspace) (request : Request) (name : String) (ctx : NamingContext) : Prop :=
  (∃ config sources plain, request.step = .openHandle name config sources plain) ∧
    (∃ reply, (ws.perform request).1 = .ok reply) ∧
    (ws.perform request).2.handles.get? name = some ctx

/-- A request withdraws an id's entry: it closes the handle whose root is published, or removes the id. -/
inductive Withdraws (ws : Workspace) (request : Request) (R : RegistryId) (rootId : String) :
    Prop
  | close (name : String) (ctx : NamingContext) : request.step = .close (.handle name) →
      ws.handles.get? name = some ctx → ctx.config.ignoreClose = false → ctx.closed = false →
      ctx.registry = some R → ctx.config.root = rootId → ws.directory.Publishes R rootId ctx.root →
      Withdraws ws request R rootId
  | remove (processWide : Bool) : request.step = .registryRemove processWide rootId →
      ws.registryOf processWide = R → Withdraws ws request R rootId

/-- A successful open built its handle as `ContextBuilder.Built` says and left the directory it built. -/
theorem Opens.built {ws : Workspace} {request : Request} {name : String} {ctx : NamingContext}
    (opens : ws.Opens request name ctx) :
    ∃ (b : ContextBuilder) (plain : Bool) (d : Directory),
      b.registry = (if plain then none else some ws.registry) ∧
      ContextBuilder.Built b ws.directory (.ok ctx, d) ∧ (ws.perform request).2.directory = d := by
  obtain ⟨⟨config, sources, plain, step⟩, ⟨reply, ok⟩, found⟩ := opens
  obtain ⟨kept, performed⟩ := ws.perform_snd request
  have outcome := ws.perform_fst request
  rw [ok, step] at outcome
  rw [step] at performed
  rcases SessionM.exec_openHandle ws name config sources plain with
    ⟨e, failed⟩ | ⟨b, -, registry, opened⟩
  · rw [failed] at outcome
    cases outcome
  have built := ContextBuilder.built b ws.held ws.directory
  rw [opened] at outcome performed
  generalize (b.build ws.held).exec ws.directory = result at built outcome performed
  rcases result with ⟨_ | made, d⟩
  · cases outcome
  · rw [performed] at found
    simp only [OrderedMap.get?_insert, if_true, Option.some.injEq] at found
    subst found
    exact ⟨b, plain, d, registry, built, by rw [performed]⟩

/-- After a handle of a registry is opened, the registry publishes its root under its id. -/
theorem Opens.publishes {ws : Workspace} (sound : ws.Sound) {request : Request} {name : String}
    {ctx : NamingContext} (opens : ws.Opens request name ctx) {R : RegistryId}
    (shared : ctx.registry = some R) :
    (ws.perform request).2.directory.Publishes R ctx.config.root ctx.root := by
  obtain ⟨b, plain, d, registry, built, directory⟩ := opens.built
  have valid : b.registry.getD Directory.processWide < ws.directory.registries.size :=
    registry ▸ sound.registry_valid plain
  rw [directory]
  cases built with
  | reused root _ found =>
      cases shared
      exact found
  | madePrivate forest _ _ => cases shared
  | madeShared forest _ _ free =>
      cases shared
      exact (Directory.publishes_publish { ws.directory with forest } valid free _ _ _).mpr
        (.inr ⟨rfl, rfl, rfl⟩)

/-- A handle opened on a registry whose id publishes a root gets that root. -/
theorem Opens.root_eq {ws : Workspace} {request : Request} {name : String} {ctx : NamingContext}
    (opens : ws.Opens request name ctx) {R : RegistryId} (shared : ctx.registry = some R)
    {x : NodeId} (published : ws.directory.Publishes R ctx.config.root x) : ctx.root = x := by
  obtain ⟨b, plain, d, -, built, -⟩ := opens.built
  cases built with
  | reused root _ found =>
      cases shared
      exact Option.some.inj (found.symm.trans published)
  | madePrivate forest _ _ => cases shared
  | madeShared forest _ _ free =>
      cases shared
      rw [Directory.Publishes, free] at published
      cases published

/-- A request that does not withdraw an entry keeps it. -/
theorem publishes_perform {ws : Workspace} {request : Request} {R : RegistryId} {r : String}
    {x : NodeId} (published : ws.directory.Publishes R r x) (kept : ¬ ws.Withdraws request R r) :
    (ws.perform request).2.directory.Publishes R r x := by
  obtain ⟨_, performed⟩ := ws.perform_snd request
  rw [performed]
  show ((SessionM.step request.step).exec ws).2.directory.Publishes R r x
  cases ordinary : request.step.isOrdinary
  case true =>
    exact (Directory.publishes_congr (SessionM.Grows.step ordinary ws).registries).mpr published
  cases step : request.step with
  | openHandle handle config sources plain =>
      rcases SessionM.exec_openHandle ws handle config sources plain with
        ⟨e, failed⟩ | ⟨b, -, -, opened⟩
      · rw [failed]
        exact published
      rw [opened]
      have built := ContextBuilder.built b ws.held ws.directory
      generalize (b.build ws.held).exec ws.directory = result at built ⊢
      cases built with
      | refused e => exact published
      | reused root _ _ => exact published
      | failed e forest _ => exact published
      | madePrivate forest _ _ => exact published
      | madeShared forest _ _ _ =>
          exact Directory.publishes_publish_of_publishes (d := { ws.directory with forest }) published
  | destroySubnode target path =>
      rw [SessionM.exec_destroySubnode]
      rcases (SessionM.node target).exec ws with ⟨_ | id, _⟩
      · exact published
      · dsimp only
        cases ws.directory.forest.destroySubnode id path <;> exact published
  | close target =>
      cases target with
      | node name =>
          rw [SessionM.exec_closeNode]
          cases ws.kept.get? name <;> exact published
      | handle name =>
          rw [SessionM.exec_closeHandle]
          cases found : ws.handles.get? name with
          | none => exact published
          | some ctx =>
            dsimp only
            unfold NamingContext.close
            split
            · exact published
            rename_i closing
            simp only [Bool.or_eq_true, not_or, Bool.not_eq_true] at closing
            cases shared : ctx.registry with
            | none => exact published
            | some R' =>
              refine (Directory.publishes_removeRoot _ R r x).mpr ⟨published, ?_⟩
              rintro ⟨rfl, rfl, -, own⟩
              exact kept (.close name ctx step found closing.1 closing.2 shared rfl own)
  | registryRemove processWide rootId =>
      rw [SessionM.exec_registryRemove]
      refine (Directory.publishes_remove _ R r x).mpr ⟨published, ?_⟩
      rintro ⟨rfl, rfl, -⟩
      exact kept (.remove processWide step rfl)
  | _ => simp [step, Step.isOrdinary] at ordinary

/-- A run in which no request withdraws an entry keeps it. -/
theorem publishes_run {ws : Workspace} {R : RegistryId} {r : String} {x : NodeId}
    {requests : List Request} (kept : ws.Avoids (fun ws request => ws.Withdraws request R r) requests)
    (published : ws.directory.Publishes R r x) : (ws.run requests).directory.Publishes R r x := by
  induction kept with
  | nil => exact published
  | cons avoided _ ih => exact ih (publishes_perform published avoided)

/-- A failed open publishes nothing and withdraws nothing. -/
theorem failed_open_registries (ws : Workspace) {request : Request} {name : String}
    {config : NamingConfig} {sources : List (Except NamingError TextSource)} {plain : Bool}
    {e : StepFailure} (step : request.step = .openHandle name config sources plain)
    (failed : (ws.perform request).1 = .error e) :
    (ws.perform request).2.directory.registries = ws.directory.registries := by
  obtain ⟨_, performed⟩ := ws.perform_snd request
  have outcome := ws.perform_fst request
  rw [failed, step] at outcome
  rw [performed, step]
  show ((SessionM.step (.openHandle name config sources plain)).exec ws).2.directory.registries = _
  rcases SessionM.exec_openHandle ws name config sources plain with
    ⟨e, refused⟩ | ⟨b, -, -, opened⟩
  · rw [refused]
  rw [opened] at outcome ⊢
  have built := ContextBuilder.built b ws.held ws.directory
  generalize (b.build ws.held).exec ws.directory = result at built outcome ⊢
  cases built with
  | refused e => rfl
  | failed e forest _ => rfl
  | reused root _ _ => cases outcome
  | madePrivate forest _ _ => cases outcome
  | madeShared forest _ _ _ => cases outcome

/-- Two handles opened on one registry and root id get one root, unless a request between withdraws it. -/
theorem shared_open_reuses {ws : Workspace} (sound : ws.Sound) {first second : Request}
    {middle : List Request} {name name' : String} {ctx ctx' : NamingContext} {R : RegistryId}
    (opens : ws.Opens first name ctx)
    (opens' : ((ws.perform first).2.run middle).Opens second name' ctx')
    (shared : ctx.registry = some R) (shared' : ctx'.registry = some R)
    (sameId : ctx'.config.root = ctx.config.root)
    (kept : (ws.perform first).2.Avoids (fun ws request => ws.Withdraws request R ctx.config.root)
      middle) :
    ctx'.root = ctx.root := by
  have published := publishes_run kept (opens.publishes sound shared)
  exact opens'.root_eq shared' (sameId ▸ published)

/-- A private handle's root is published nowhere and is the root of no other handle. -/
theorem Sound.private_root {ws : Workspace} (sound : ws.Sound) {name : String}
    {ctx : NamingContext} (found : ws.handles.get? name = some ctx) (isPrivate : ctx.registry = none) :
    (∀ R r, ¬ ws.directory.Publishes R r ctx.root) ∧
      ∀ name' ctx', ws.handles.get? name' = some ctx' → ctx'.root = ctx.root → name' = name := by
  refine ⟨fun R r published => ?_, fun name' ctx' found' same =>
    sound.private_alone name ctx name' ctx' found isPrivate found' same⟩
  have shared := (sound.handle_published name ctx R r found published).1
  rw [isPrivate] at shared
  cases shared

/-- Closing a handle changes only the entry of its own root, on its first close, and closes it. -/
theorem Sound.closeHandle_effects {ws : Workspace} (sound : ws.Sound) {request : Request}
    {name : String} {ctx : NamingContext} (step : request.step = .close (.handle name))
    (found : ws.handles.get? name = some ctx) :
    (∀ R r, (((ws.perform request).2.directory.registry R).get? r ≠
        (ws.directory.registry R).get? r →
      ctx.config.ignoreClose = false ∧ ctx.closed = false ∧ ctx.registry = some R ∧
        ctx.config.root = r ∧ ws.directory.Publishes R r ctx.root)) ∧
    (∀ R r x, ws.directory.Publishes R r x → x ≠ ctx.root →
      (ws.perform request).2.directory.Publishes R r x ∧
        ((ws.perform request).2.directory.forest.get x).closed =
          (ws.directory.forest.get x).closed) ∧
    (ctx.config.ignoreClose = false → ∃ ctx',
      (ws.perform request).2.handles.get? name = some ctx' ∧ ctx'.closed = true) := by
  obtain ⟨_, performed⟩ := ws.perform_snd request
  rw [performed, step]
  show (∀ R r, ((((SessionM.step (.close (.handle name))).exec ws).2.directory.registry R).get? r ≠
      _ → _)) ∧ _
  rw [SessionM.exec_closeHandle, found]
  dsimp only
  unfold NamingContext.close
  split
  · -- A handle that ignores closing, or is closed, is left as it is.
    rename_i kept
    refine ⟨fun R r changed => absurd rfl changed, fun R r x published _ => ⟨published, rfl⟩,
      fun closing => ⟨ctx, by simp [OrderedMap.get?_insert], ?_⟩⟩
    simpa [closing] using kept
  rename_i closing
  simp only [Bool.or_eq_true, not_or, Bool.not_eq_true] at closing
  have keepsRoot : ∀ R r x, ws.directory.Publishes R r x → x ≠ ctx.root →
      ((ws.directory.forest.release ctx.root).get x).closed = (ws.directory.forest.get x).closed :=
    fun R r x published other => by
      rw [ws.directory.forest.release_get_of_root (sound.published_root R r x published) other]
  have closedAfter : ∀ c : NamingContext, c.closed = true →
      ∃ ctx', (ws.handles.insert name c).get? name = some ctx' ∧ ctx'.closed = true :=
    fun c isClosed => ⟨c, by simp [OrderedMap.get?_insert], isClosed⟩
  cases shared : ctx.registry with
  | none =>
      exact ⟨fun R r changed => absurd rfl changed,
        fun R r x published other => ⟨published, keepsRoot R r x published other⟩,
        fun _ => closedAfter _ rfl⟩
  | some R' =>
      refine ⟨fun R r changed => ?_, fun R r x published other => ⟨?_, keepsRoot R r x published other⟩,
        fun _ => closedAfter _ rfl⟩
      · obtain ⟨rfl, rfl, own⟩ := ws.directory.removeRoot_changed changed
        exact ⟨closing.1, closing.2, rfl, rfl, own⟩
      · refine (Directory.publishes_removeRoot _ R r x).mpr ⟨published, ?_⟩
        rintro ⟨rfl, rfl, -, own⟩
        exact other (Option.some.inj (published.symm.trans own))

/-- Handles of one registry and root id share one root, a private root is held once, a failed open
publishes nothing, and a close withdraws only its own entry. -/
theorem shared_roots_agree :
    (∀ (ws : Workspace) (first second : Request) (middle : List Request) (name name' : String)
        (ctx ctx' : NamingContext) (R : RegistryId),
      ws.Reachable → ws.Opens first name ctx →
      ((ws.perform first).2.run middle).Opens second name' ctx' →
      ctx.registry = some R → ctx'.registry = some R → ctx'.config.root = ctx.config.root →
      (ws.perform first).2.Avoids (fun ws request => ws.Withdraws request R ctx.config.root)
        middle →
      ctx'.root = ctx.root) ∧
    (∀ (ws : Workspace) (name : String) (ctx : NamingContext),
      ws.Reachable → ws.handles.get? name = some ctx → ctx.registry = none →
      (∀ R r, ¬ ws.directory.Publishes R r ctx.root) ∧
      ∀ name' ctx', ws.handles.get? name' = some ctx' → ctx'.root = ctx.root → name' = name) ∧
    (∀ (ws : Workspace) (request : Request) (name : String) (config : NamingConfig)
        (sources : List (Except NamingError TextSource)) (plain : Bool) (e : StepFailure),
      request.step = .openHandle name config sources plain → (ws.perform request).1 = .error e →
      (ws.perform request).2.directory.registries = ws.directory.registries) ∧
    (∀ (ws : Workspace) (request : Request) (name : String) (ctx : NamingContext),
      ws.Reachable → request.step = .close (.handle name) → ws.handles.get? name = some ctx →
      (∀ R r, (((ws.perform request).2.directory.registry R).get? r ≠
          (ws.directory.registry R).get? r →
        ctx.config.ignoreClose = false ∧ ctx.closed = false ∧ ctx.registry = some R ∧
          ctx.config.root = r ∧ ws.directory.Publishes R r ctx.root)) ∧
      (∀ R r x, ws.directory.Publishes R r x → x ≠ ctx.root →
        (ws.perform request).2.directory.Publishes R r x ∧
          ((ws.perform request).2.directory.forest.get x).closed =
            (ws.directory.forest.get x).closed) ∧
      (ctx.config.ignoreClose = false → ∃ ctx',
        (ws.perform request).2.handles.get? name = some ctx' ∧ ctx'.closed = true)) :=
  ⟨fun _ _ _ _ _ _ _ _ _ reachable opens opens' shared shared' sameId kept =>
      shared_open_reuses reachable.sound opens opens' shared shared' sameId kept,
    fun _ _ _ reachable found isPrivate => reachable.sound.private_root found isPrivate,
    fun ws _ _ _ _ _ _ step failed => ws.failed_open_registries step failed,
    fun _ _ _ _ reachable step found => reachable.sound.closeHandle_effects step found⟩

/-- A shared open of the root id `r`, with further settings. -/
def sharedOpen (handle : String) (config : NamingConfig) : Request :=
  ⟨.openHandle handle { config with shared := true, root := "r" } [] false, none⟩

/-- A private open with the default settings. -/
def privateOpen (handle : String) : Request := ⟨.openHandle handle {} [] false, none⟩

/-- Two shared opens of `r` with different settings, a private open between them, meet at one root. -/
theorem shared_opens_of_one_root_id_meet :
    ∃ ctx ctx' : NamingContext, (start .standard).Reachable ∧
      (start .standard).Opens (sharedOpen "h1" {}) "h1" ctx ∧
      (((start .standard).perform (sharedOpen "h1" {})).2.run [privateOpen "h3"]).Opens
        (sharedOpen "h2" { ignoreClose := true }) "h2" ctx' ∧
      ctx.registry = some 1 ∧ ctx'.registry = some 1 ∧ ctx'.config.root = ctx.config.root ∧
      ((start .standard).perform (sharedOpen "h1" {})).2.Avoids
        (fun ws request => ws.Withdraws request 1 ctx.config.root) [privateOpen "h3"] ∧
      ctx'.root = ctx.root := by
  let shared : NamingConfig := { shared := true, root := "r" }
  let ctx : NamingContext := { root := 0, config := shared, registry := some 1 }
  let ctx' : NamingContext := { ctx with config := { shared with ignoreClose := true } }
  have opens : (start .standard).Opens (sharedOpen "h1" {}) "h1" ctx :=
    ⟨⟨_, _, _, rfl⟩, ⟨_, rfl⟩, rfl⟩
  have opens' : (((start .standard).perform (sharedOpen "h1" {})).2.run [privateOpen "h3"]).Opens
      (sharedOpen "h2" { ignoreClose := true }) "h2" ctx' :=
    ⟨⟨_, _, _, rfl⟩, ⟨_, rfl⟩, rfl⟩
  have kept : ((start .standard).perform (sharedOpen "h1" {})).2.Avoids
      (fun ws request => ws.Withdraws request 1 ctx.config.root) [privateOpen "h3"] := by
    refine .cons ?_ (.nil _)
    rintro (⟨_, _, step⟩ | ⟨_, step⟩) <;> cases step
  exact ⟨ctx, ctx', .start .standard, opens, opens', rfl, rfl, rfl, kept,
    shared_roots_agree.1 _ _ _ _ _ _ _ _ _ (.start .standard) opens opens' rfl rfl rfl kept⟩

end Workspace

end NamingDirectory
