import Mathlib
import NamingDirectory.Proofs.Session.Handles

/-!
The invariant every session started fresh keeps over its registries of shared roots
(`Workspace.Sound`).
-/

namespace NamingDirectory

namespace SharedRoots

/-- Publishing answers the new root for its id when the id had none, and keeps the others. -/
theorem get?_publish (registry : SharedRoots) (rootId other : String) (root : NodeId) :
    (registry.publish rootId root).get? other =
      (registry.get? other).or (if other = rootId then some root else none) := by
  simp only [publish, get?, List.lookup_append]
  congr 1
  by_cases same : other = rootId
  · subst same
    simp
  · have skipped : (other == rootId) = false := by simpa using same
    simp [List.lookup_cons, same, skipped]

/-- Removing an id answers nothing for it, and keeps the others. -/
theorem get?_remove (registry : SharedRoots) (rootId other : String) :
    (registry.remove rootId).2.get? other = if other = rootId then none else registry.get? other := by
  obtain ⟨roots⟩ := registry
  simp only [remove, get?]
  induction roots with
  | nil => simp
  | cons entry rest ih =>
      obtain ⟨key, root⟩ := entry
      by_cases removed : key = rootId
      · have dropped : ((key, root) :: rest).filter (·.1 != rootId) = rest.filter (·.1 != rootId) := by
          simp [removed]
        rw [dropped, ih]
        by_cases same : other = rootId
        · simp [same]
        · have skipped : (other == key) = false := by simp [removed, same]
          simp [same, List.lookup_cons, skipped]
      · have kept : ((key, root) :: rest).filter (·.1 != rootId) =
            (key, root) :: rest.filter (·.1 != rootId) := by
          simp [removed]
        rw [kept, List.lookup_cons, List.lookup_cons, ih]
        by_cases same : other = rootId
        · subst same
          have skipped : (other == key) = false := by simpa using Ne.symm removed
          simp [skipped]
        · simp [same]

/-- A guarded removal withdraws the id only while it still publishes the given root. -/
theorem get?_removeRoot (registry : SharedRoots) (rootId other : String) (root : NodeId) :
    (registry.removeRoot rootId root).get? other =
      if other = rootId ∧ registry.get? rootId = some root then none else registry.get? other := by
  unfold removeRoot
  by_cases current : registry.get? rootId = some root
  · simp [current, get?_remove]
  · simp [current]

end SharedRoots

namespace Directory

/-- A registry of the directory publishes a root under a root id. -/
def Publishes (d : Directory) (registry : RegistryId) (rootId : String) (root : NodeId) : Prop :=
  (d.registry registry).get? rootId = some root

theorem registry_updateRegistry (d : Directory) (id id' : RegistryId)
    (change : SharedRoots → SharedRoots) :
    (d.updateRegistry id change).registry id' =
      if id = id' ∧ id < d.registries.size then change (d.registry id') else d.registry id' := by
  simp only [registry, updateRegistry, Array.getElem?_modify]
  by_cases same : id = id'
  · subst same
    by_cases inside : id < d.registries.size
    · simp [inside]
    · simp [inside]
  · simp [same]

@[simp] theorem size_updateRegistry (d : Directory) (id : RegistryId)
    (change : SharedRoots → SharedRoots) :
    (d.updateRegistry id change).registries.size = d.registries.size := by
  simp [updateRegistry]

/-- What is published depends on the registries alone. -/
theorem publishes_congr {d d' : Directory} (same : d'.registries = d.registries)
    {R : RegistryId} {r : String} {x : NodeId} : d'.Publishes R r x ↔ d.Publishes R r x := by
  simp only [Publishes, registry, same]

/-- Publishing a root under an id that has none adds that one entry. -/
theorem publishes_publish (d : Directory) {R : RegistryId} {r : String} {x : NodeId}
    (valid : R < d.registries.size) (free : (d.registry R).get? r = none)
    (R' : RegistryId) (r' : String) (y : NodeId) :
    (d.updateRegistry R (·.publish r x)).Publishes R' r' y ↔
      d.Publishes R' r' y ∨ (R' = R ∧ r' = r ∧ y = x) := by
  simp only [Publishes, registry_updateRegistry, valid, and_true]
  by_cases same : R = R'
  · subst same
    by_cases sameId : r' = r
    · subst sameId
      simp [SharedRoots.get?_publish, free, eq_comm]
    · simp [SharedRoots.get?_publish, sameId]
  · simp [same, Ne.symm same]

/-- Publishing keeps every entry there was. -/
theorem publishes_publish_of_publishes {d : Directory} {R R' : RegistryId} {r r' : String}
    {x y : NodeId} (published : d.Publishes R r x) :
    (d.updateRegistry R' (·.publish r' y)).Publishes R r x := by
  simp only [Publishes, registry_updateRegistry]
  split
  · rw [SharedRoots.get?_publish]
    simp only [Publishes] at published
    simp [published]
  · exact published

/-- Withdrawing an id keeps every other entry. -/
theorem publishes_remove (d : Directory) {R : RegistryId} {r : String}
    (R' : RegistryId) (r' : String) (y : NodeId) :
    (d.updateRegistry R fun _ => ((d.registry R).remove r).2).Publishes R' r' y ↔
      d.Publishes R' r' y ∧ ¬ (R' = R ∧ r' = r ∧ R < d.registries.size) := by
  simp only [Publishes, registry_updateRegistry]
  by_cases same : R = R'
  · subst same
    by_cases sameId : r' = r <;>
      by_cases valid : R < d.registries.size <;> simp [SharedRoots.get?_remove, sameId, valid]
  · simp [same, Ne.symm same]

/-- A guarded withdrawal keeps every entry but the one that publishes the given root. -/
theorem publishes_removeRoot (d : Directory) {R : RegistryId} {r : String} {x : NodeId}
    (R' : RegistryId) (r' : String) (y : NodeId) :
    (d.updateRegistry R (·.removeRoot r x)).Publishes R' r' y ↔
      d.Publishes R' r' y ∧ ¬ (R' = R ∧ r' = r ∧ R < d.registries.size ∧ d.Publishes R r x) := by
  simp only [Publishes, registry_updateRegistry]
  by_cases same : R = R'
  · subst same
    by_cases sameId : r' = r <;>
      by_cases valid : R < d.registries.size <;>
      simp [SharedRoots.get?_removeRoot, sameId, valid, and_comm]
  · simp [same, Ne.symm same]

end Directory

namespace Workspace

/-- Published roots are parentless, published once, held by their shared handles; private roots by one. -/
structure Sound (ws : Workspace) : Prop where
  processWide_lt : Directory.processWide < ws.directory.registries.size
  registry_lt : ws.registry < ws.directory.registries.size
  published_lt : ∀ R r x, ws.directory.Publishes R r x → x < ws.directory.forest.nodes.size
  published_root : ∀ R r x, ws.directory.Publishes R r x →
    (ws.directory.forest.get x).parent = none
  published_once : ∀ R r x R' r', ws.directory.Publishes R r x →
    ws.directory.Publishes R' r' x → R = R' ∧ r = r'
  handle_lt : ∀ name ctx, ws.handles.get? name = some ctx →
    ctx.root < ws.directory.forest.nodes.size
  handle_published : ∀ name ctx R r, ws.handles.get? name = some ctx →
    ws.directory.Publishes R r ctx.root → ctx.registry = some R ∧ ctx.config.root = r
  private_alone : ∀ name ctx name' ctx', ws.handles.get? name = some ctx → ctx.registry = none →
    ws.handles.get? name' = some ctx' → ctx'.root = ctx.root → name' = name

/-- A fresh session has its two registries, no entry and no handle. -/
theorem sound_start (conversion : ConversionService) : (start conversion).Sound := by
  have nothing : ∀ R r x, ¬ (start conversion).directory.Publishes R r x := by
    intro R r x published
    simp only [Directory.Publishes, Directory.registry, start, Directory.addRegistry] at published
    rcases R with _ | _ | R <;> simp [SharedRoots.get?] at published
  have noHandle : ∀ name, (start conversion).handles.get? name = none := fun _ => rfl
  refine ⟨by simp [start, Directory.addRegistry, Directory.processWide],
    by simp [start, Directory.addRegistry], fun R r x published => absurd published (nothing R r x),
    fun R r x published => absurd published (nothing R r x),
    fun R r x _ _ published => absurd published (nothing R r x),
    fun name ctx found => ?_, fun name ctx R r found => ?_, fun name ctx name' ctx' found => ?_⟩ <;>
    simp [noHandle] at found

/-- A step that keeps registries, handles' roots and ids, and every parent keeps a session sound. -/
theorem Sound.of_frame {ws ws' : Workspace} (sound : ws.Sound)
    (size : ws'.directory.registries.size = ws.directory.registries.size)
    (registry : ws'.registry = ws.registry)
    (size_le : ws.directory.forest.nodes.size ≤ ws'.directory.forest.nodes.size)
    (parent : ∀ m < ws.directory.forest.nodes.size,
      (ws'.directory.forest.get m).parent = (ws.directory.forest.get m).parent)
    (published : ∀ R r x, ws'.directory.Publishes R r x → ws.directory.Publishes R r x)
    (handles : ∀ name ctx', ws'.handles.get? name = some ctx' → ∃ ctx,
      ws.handles.get? name = some ctx ∧ ctx'.root = ctx.root ∧ ctx'.registry = ctx.registry ∧
        ctx'.config.root = ctx.config.root) :
    ws'.Sound where
  processWide_lt := size ▸ sound.processWide_lt
  registry_lt := size ▸ registry ▸ sound.registry_lt
  published_lt R r x found := lt_of_lt_of_le (sound.published_lt R r x (published R r x found)) size_le
  published_root R r x found := by
    have before := published R r x found
    rw [parent x (sound.published_lt R r x before)]
    exact sound.published_root R r x before
  published_once R r x R' r' one two :=
    sound.published_once R r x R' r' (published R r x one) (published R' r' x two)
  handle_lt name ctx' found := by
    obtain ⟨ctx, was, root, -, -⟩ := handles name ctx' found
    exact root ▸ lt_of_lt_of_le (sound.handle_lt name ctx was) size_le
  handle_published name ctx' R r found isPublished := by
    obtain ⟨ctx, was, root, shared, rootId⟩ := handles name ctx' found
    rw [root] at isPublished
    obtain ⟨sharedHere, idHere⟩ := sound.handle_published name ctx R r was (published _ _ _ isPublished)
    exact ⟨shared.trans sharedHere, rootId.trans idHere⟩
  private_alone name ctx' name' ctx'' found isPrivate found' sameRoot := by
    obtain ⟨ctx, was, root, shared, -⟩ := handles name ctx' found
    obtain ⟨other, was', root', -, -⟩ := handles name' ctx'' found'
    exact sound.private_alone name ctx name' other was (shared ▸ isPrivate) was'
      (root'.symm.trans (sameRoot.trans root))

/-- A step that only grows the workspace keeps it sound. -/
theorem Grows.sound {ws ws' : Workspace} (grows : ws.Grows ws') (sound : ws.Sound) : ws'.Sound :=
  sound.of_frame (by rw [grows.registries]) grows.registry grows.forest.size_le grows.forest.parent
    (fun _ _ _ found => (Directory.publishes_congr grows.registries).mp found)
    (fun _ ctx found => ⟨ctx, grows.handles ▸ found, rfl, rfl, rfl⟩)

/-- Putting a handle whose root is published under its own registry and id keeps a session sound. -/
theorem Sound.reuse {ws : Workspace} (sound : ws.Sound) (name : String) {ctx : NamingContext}
    {R : RegistryId} (shared : ctx.registry = some R)
    (published : ws.directory.Publishes R ctx.config.root ctx.root) :
    { ws with handles := ws.handles.insert name ctx }.Sound where
  processWide_lt := sound.processWide_lt
  registry_lt := sound.registry_lt
  published_lt := sound.published_lt
  published_root := sound.published_root
  published_once := sound.published_once
  handle_lt name' ctx' found := by
    rw [OrderedMap.get?_insert] at found
    split at found
    · cases found
      exact sound.published_lt _ _ _ published
    · exact sound.handle_lt name' ctx' found
  handle_published name' ctx' R' r' found isPublished := by
    rw [OrderedMap.get?_insert] at found
    split at found
    · cases found
      obtain ⟨rfl, rfl⟩ := sound.published_once _ _ _ _ _ published isPublished
      exact ⟨shared, rfl⟩
    · exact sound.handle_published name' ctx' R' r' found isPublished
  private_alone n c n' c' found isPrivate found' sameRoot := by
    rw [OrderedMap.get?_insert] at found found'
    split at found
    · cases found
      rw [shared] at isPrivate
      cases isPrivate
    split at found'
    · -- The new handle's root is published, and a private handle's root is not.
      cases found'
      rw [sameRoot] at published
      have sharedToo := (sound.handle_published n c _ _ found published).1
      rw [isPrivate] at sharedToo
      cases sharedToo
    · exact sound.private_alone n c n' c' found isPrivate found' sameRoot

/-- Putting a handle on a new parentless root, private or published under its own id, keeps it sound. -/
theorem Sound.fresh {ws : Workspace} (sound : ws.Sound) (name : String) {ctx : NamingContext}
    {d : Directory} (grows : ws.directory.forest.Grows d.forest)
    (root : ctx.root = ws.directory.forest.nodes.size) (made : ctx.root < d.forest.nodes.size)
    (parentless : (d.forest.get ctx.root).parent = none)
    (size : d.registries.size = ws.directory.registries.size)
    (published : ∀ R r x, d.Publishes R r x →
      ws.directory.Publishes R r x ∨ (ctx.registry = some R ∧ ctx.config.root = r ∧ x = ctx.root)) :
    { ws with directory := d, handles := ws.handles.insert name ctx }.Sound := by
  have old : ∀ x, x < ws.directory.forest.nodes.size → x ≠ ctx.root := fun x lt same =>
    (Nat.ne_of_lt lt) (same.trans root)
  have oldPublished : ∀ R r x, ws.directory.Publishes R r x → x ≠ ctx.root := fun R r x found =>
    old x (sound.published_lt R r x found)
  exact {
    processWide_lt := size ▸ sound.processWide_lt
    registry_lt := size ▸ sound.registry_lt
    published_lt := fun R r x found => by
      rcases published R r x found with before | ⟨-, -, rfl⟩
      · exact lt_of_lt_of_le (sound.published_lt R r x before) grows.size_le
      · exact made
    published_root := fun R r x found => by
      rcases published R r x found with before | ⟨-, -, rfl⟩
      · rw [grows.parent x (sound.published_lt R r x before)]
        exact sound.published_root R r x before
      · exact parentless
    published_once := fun R r x R' r' one two => by
      rcases published R r x one with before | ⟨shared, rootId, rfl⟩ <;>
        rcases published R' r' _ two with before' | ⟨shared', rootId', same⟩
      · exact sound.published_once R r x R' r' before before'
      · exact absurd same (oldPublished R r x before)
      · exact absurd rfl (oldPublished R' r' _ before')
      · rw [shared] at shared'
        cases shared'
        exact ⟨rfl, rootId.symm.trans rootId'⟩
    handle_lt := fun name' ctx' found => by
      rw [OrderedMap.get?_insert] at found
      split at found
      · cases found
        exact made
      · exact lt_of_lt_of_le (sound.handle_lt name' ctx' found) grows.size_le
    handle_published := fun name' ctx' R r found isPublished => by
      rw [OrderedMap.get?_insert] at found
      split at found
      · cases found
        rcases published R r _ isPublished with before | ⟨shared, rootId, -⟩
        · exact absurd rfl (oldPublished R r _ before)
        · exact ⟨shared, rootId⟩
      · rcases published R r _ isPublished with before | ⟨-, -, same⟩
        · exact sound.handle_published name' ctx' R r found before
        · exact absurd same (old _ (sound.handle_lt name' ctx' found))
    private_alone := fun n c n' c' found isPrivate found' sameRoot => by
      rw [OrderedMap.get?_insert] at found found'
      split at found <;> split at found'
      · rename_i here here'
        exact here'.symm.trans here
      · cases found
        exact absurd sameRoot (old _ (sound.handle_lt n' c' found'))
      · cases found'
        exact absurd sameRoot.symm (old _ (sound.handle_lt n c found))
      · exact sound.private_alone n c n' c' found isPrivate found' sameRoot }

/-- A step that changes only the forest, keeping its size and every parent, keeps a session sound. -/
theorem Sound.of_forest {ws : Workspace} (sound : ws.Sound) {forest : Forest}
    (size : forest.nodes.size = ws.directory.forest.nodes.size)
    (parent : ∀ m, (forest.get m).parent = (ws.directory.forest.get m).parent) :
    { ws with directory := { ws.directory with forest := forest } }.Sound :=
  sound.of_frame rfl rfl size.ge (fun m _ => parent m) (fun _ _ _ found => found)
    (fun _ ctx found => ⟨ctx, found, rfl, rfl, rfl⟩)

/-- The registry a builder of a session publishes in is one of the session's two. -/
theorem Sound.registry_valid {ws : Workspace} (sound : ws.Sound) (plain : Bool) :
    ((if plain then none else some ws.registry) : Option RegistryId).getD Directory.processWide <
      ws.directory.registries.size := by
  cases plain
  · exact sound.registry_lt
  · exact sound.processWide_lt

/-- Opening a handle keeps a session sound. -/
theorem Sound.openHandle {ws : Workspace} (sound : ws.Sound) (handle : String)
    (config : NamingConfig) (sources : List (Except NamingError TextSource)) (plain : Bool) :
    ((SessionM.step (.openHandle handle config sources plain)).exec ws).2.Sound := by
  rcases SessionM.exec_openHandle ws handle config sources plain with
    ⟨e, failed⟩ | ⟨b, -, registry, opened⟩
  · rw [failed]
    exact sound
  have valid : b.registry.getD Directory.processWide < ws.directory.registries.size :=
    registry ▸ sound.registry_valid plain
  rw [opened]
  have outcome := ContextBuilder.built b ws.held ws.directory
  generalize (b.build ws.held).exec ws.directory = result at outcome ⊢
  cases outcome with
  | refused e => exact sound
  | reused root _ found => exact sound.reuse handle rfl found
  | failed e forest fresh =>
      exact sound.of_frame rfl rfl fresh.grows.size_le fresh.grows.parent
        (fun _ _ _ found => found) (fun _ ctx found => ⟨ctx, found, rfl, rfl, rfl⟩)
  | madePrivate forest fresh _ =>
      exact sound.fresh handle fresh.grows rfl fresh.lt fresh.parentless rfl
        fun _ _ _ found => .inl found
  | madeShared forest fresh _ free =>
      refine sound.fresh handle fresh.grows rfl fresh.lt fresh.parentless (by simp)
        fun R r x isPublished => ?_
      rcases (Directory.publishes_publish { ws.directory with forest } valid free R r x).mp
        isPublished with before | ⟨rfl, rfl, rfl⟩
      · exact .inl before
      · exact .inr ⟨rfl, rfl, rfl⟩

/-- Closing a handle keeps a session sound: it withdraws at most its own entry and releases its root. -/
theorem Sound.closeHandle {ws : Workspace} (sound : ws.Sound) (name : String) :
    ((SessionM.step (.close (.handle name))).exec ws).2.Sound := by
  rw [SessionM.exec_closeHandle]
  cases found : ws.handles.get? name with
  | none => exact sound
  | some ctx =>
    dsimp only
    have handles : ∀ (ctx' : NamingContext), ctx'.root = ctx.root → ctx'.registry = ctx.registry →
        ctx'.config.root = ctx.config.root → ∀ name' c,
        (ws.handles.insert name ctx').get? name' = some c → ∃ c₀, ws.handles.get? name' = some c₀ ∧
          c.root = c₀.root ∧ c.registry = c₀.registry ∧ c.config.root = c₀.config.root := by
      intro ctx' root shared rootId name' c inserted
      rw [OrderedMap.get?_insert] at inserted
      split at inserted
      · rename_i same
        cases inserted
        exact ⟨ctx, same ▸ found, root, shared, rootId⟩
      · exact ⟨c, inserted, rfl, rfl, rfl⟩
    unfold NamingContext.close
    split
    · exact sound.of_frame rfl rfl le_rfl (fun _ _ => rfl) (fun _ _ _ found => found)
        (handles ctx rfl rfl rfl)
    · -- The root is released; the entry is withdrawn if it still publishes the root.
      obtain ⟨size, parent⟩ := ws.directory.forest.release_parent ctx.root
      cases shared : ctx.registry with
      | none =>
        exact sound.of_frame rfl rfl size.ge (fun m _ => parent m) (fun _ _ _ found => found)
          (handles _ rfl shared.symm rfl)
      | some R =>
        exact sound.of_frame (by simp) rfl size.ge (fun m _ => parent m)
          (fun R' r' x isPublished => ((Directory.publishes_removeRoot _ R' r' x).mp isPublished).1)
          (handles _ rfl shared.symm rfl)

/-- Closing a kept node keeps a session sound. -/
theorem Sound.closeNode {ws : Workspace} (sound : ws.Sound) (name : String) :
    ((SessionM.step (.close (.node name))).exec ws).2.Sound := by
  rw [SessionM.exec_closeNode]
  cases ws.kept.get? name with
  | none => exact sound
  | some id =>
    obtain ⟨size, parent⟩ := ws.directory.forest.close_parent id
    exact sound.of_forest size parent

/-- Destroying a node keeps a session sound. -/
theorem Sound.destroySubnode {ws : Workspace} (sound : ws.Sound) (target : Target)
    (path : PathArg) : ((SessionM.step (.destroySubnode target path)).exec ws).2.Sound := by
  rw [SessionM.exec_destroySubnode]
  rcases (SessionM.node target).exec ws with ⟨_ | id, _⟩
  · exact sound
  · dsimp only
    cases destroyed : ws.directory.forest.destroySubnode id path with
    | error e => exact sound
    | ok after =>
      obtain ⟨size, parent⟩ := Forest.destroySubnode_parent destroyed
      exact sound.of_forest size parent

/-- Removing a registry entry keeps a session sound. -/
theorem Sound.registryRemove {ws : Workspace} (sound : ws.Sound) (processWide : Bool)
    (rootId : String) : ((SessionM.step (.registryRemove processWide rootId)).exec ws).2.Sound := by
  rw [SessionM.exec_registryRemove]
  exact sound.of_frame (by simp) rfl le_rfl (fun _ _ => rfl)
    (fun R r x isPublished => ((Directory.publishes_remove _ R r x).mp isPublished).1)
    (fun _ ctx found => ⟨ctx, found, rfl, rfl, rfl⟩)

/-- Every step keeps a session sound. -/
theorem Sound.step {ws : Workspace} (sound : ws.Sound) (s : Step) :
    ((SessionM.step s).exec ws).2.Sound := by
  cases ordinary : s.isOrdinary
  case true => exact (SessionM.Grows.step ordinary ws).sound sound
  cases s
  case openHandle handle config sources plain => exact sound.openHandle handle config sources plain
  case destroySubnode target path => exact sound.destroySubnode target path
  case close target =>
    cases target
    · exact sound.closeHandle _
    · exact sound.closeNode _
  case registryRemove processWide rootId => exact sound.registryRemove processWide rootId
  all_goals cases ordinary

/-- The kept nodes do not matter to soundness. -/
theorem Sound.keep {ws : Workspace} (sound : ws.Sound) (kept : OrderedMap NodeId) :
    { ws with kept := kept }.Sound :=
  ⟨sound.processWide_lt, sound.registry_lt, sound.published_lt, sound.published_root,
    sound.published_once, sound.handle_lt, sound.handle_published, sound.private_alone⟩

/-- Every request keeps a session sound. -/
theorem Sound.perform {ws : Workspace} (sound : ws.Sound) (request : Request) :
    (ws.perform request).2.Sound := by
  obtain ⟨kept, performed⟩ := ws.perform_snd request
  rw [performed]
  exact (sound.step request.step).keep kept

/-- The workspaces a session reaches: a fresh one, and whatever a request leaves. -/
inductive Reachable : Workspace → Prop
  | start (conversion : ConversionService) : Reachable (start conversion)
  | perform {ws : Workspace} (request : Request) : Reachable ws → Reachable (ws.perform request).2

/-- Every workspace a session reaches is sound. -/
theorem Reachable.sound {ws : Workspace} (reachable : ws.Reachable) : ws.Sound := by
  induction reachable with
  | start conversion => exact sound_start conversion
  | perform request _ ih => exact ih.perform request

/-- A run reaches what it starts from reaches. -/
theorem Reachable.run {ws : Workspace} (reachable : ws.Reachable) (requests : List Request) :
    (ws.run requests).Reachable := by
  induction requests generalizing ws with
  | nil => exact reachable
  | cons request rest ih => exact ih (reachable.perform request)

end Workspace

end NamingDirectory
