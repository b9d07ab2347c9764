import Mathlib
import NamingDirectory.Proofs.Session.SharedRoots

/-!
A published root is closed only by a request that releases it directly
(`published_roots_close_only_by_direct_release`).
-/

namespace NamingDirectory

namespace Forest

/-- A release closes the node it starts from. -/
theorem release_closes_self (forest : Forest) {id : NodeId} (valid : id < forest.nodes.size) :
    ((forest.release id).get id).closed = true :=
  (forest.release_closed_iff valid id).mpr (.inr .refl)

/-- Destroying the node a path binds succeeds, and closes what releasing that node closes. -/
theorem destroySubnode_of_bound {forest : Forest} {start owner child : NodeId} {path : PathArg}
    {last : String} (opened : forest.openOwner start path "destroy" = .ok (owner, last))
    (bound : (forest.get owner).bindings.get? last = some (.node child)) :
    ∃ after, forest.destroySubnode start path = .ok after ∧
      ∀ n, (after.get n).closed = ((forest.release child).get n).closed := by
  have destroyed : ∃ after, forest.destroySubnode start path = .ok after := by
    unfold destroySubnode
    simp only [opened, bound, Bind.bind, Except.bind]
    split
    · split
      · exact ⟨_, rfl⟩
      · exact ⟨_, rfl⟩
    · exact ⟨_, rfl⟩
  obtain ⟨after, ok⟩ := destroyed
  obtain ⟨owner', last', child', opened', bound', closed⟩ := destroySubnode_closed ok
  rw [opened] at opened'
  cases opened'
  rw [bound] at bound'
  cases bound'
  exact ⟨after, ok, closed⟩

end Forest

/-- Only a registry of the directory publishes anything. -/
theorem Directory.lt_of_publishes {d : Directory} {R : RegistryId} {r : String} {x : NodeId}
    (published : d.Publishes R r x) : R < d.registries.size := by
  by_contra beyond
  simp [Directory.Publishes, Directory.registry, Array.getElem?_eq_none (not_lt.mp beyond),
    SharedRoots.get?] at published

namespace Workspace

/-- Every root a registry publishes is open. -/
def PublishedOpen (ws : Workspace) : Prop :=
  ∀ R r x, ws.directory.Publishes R r x → (ws.directory.forest.get x).closed = false

/-- A request destroys a path bound to a published root, or closes one as a kept node. -/
inductive ReleasesPublished (ws : Workspace) (request : Request) : Prop
  | destroy (target : Target) (path : PathArg) (id owner : NodeId) (last : String) (x : NodeId)
      (R : RegistryId) (r : String) : request.step = .destroySubnode target path →
      (SessionM.node target).exec ws = (.ok id, ws) →
      ws.directory.forest.openOwner id path "destroy" = .ok (owner, last) →
      (ws.directory.forest.get owner).bindings.get? last = some (.node x) →
      ws.directory.Publishes R r x → ReleasesPublished ws request
  | close (name : String) (x : NodeId) (R : RegistryId) (r : String) :
      request.step = .close (.node name) → ws.kept.get? name = some x →
      (ws.directory.forest.get x).config.ignoreClose = false → ws.directory.Publishes R r x →
      ReleasesPublished ws request

/-- A fresh session publishes nothing. -/
theorem publishedOpen_start (conversion : ConversionService) : (start conversion).PublishedOpen := by
  intro R r x published
  simp only [Directory.Publishes, Directory.registry, start, Directory.addRegistry] at published
  rcases R with _ | _ | R <;> simp [SharedRoots.get?] at published

/-- Closing a handle publishes nothing new, and a root still published is as open as it was. -/
theorem Sound.closeHandle_published {ws : Workspace} (sound : ws.Sound) (name : String)
    {R : RegistryId} {r : String} {x : NodeId}
    (published : ((SessionM.step (.close (.handle name))).exec ws).2.directory.Publishes R r x) :
    ws.directory.Publishes R r x ∧
      (((SessionM.step (.close (.handle name))).exec ws).2.directory.forest.get x).closed =
        (ws.directory.forest.get x).closed := by
  rw [SessionM.exec_closeHandle] at published ⊢
  cases found : ws.handles.get? name with
  | none =>
      rw [found] at published
      exact ⟨published, rfl⟩
  | some ctx =>
    rw [found] at published
    dsimp only at published ⊢
    unfold NamingContext.close at published ⊢
    split
    · rename_i kept
      rw [if_pos kept] at published
      exact ⟨published, rfl⟩
    rename_i closing
    rw [if_neg closing] at published
    -- A published handle root is published under its own id, and the close withdrew it.
    cases shared : ctx.registry with
    | none =>
        simp only [shared] at published
        have other : x ≠ ctx.root := fun same => by
          have own := (sound.handle_published name ctx R r found (same ▸ published)).1
          rw [shared] at own
          cases own
        exact ⟨published, by
          rw [ws.directory.forest.release_get_of_root (sound.published_root R r x published) other]⟩
    | some R' =>
        simp only [shared] at published
        obtain ⟨before, notOwn⟩ := (Directory.publishes_removeRoot _ R r x).mp published
        have other : x ≠ ctx.root := fun same => by
          subst same
          obtain ⟨own, rootId⟩ := sound.handle_published name ctx R r found before
          rw [shared] at own
          cases own
          exact notOwn ⟨rfl, rootId.symm, Directory.lt_of_publishes before, rootId ▸ before⟩
        exact ⟨before, by
          show ((ws.directory.forest.release ctx.root).get x).closed = _
          rw [ws.directory.forest.release_get_of_root (sound.published_root R r x before) other]⟩

/-- Growing the forest under the same registries keeps every published root as open as it was. -/
theorem PublishedOpen.of_grows {ws after : Workspace} (isOpen : ws.PublishedOpen)
    (grows : ws.directory.forest.Grows after.directory.forest)
    (registries : after.directory.registries = ws.directory.registries) : after.PublishedOpen := by
  intro R r x published
  rw [grows.closed x]
  exact isOpen R r x ((Directory.publishes_congr registries).mp published)

/-- A request that releases no published root directly keeps every published root open. -/
theorem PublishedOpen.perform {ws : Workspace} (sound : ws.Sound) (isOpen : ws.PublishedOpen)
    {request : Request} (direct : ¬ ws.ReleasesPublished request) :
    (ws.perform request).2.PublishedOpen := by
  obtain ⟨_, performed⟩ := ws.perform_snd request
  rw [performed]
  show ((SessionM.step request.step).exec ws).2.PublishedOpen
  cases ordinary : request.step.isOrdinary
  case true =>
    have grows := SessionM.Grows.step ordinary ws
    exact isOpen.of_grows grows.forest grows.registries
  cases step : request.step with
  | openHandle handle config sources plain =>
      rcases SessionM.exec_openHandle ws handle config sources plain with
        ⟨e, failed⟩ | ⟨b, -, registry, opened⟩
      · rw [failed]
        exact isOpen
      have valid : b.registry.getD Directory.processWide < ws.directory.registries.size :=
        registry ▸ sound.registry_valid plain
      rw [opened]
      have built := ContextBuilder.built b ws.held ws.directory
      generalize (b.build ws.held).exec ws.directory = result at built ⊢
      cases built with
      | refused e => exact isOpen
      | reused root _ _ => exact isOpen
      | failed e forest fresh => exact isOpen.of_grows fresh.grows rfl
      | madePrivate forest fresh _ => exact isOpen.of_grows fresh.grows rfl
      | madeShared forest fresh _ free =>
          intro R r x published
          show (forest.get x).closed = false
          rw [fresh.grows.closed x]
          rcases (Directory.publishes_publish { ws.directory with forest } valid free R r x).mp
            published with before | ⟨-, -, rfl⟩
          · exact isOpen R r x before
          · rw [Forest.get_of_size_le _ le_rfl]
            rfl
  | destroySubnode target path =>
      rw [SessionM.exec_destroySubnode]
      rcases found : (SessionM.node target).exec ws with ⟨_ | id, after⟩
      · exact isOpen
      have same : after = ws := by
        have kept := SessionM.Reads.node target ws
        rw [found] at kept
        exact kept
      subst same
      dsimp only
      cases destroyed : after.directory.forest.destroySubnode id path with
      | error e => exact isOpen
      | ok forest =>
        intro R r x published
        obtain ⟨owner, last, child, opened, bound, closed⟩ := Forest.destroySubnode_closed destroyed
        have other : x ≠ child := fun same =>
          direct (.destroy target path id owner last x R r step found opened (same ▸ bound)
            published)
        show (forest.get x).closed = false
        rw [closed x, after.directory.forest.release_get_of_root
          (sound.published_root R r x published) other]
        exact isOpen R r x published
  | close target =>
      cases target with
      | handle name =>
          intro R r x published
          obtain ⟨before, same⟩ := sound.closeHandle_published name published
          rw [same]
          exact isOpen R r x before
      | node name =>
          rw [SessionM.exec_closeNode]
          cases found : ws.kept.get? name with
          | none => exact isOpen
          | some id =>
            intro R r x published
            show ((ws.directory.forest.close id).get x).closed = false
            unfold Forest.close
            split
            · exact isOpen R r x published
            rename_i closing
            have other : x ≠ id := fun same => by
              subst same
              exact direct (.close name x R r step found (by simpa using closing) published)
            rw [ws.directory.forest.release_get_of_root (sound.published_root R r x published) other]
            exact isOpen R r x published
  | registryRemove processWide rootId =>
      intro R r x published
      rw [SessionM.exec_registryRemove] at published ⊢
      exact isOpen R r x ((Directory.publishes_remove _ R r x).mp published).1
  | _ => simp [step, Step.isOrdinary] at ordinary

/-- A run that releases no published root directly keeps every published root open. -/
theorem PublishedOpen.run {ws : Workspace} (reachable : ws.Reachable) (isOpen : ws.PublishedOpen)
    {requests : List Request} (direct : ws.Avoids ReleasesPublished requests) :
    (ws.run requests).PublishedOpen := by
  revert reachable isOpen
  induction direct with
  | nil => exact fun _ isOpen => isOpen
  | cons avoided _ ih =>
      exact fun reachable isOpen =>
        ih (reachable.perform _) (isOpen.perform reachable.sound avoided)

/-- A request that releases a published root directly closes it and leaves it published. -/
theorem ReleasesPublished.closes {ws : Workspace} (sound : ws.Sound) {request : Request}
    (direct : ws.ReleasesPublished request) :
    ∃ R r x, (ws.perform request).2.directory.Publishes R r x ∧
      ((ws.perform request).2.directory.forest.get x).closed = true := by
  obtain ⟨_, performed⟩ := ws.perform_snd request
  rw [performed]
  cases direct with
  | destroy target path id owner last x R r step found opened bound published =>
      obtain ⟨after, destroyed, closed⟩ := Forest.destroySubnode_of_bound opened bound
      refine ⟨R, r, x, ?_⟩
      rw [step, SessionM.exec_destroySubnode, found]
      dsimp only
      rw [destroyed]
      refine ⟨published, ?_⟩
      show (after.get x).closed = true
      rw [closed x]
      exact ws.directory.forest.release_closes_self (sound.published_lt R r x published)
  | close name x R r step found closing published =>
      refine ⟨R, r, x, ?_⟩
      rw [step, SessionM.exec_closeNode, found]
      refine ⟨published, ?_⟩
      show ((ws.directory.forest.close x).get x).closed = true
      rw [ws.directory.forest.close_eq_release closing]
      exact ws.directory.forest.release_closes_self (sound.published_lt R r x published)

/-- Every run from a fresh session keeps the published roots open, or has a first request that
releases one directly, and it stays published though closed. -/
theorem published_roots_close_only_by_direct_release (conversion : ConversionService)
    (requests : List Request) :
    ((start conversion).run requests).PublishedOpen ∨
      ∃ before request after, requests = before ++ request :: after ∧
        (start conversion).Avoids ReleasesPublished before ∧
        ((start conversion).run before).ReleasesPublished request ∧
        ∃ R r x, ((((start conversion).run before).perform request).2.directory.Publishes R r x ∧
          ((((start conversion).run before).perform request).2.directory.forest.get x).closed =
            true) := by
  rcases avoids_or_first ReleasesPublished (start conversion) requests with
    avoided | ⟨before, request, after, split, avoided, direct⟩
  · exact .inl (PublishedOpen.run (.start conversion) (publishedOpen_start conversion) avoided)
  · have reachable : ((start conversion).run before).Reachable :=
      (Reachable.start conversion).run before
    exact .inr ⟨before, request, after, split, avoided, direct, direct.closes reachable.sound⟩

/-- A shared handle's root, kept as `r`, bound at `x` in a second handle's tree and destroyed there. -/
def poisonedRun : List Request := [
  ⟨.openHandle "h1" { shared := true, root := "r" } [] false, none⟩,
  ⟨.root (.handle "h1"), some "r"⟩,
  ⟨.openHandle "h2" {} [] false, none⟩,
  ⟨.bind (.handle "h2") (.segments ⟨["x"]⟩) (.node "r"), none⟩,
  ⟨.destroySubnode (.handle "h2") (.segments ⟨["x"]⟩), none⟩]

/-- After that run the registry still publishes `h1`'s root under `r`, and the root is closed. -/
theorem destroy_through_other_handle_poisons_registry :
    ((start .standard).run poisonedRun).directory.Publishes 1 "r" 0 ∧
      (((start .standard).run poisonedRun).directory.forest.get 0).closed = true :=
  ⟨rfl, rfl⟩

end Workspace

end NamingDirectory
