import Mathlib
import NamingDirectory.Proofs.Tree.Ensure
import NamingDirectory.Proofs.Tree.Refinement

/-!
Edits on the root run on the forest and on the path map side by side, and agree
(`RootEdit.run_agrees`, `root_edits_refine_path_map`).
-/

namespace NamingDirectory

/-- An edit issued on the root of a tree, with leaf values only. -/
inductive RootEdit where
  | bind (path : PathArg) (v : Value)
  | rebind (path : PathArg) (v : Value)
  | unbind (path : PathArg)
  | createSubnode (path : PathArg)
  | ensureSubnode (path : PathArg)
  | destroySubnode (path : PathArg)

/-- A run and a map edit agree: the same error and no change, or results that refine each other. -/
def Agrees (config : NodeConfig) (root : NodeId) (forest : Forest) :
    Except NamingError (Option NodeId) × Forest →
      Except NamingError (Option (List String) × PathMap) → Prop
  | (.error e, after), .error e' => e = e' ∧ after = forest
  | (.ok node, after), .ok (path, m') =>
      node.map after.name = path.map (pathName config.delimiter.separator) ∧
        Refines config root after m'
  | _, _ => False

/-- A change of the forest and one of the map agree: the same error, or results that refine each other. -/
def ChangeAgrees (config : NodeConfig) (root : NodeId) :
    Except NamingError Forest → Except NamingError PathMap → Prop
  | .ok forest, .ok m => Refines config root forest m
  | .error e, .error e' => e = e'
  | _, _ => False

namespace RootEdit

/-- The edit as the tree runs it on a root: the node it makes or reaches, if any. -/
def run (root : NodeId) : RootEdit → TreeM (Option NodeId)
  | .bind path v => do TreeM.change (·.bind root path (.value v)); pure none
  | .rebind path v => do TreeM.change (·.rebind root path (.value v)); pure none
  | .unbind path => do TreeM.change (·.unbind root path); pure none
  | .createSubnode path => do
    let child ← TreeM.make (·.createSubnode root path)
    pure (some child)
  | .ensureSubnode path => do
    let node ← TreeM.ensureSubnode root path
    pure (some node)
  | .destroySubnode path => do TreeM.change (·.destroySubnode root path); pure none

/-- The edit on the path map: the path of the node it makes or reaches, if any, and the map after. -/
def onMap (delimiter : Delimiter) (m : PathMap) :
    RootEdit → Except NamingError (Option (List String) × PathMap)
  | .bind path v =>
    (m.bind delimiter.separator (path.resolve delimiter).segments v).map (none, ·)
  | .rebind path v =>
    (m.rebind delimiter.separator (path.resolve delimiter).segments v).map (none, ·)
  | .unbind path => (m.unbind delimiter.separator (path.resolve delimiter).segments).map (none, ·)
  | .createSubnode path =>
    (m.createSubnode delimiter.separator (path.resolve delimiter).segments).map
      (some (path.resolve delimiter).segments, ·)
  | .ensureSubnode path =>
    (m.ensureFrom delimiter.separator [] (path.resolve delimiter).segments).map
      (some (path.resolve delimiter).segments, ·)
  | .destroySubnode path =>
    (m.destroySubnode delimiter.separator (path.resolve delimiter).segments).map (none, ·)

/-- The map after an edit: the new one when it succeeds, the old one when it fails. -/
def mapAfter (delimiter : Delimiter) (m : PathMap) (edit : RootEdit) : PathMap :=
  match edit.onMap delimiter m with
  | .ok (_, m') => m'
  | .error _ => m

/-- The forest after edits run on a root one after another, each on what the last one left. -/
def replay (root : NodeId) : Forest → List RootEdit → Forest
  | forest, [] => forest
  | forest, edit :: rest => replay root ((edit.run root).exec forest).2 rest

/-- The map after the same edits. -/
def replayMap (delimiter : Delimiter) : PathMap → List RootEdit → PathMap
  | m, [] => m
  | m, edit :: rest => replayMap delimiter (edit.mapAfter delimiter m) rest

end RootEdit

variable {config : NodeConfig} {root : NodeId} {forest : Forest} {m : PathMap}

/-- A change of the forest agrees with one of the map as an edit that gives no node. -/
theorem agrees_of_change {f : Forest → Except NamingError Forest}
    {result : Except NamingError PathMap} (agree : ChangeAgrees config root (f forest) result) :
    Agrees config root forest
      ((do TreeM.change f; pure none : TreeM (Option NodeId)).exec forest)
      (result.map (none, ·)) := by
  rw [TreeM.exec_bind, TreeM.exec_change]
  cases outcome : f forest <;> cases result <;>
    simp_all [ChangeAgrees, Agrees, Except.map]

namespace Refines

/-- Binding a value at a path of the root agrees with binding it in the map. -/
theorem bind_agrees (refines : Refines config root forest m) (path : PathArg) (v : Value) :
    ChangeAgrees config root (forest.bind root path (.value v))
      (m.bind config.delimiter.separator (path.resolve config.delimiter).segments v) := by
  rcases refines.openOwner_cases path "bind" with
    ⟨empty, opened⟩ | ⟨dir, segment, e, whole, walked, opened⟩ |
      ⟨dir, segment, o, whole, walked, opened, found⟩
  · simp [Forest.bind, opened, PathMap.bind, empty, ChangeAgrees, Bind.bind, Except.bind]
  · simp [Forest.bind, opened, PathMap.bind, whole, walked, ChangeAgrees, Bind.bind, Except.bind]
  · have describes := refines.describes dir o found
    have bound := describes.isSome_get_concat segment
    by_cases present : (forest.get o).bindings.contains segment = true
    · simp [Forest.bind, opened, present, PathMap.bind, whole, walked, bound, describes.compose,
        ChangeAgrees, Bind.bind, Except.bind]
    · have absent : m.get (dir ++ [segment]) = none := by
        rw [← Option.not_isSome_iff_eq_none, bound]
        exact present
      simp [Forest.bind, opened, present, PathMap.bind, whole, walked, absent, ChangeAgrees,
        Bind.bind, Except.bind]
      rw [← m.put_of_absent _ absent]
      exact refines.setValue found segment v

/-- Rebinding a value at a path of the root agrees with putting it in the map. -/
theorem rebind_agrees (refines : Refines config root forest m) (path : PathArg) (v : Value) :
    ChangeAgrees config root (forest.rebind root path (.value v))
      (m.rebind config.delimiter.separator (path.resolve config.delimiter).segments v) := by
  rcases refines.openOwner_cases path "rebind" with
    ⟨empty, opened⟩ | ⟨dir, segment, e, whole, walked, opened⟩ |
      ⟨dir, segment, o, whole, walked, opened, found⟩
  · simp [Forest.rebind, opened, PathMap.rebind, empty, ChangeAgrees, Bind.bind, Except.bind]
  · simp [Forest.rebind, opened, PathMap.rebind, whole, walked, ChangeAgrees, Bind.bind,
      Except.bind]
  · simp [Forest.rebind, opened, PathMap.rebind, whole, walked, ChangeAgrees, Bind.bind,
      Except.bind]
    exact refines.setValue found segment v

/-- Unbinding a path of the root agrees with dropping it from the map. -/
theorem unbind_agrees (refines : Refines config root forest m) (path : PathArg) :
    ChangeAgrees config root (forest.unbind root path)
      (m.unbind config.delimiter.separator (path.resolve config.delimiter).segments) := by
  rcases refines.openOwner_cases path "unbind" with
    ⟨empty, opened⟩ | ⟨dir, segment, e, whole, walked, opened⟩ |
      ⟨dir, segment, o, whole, walked, opened, found⟩
  · simp [Forest.unbind, opened, PathMap.unbind, empty, ChangeAgrees, Bind.bind, Except.bind]
  · simp [Forest.unbind, opened, PathMap.unbind, whole, walked, ChangeAgrees, Bind.bind,
      Except.bind]
  · have describes := refines.describes dir o found
    have bound := describes.isSome_get_concat segment
    by_cases present : (forest.get o).bindings.contains segment = true
    · simp [Forest.unbind, opened, present, PathMap.unbind, whole, walked, bound, ChangeAgrees,
        Bind.bind, Except.bind]
      exact refines.eraseBinding found segment
    · simp [Forest.unbind, opened, present, PathMap.unbind, whole, walked, bound,
        describes.compose, ChangeAgrees, Bind.bind, Except.bind]

/-- Destroying the node at a path of the root agrees with dropping the directory from the map. -/
theorem destroySubnode_agrees (refines : Refines config root forest m) (path : PathArg) :
    ChangeAgrees config root (forest.destroySubnode root path)
      (m.destroySubnode config.delimiter.separator (path.resolve config.delimiter).segments) := by
  rcases refines.openOwner_cases path "destroy" with
    ⟨empty, opened⟩ | ⟨dir, segment, e, whole, walked, opened⟩ |
      ⟨dir, segment, o, whole, walked, opened, found⟩
  · simp [Forest.destroySubnode, opened, PathMap.destroySubnode, empty, ChangeAgrees, Bind.bind,
      Except.bind]
  · simp [Forest.destroySubnode, opened, PathMap.destroySubnode, whole, walked, ChangeAgrees,
      Bind.bind, Except.bind]
  · have describes := refines.describes dir o found
    have slot := describes.get_concat segment
    cases bound : (forest.get o).bindings.get? segment with
    | none =>
        simp [Forest.destroySubnode, opened, bound, PathMap.destroySubnode, whole, walked, slot,
          describes.compose, ChangeAgrees, Bind.bind, Except.bind]
    | some b =>
        cases b with
        | value v =>
            simp [Forest.destroySubnode, opened, bound, PathMap.destroySubnode, whole, walked,
              slot, Bound.slot, describes.compose, ChangeAgrees, Bind.bind, Except.bind]
        | node child =>
            have foundChild : forest.find root (dir ++ [segment]) = some (.node child) := by
              rw [Forest.find_concat, found]
              simpa [Bound.node?] using bound
            have kept :=
              refines.release_get foundChild dir o found (concat_not_prefix_self dir segment)
            simp [Forest.destroySubnode, opened, bound, kept, PathMap.destroySubnode, whole,
              walked, slot, Bound.slot, ChangeAgrees, Bind.bind, Except.bind]
            exact refines.release found bound

/-- Making a node at a path of the root agrees with adding the directory to the map. -/
theorem createSubnode_agrees (refines : Refines config root forest m) (path : PathArg) :
    Agrees config root forest (((RootEdit.createSubnode path).run root).exec forest)
      ((RootEdit.createSubnode path).onMap config.delimiter m) := by
  simp only [RootEdit.run, RootEdit.onMap, TreeM.exec_bind, TreeM.exec_make]
  rcases refines.openOwner_cases path "create" with
    ⟨empty, opened⟩ | ⟨dir, segment, e, whole, walked, opened⟩ |
      ⟨dir, segment, o, whole, walked, opened, found⟩
  · simp [Forest.createSubnode, opened, PathMap.createSubnode, empty, Agrees, Bind.bind,
      Except.bind, Except.map]
  · simp [Forest.createSubnode, opened, PathMap.createSubnode, whole, walked, Agrees, Bind.bind,
      Except.bind, Except.map]
  · have describes := refines.describes dir o found
    have bound := describes.isSome_get_concat segment
    by_cases present : (forest.get o).bindings.contains segment = true
    · simp [Forest.createSubnode, opened, present, PathMap.createSubnode, whole, walked, bound,
        describes.compose, Agrees, Bind.bind, Except.bind, Except.map]
    · have absent : m.get (dir ++ [segment]) = none := by
        rw [← Option.not_isSome_iff_eq_none, bound]
        exact present
      have unbound : (forest.get o).bindings.get? segment = none := by
        simpa [OrderedMap.contains_eq_isSome] using present
      obtain ⟨grown, foundNew⟩ := refines.addChild found unbound
      simp [Forest.createSubnode, opened, present, PathMap.createSubnode, whole, walked, absent,
        Agrees, Bind.bind, Except.bind, Except.map]
      exact ⟨congrArg some (grown.describes _ _ foundNew).name, grown⟩

/-- Making the missing nodes of a path from a node found at `done` agrees with the map's walk. -/
theorem ensureSegments_agrees (refines : Refines config root forest m) {done : List String}
    {n : NodeId} (found : forest.find root done = some (.node n)) (rest : List String) :
    (∀ e, m.ensureFrom config.delimiter.separator done rest = .error e →
      (TreeM.ensureSegments n rest).exec forest = (.error e, forest)) ∧
    (∀ m', m.ensureFrom config.delimiter.separator done rest = .ok m' →
      ∃ n' after, (TreeM.ensureSegments n rest).exec forest = (.ok n', after) ∧
        after.find root (done ++ rest) = some (.node n') ∧ Refines config root after m') := by
  induction rest generalizing forest m done n with
  | nil =>
      refine ⟨fun e failed => ?_, fun m' made => ?_⟩
      · simp [PathMap.ensureFrom, pure, Except.pure] at failed
      simp only [PathMap.ensureFrom, pure, Except.pure, Except.ok.injEq] at made
      subst made
      exact ⟨n, forest, rfl, by simpa using found, refines⟩
  | cons segment rest ih =>
      have describes := refines.describes done n found
      have slot := describes.get_concat segment
      rw [exec_ensureSegments_cons forest segment rest describes.isOpen]
      cases bound : (forest.get n).bindings.get? segment with
      | none =>
          have absent : m.get (done ++ [segment]) = none := by rw [slot, bound]; rfl
          simp only [PathMap.ensureFrom, absent]
          obtain ⟨grown, foundNew⟩ := refines.addChild found bound
          refine ⟨fun e failed => ?_, fun m' made => ?_⟩
          · -- Below a directory just made nothing is bound, so the rest is made without fail.
            have vacant : ∀ more, more ≠ [] →
                (m.append done segment .dir).get (done ++ [segment] ++ more) = none := by
              intro more nonempty
              rw [PathMap.get_append .dir absent, if_neg (by simpa using nonempty)]
              exact refines.wellFormed.get_append_eq_none absent (by simp) more
            obtain ⟨_, ok⟩ := (m.append done segment .dir).ensureFrom_ok_of_vacant
              config.delimiter.separator vacant rest
            rw [ok] at failed
            cases failed
          · obtain ⟨n', after, ran, reached, refinesAfter⟩ := (ih grown foundNew).2 m' made
            exact ⟨n', after, ran, by simpa using reached, refinesAfter⟩
      | some b =>
          cases b with
          | value v =>
              have leaf : m.get (done ++ [segment]) = some (.leaf v) := by rw [slot, bound]; rfl
              simp only [PathMap.ensureFrom, leaf]
              refine ⟨fun e failed => ?_, fun m' made => by cases made⟩
              cases failed
              simp [describes.compose]
          | node child =>
              have dir : m.get (done ++ [segment]) = some .dir := by rw [slot, bound]; rfl
              have next : forest.find root (done ++ [segment]) = some (.node child) := by
                rw [Forest.find_concat, found]
                simpa [Bound.node?] using bound
              simp only [PathMap.ensureFrom, dir]
              obtain ⟨failing, made⟩ := ih refines next
              refine ⟨failing, fun m' ok => ?_⟩
              obtain ⟨n', after, ran, reached, refinesAfter⟩ := made m' ok
              exact ⟨n', after, ran, by simpa using reached, refinesAfter⟩

/-- Reaching a path of the root, making what is missing, agrees with the map's walk. -/
theorem ensureSubnode_agrees (refines : Refines config root forest m) (path : PathArg) :
    Agrees config root forest (((RootEdit.ensureSubnode path).run root).exec forest)
      ((RootEdit.ensureSubnode path).onMap config.delimiter m) := by
  obtain ⟨failing, made⟩ :=
    refines.ensureSegments_agrees (forest.find_nil root) (path.resolve config.delimiter).segments
  simp only [RootEdit.run, RootEdit.onMap, TreeM.ensureSubnode, TreeM.exec_bind, TreeM.exec_get,
    refines.resolve_root]
  cases result : m.ensureFrom config.delimiter.separator [] (path.resolve config.delimiter).segments
    with
  | error e => simp [failing e result, Agrees, Except.map]
  | ok m' =>
      obtain ⟨n', after, ran, reached, refinesAfter⟩ := made m' result
      simp only [ran, Agrees, Except.map, TreeM.exec_pure, Option.map_some]
      exact ⟨congrArg some (refinesAfter.describes _ _ (by simpa using reached)).name, refinesAfter⟩

/-- Every edit on the root agrees with the same edit of the map. -/
theorem run_agrees (refines : Refines config root forest m) (edit : RootEdit) :
    Agrees config root forest ((edit.run root).exec forest) (edit.onMap config.delimiter m) := by
  cases edit with
  | bind path v => exact agrees_of_change (refines.bind_agrees path v)
  | rebind path v => exact agrees_of_change (refines.rebind_agrees path v)
  | unbind path => exact agrees_of_change (refines.unbind_agrees path)
  | createSubnode path => exact refines.createSubnode_agrees path
  | ensureSubnode path => exact refines.ensureSubnode_agrees path
  | destroySubnode path => exact agrees_of_change (refines.destroySubnode_agrees path)

/-- After an edit, the forest refines the map after the same edit. -/
theorem run (refines : Refines config root forest m) (edit : RootEdit) :
    Refines config root ((edit.run root).exec forest).2 (edit.mapAfter config.delimiter m) := by
  have agree := refines.run_agrees edit
  unfold RootEdit.mapAfter
  revert agree
  generalize (edit.run root).exec forest = outcome
  generalize edit.onMap config.delimiter m = result
  rcases outcome with ⟨_ | node, after⟩ <;> rcases result with _ | ⟨path, m'⟩ <;>
    simp only [Agrees, false_implies]
  · rintro ⟨-, rfl⟩
    exact refines
  · exact fun agree => agree.2

/-- After any edits, the forest refines the map after the same edits. -/
theorem replay (refines : Refines config root forest m) (history : List RootEdit) :
    Refines config root (RootEdit.replay root forest history)
      (RootEdit.replayMap config.delimiter m history) := by
  induction history generalizing forest m with
  | nil => exact refines
  | cons edit rest ih => exact ih (refines.run edit)

/-- A lookup from the root fails as the abstract lookup does, or gives what the path leads to. -/
theorem lookup_cases (refines : Refines config root forest m) (path : PathArg) :
    (∃ e, forest.lookup root path = .error e ∧
      m.lookup config.delimiter.separator (path.resolve config.delimiter).segments = .error e) ∨
    (∃ b, forest.lookup root path = .ok b ∧
      forest.find root (path.resolve config.delimiter).segments = some b ∧
      m.lookup config.delimiter.separator (path.resolve config.delimiter).segments = .ok b.slot) := by
  rcases refines.directory_cases (path.resolve config.delimiter).segments with
    empty | ⟨dir, segment, e, whole, walked, walkedTo⟩ | ⟨dir, segment, o, whole, walked, walkedTo, found⟩
  · refine .inr ⟨.node root, ?_, by simp [empty], by simp [PathMap.lookup, empty, Bound.slot, pure,
      Except.pure]⟩
    simp [Forest.lookup, refines.resolve_root, Name.last?, empty,
      (refines.describes [] root (forest.find_nil root)).isOpen]
  · refine .inl ⟨e, ?_, ?_⟩
    · simp [Forest.lookup, refines.resolve_root, Name.last?, Name.parent_segments, whole, walkedTo,
        Bind.bind, Except.bind]
    · simp [PathMap.lookup, whole, walked, Bind.bind, Except.bind]
  · have describes := refines.describes dir o found
    have slot := describes.get_concat segment
    cases bound : (forest.get o).bindings.get? segment with
    | none =>
        refine .inl ⟨.notFound (pathName config.delimiter.separator (dir ++ [segment])), ?_, ?_⟩
        · simp [describes.compose, Forest.lookup, refines.resolve_root, Name.last?, Name.parent_segments, whole,
            walkedTo, describes.isOpen, bound, Bind.bind, Except.bind]
        · simp [PathMap.lookup, whole, walked, slot, bound, Bind.bind, Except.bind]
    | some b =>
        refine .inr ⟨b, ?_, ?_, ?_⟩
        · simp [Forest.lookup, refines.resolve_root, Name.last?, Name.parent_segments, whole,
            walkedTo, describes.isOpen, bound, Bind.bind, Except.bind]
        · rw [whole, Forest.find_concat, found]
          simpa [Bound.node?] using bound
        · simp [PathMap.lookup, whole, walked, slot, bound, Bind.bind, Except.bind, pure,
            Except.pure]

/-- The node a path of the root leads to is open and found at the path, or the walk fails alike. -/
theorem openNodeAt_cases (refines : Refines config root forest m) (path : PathArg) :
    (∃ e, forest.openNodeAt root path = .error e ∧
      m.walk config.delimiter.separator (path.resolve config.delimiter).segments = .error e) ∨
    (∃ n, forest.openNodeAt root path = .ok n ∧
      forest.find root (path.resolve config.delimiter).segments = some (.node n) ∧
      m.walk config.delimiter.separator (path.resolve config.delimiter).segments = .ok ()) := by
  cases walked : m.walk config.delimiter.separator (path.resolve config.delimiter).segments with
  | error e =>
      refine .inl ⟨e, ?_, rfl⟩
      simp [Forest.openNodeAt, refines.resolve_root, refines.walk_root_error walked, Bind.bind,
        Except.bind]
  | ok _ =>
      obtain ⟨n, walkedTo, found⟩ := refines.walk_root_ok walked
      refine .inr ⟨n, ?_, found, rfl⟩
      simp [Forest.openNodeAt, refines.resolve_root, walkedTo, (refines.describes _ n found).isOpen,
        Bind.bind, Except.bind]

/-- A lookup from the root gives what the map holds at the path, or fails as the map does. -/
theorem lookup_eq (refines : Refines config root forest m) (path : PathArg) :
    (forest.lookup root path).map Bound.slot =
      m.lookup config.delimiter.separator (path.resolve config.delimiter).segments := by
  rcases refines.lookup_cases path with ⟨e, looked, abstract⟩ | ⟨b, looked, -, abstract⟩
  · rw [looked, abstract]
    rfl
  · rw [looked, abstract]
    rfl

/-- A value lookup from the root answers as the map does, naming a node by its path. -/
theorem lookupValue_eq (refines : Refines config root forest m) (path : PathArg) :
    forest.lookupValue root path =
      m.lookupValue config.delimiter.separator (path.resolve config.delimiter).segments := by
  rcases refines.lookup_cases path with ⟨e, looked, abstract⟩ | ⟨b, looked, foundAt, abstract⟩
  · simp [Forest.lookupValue, PathMap.lookupValue, looked, abstract, Bind.bind, Except.bind]
  · cases b with
    | value v =>
        simp [Forest.lookupValue, PathMap.lookupValue, looked, abstract, Bound.slot, Bind.bind,
          Except.bind, pure, Except.pure]
    | node n =>
        simp [Forest.lookupValue, PathMap.lookupValue, looked, abstract, Bound.slot,
          (refines.describes _ n foundAt).name, Bind.bind, Except.bind]

/-- Listing a path of the root gives the names of the directory's children in order. -/
theorem list_eq (refines : Refines config root forest m) (path : PathArg) :
    forest.list root path =
      m.list config.delimiter.separator (path.resolve config.delimiter).segments := by
  rcases refines.openNodeAt_cases path with ⟨e, opened, walked⟩ | ⟨n, opened, found, walked⟩
  · simp [Forest.list, opened, PathMap.list, walked, Except.map, Bind.bind, Except.bind]
  · have children := (refines.describes _ n found).children
    simp [Forest.list, opened, PathMap.list, walked, Except.map, Bind.bind, Except.bind, pure,
      Except.pure, ← children, OrderedMap.slots, OrderedMap.keys]

/-- Listing the bindings of a path of the root gives the directory's children in order. -/
theorem listBindings_eq (refines : Refines config root forest m) (path : PathArg) :
    (forest.listBindings root path).map (List.map fun entry => (entry.1, entry.2.slot)) =
      m.listBindings config.delimiter.separator (path.resolve config.delimiter).segments := by
  rcases refines.openNodeAt_cases path with ⟨e, opened, walked⟩ | ⟨n, opened, found, walked⟩
  · simp [Forest.listBindings, opened, PathMap.listBindings, walked, Except.map, Bind.bind,
      Except.bind]
  · have children := (refines.describes _ n found).children
    simp [Forest.listBindings, opened, PathMap.listBindings, walked, Except.map, Bind.bind,
      Except.bind, pure, Except.pure, ← children, OrderedMap.slots]

end Refines

/-- Edits on a fresh root refine the ordered path map, so every further edit, lookup and listing on
the root answers as the map does. -/
theorem root_edits_refine_path_map (forest : Forest) (config : NodeConfig)
    (history : List RootEdit) (edit : RootEdit) (path : PathArg) :
    let root := forest.nodes.size
    let tree := RootEdit.replay root (forest.addRoot config).2 history
    let m := RootEdit.replayMap config.delimiter PathMap.empty history
    let segments := (path.resolve config.delimiter).segments
    Agrees config root tree ((edit.run root).exec tree) (edit.onMap config.delimiter m) ∧
      (tree.lookup root path).map Bound.slot = m.lookup config.delimiter.separator segments ∧
      tree.lookupValue root path = m.lookupValue config.delimiter.separator segments ∧
      tree.list root path = m.list config.delimiter.separator segments ∧
      (tree.listBindings root path).map (List.map fun entry => (entry.1, entry.2.slot)) =
        m.listBindings config.delimiter.separator segments := by
  intro root tree m segments
  have refines := (refines_addRoot forest config).replay history
  exact ⟨refines.run_agrees edit, refines.lookup_eq path, refines.lookupValue_eq path,
    refines.list_eq path, refines.listBindings_eq path⟩

end NamingDirectory
