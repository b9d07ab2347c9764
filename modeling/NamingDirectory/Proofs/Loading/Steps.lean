import Mathlib
import NamingDirectory.Loading
import NamingDirectory.Proofs.Loading.Order
import NamingDirectory.Proofs.Tree.Ensure

/-!
Loading runs one all-or-nothing step per leaf, then per typed entry
(`load_runs_all_or_nothing_steps`).
-/

namespace NamingDirectory

namespace TreeM

/-- What a step failed with, if it failed. -/
def failure : Except NamingError Unit → Option NamingError
  | .ok () => none
  | .error e => some e

/-- Runs steps one after another, each on the forest the one before left, with what each failed with. -/
def runEach : List (TreeM Unit) → Forest → List (Option NamingError) × Forest
  | [], forest => ([], forest)
  | step :: rest, forest =>
    let next := runEach rest (step.exec forest).2
    (failure (step.exec forest).1 :: next.1, next.2)

theorem runEach_append (first second : List (TreeM Unit)) (forest : Forest) :
    runEach (first ++ second) forest =
      ((runEach first forest).1 ++ (runEach second (runEach first forest).2).1,
        (runEach second (runEach first forest).2).2) := by
  induction first generalizing forest with
  | nil => rfl
  | cons step rest ih => simp [runEach, ih]

/-- An attempted step fails never: it gives what the step failed with. -/
theorem exec_attempt (step : TreeM Unit) (forest : Forest) :
    (Loader.attempt step).exec forest =
      (.ok (failure (step.exec forest).1), (step.exec forest).2) := by
  unfold Loader.attempt TreeM.exec
  rw [ExceptT.run_tryCatch, ExceptT.run_bind, StateT.run_bind, StateT.run_bind]
  generalize StateT.run (ExceptT.run step) forest = outcome
  rcases outcome with ⟨_ | _, after⟩ <;> rfl

/-- Attempting a step for each item runs the steps in order. -/
theorem exec_mapM_attempt {β : Type} (steps : β → TreeM Unit)
    (tries : β → TreeM (Option NamingError)) (tried : ∀ x, tries x = Loader.attempt (steps x))
    (xs : List β) (forest : Forest) :
    (xs.mapM tries).exec forest =
      (.ok (runEach (xs.map steps) forest).1, (runEach (xs.map steps) forest).2) := by
  induction xs generalizing forest with
  | nil => rfl
  | cons x rest ih =>
      rw [List.mapM_cons, exec_bind, tried, exec_attempt]
      simp only [exec_bind, ih, exec_pure, List.map_cons, runEach]

end TreeM

/-- A name with a last segment is its parent followed by that segment. -/
theorem Name.segments_of_last? {name : Name} {segment : String}
    (last : name.last? = some segment) :
    name.segments = name.parent.segments ++ [segment] := by
  rw [Name.parent_segments]
  exact (List.dropLast_append_getLast? segment last).symm

/-- A name with no last segment is empty, and an empty path is never ready. -/
theorem Forest.not_ready_of_last? {forest : Forest} {start : NodeId} {name : Name}
    (last : name.last? = none) : ¬ forest.Ready start name.segments :=
  fun ready => ready.1 (List.getLast?_eq_none_iff.mp last)

namespace Loader

/-- A set with no key that is the type key alone declares no type for the whole set. -/
theorem namespaceType?_eq_none {records : Records} {delimiter : Delimiter}
    (untyped : ∀ entry ∈ records.entries,
      (Name.parse entry.1 delimiter).segments ≠ [typeKey]) :
    Classification.namespaceType? records delimiter = none := by
  obtain ⟨entries⟩ := records
  unfold Classification.namespaceType?
  induction entries with
  | nil => rfl
  | cons entry rest ih =>
      obtain ⟨key, value⟩ := entry
      have here : ((Name.parse key delimiter).segments == [typeKey]) = false := by
        simpa using untyped (key, value) List.mem_cons_self
      rw [List.foldl_cons]
      simp only [here, Bool.false_eq_true, ↓reduceIte]
      exact ih fun e mem => untyped e (List.mem_cons_of_mem _ mem)

theorem classify_whole {records : Records} {delimiter : Delimiter}
    (untyped : Classification.namespaceType? records delimiter = none) :
    (classify records delimiter).whole = none := by
  simp [classify, untyped]

/-- Loading a set with no whole typed value runs a step per leaf, then per typed entry. -/
theorem exec_load (loader : Loader) (held : List NodeId) (records : Records) (target : NodeId)
    (forest : Forest) (whole : (classify records (forest.delimiter target)).whole = none) :
    let sorted := classify records (forest.delimiter target)
    let run := TreeM.runEach
      (sorted.leaves.map (fun leaf => bindLeaf target leaf.1 leaf.2) ++
        sorted.descriptors.map (loader.bindDescriptor target)) forest
    (loader.load held records target).exec forest =
      ((match run.1.filterMap id with
        | first :: _ => .error first
        | [] => .ok ()), run.2) := by
  intro sorted run
  simp only [run, sorted]
  have leaves := TreeM.exec_mapM_attempt
    (fun leaf : Name × RecordValue => bindLeaf target leaf.1 leaf.2)
    (fun leaf : Name × RecordValue => attempt (bindLeaf target leaf.1 leaf.2)) (fun _ => rfl)
    (classify records (forest.delimiter target)).leaves
  have typed := TreeM.exec_mapM_attempt (loader.bindDescriptor target)
    (fun d : TypeDescriptor => attempt (loader.bindDescriptor target d)) (fun _ => rfl)
    (classify records (forest.delimiter target)).descriptors
  unfold load
  rw [TreeM.exec_get_bind]
  simp only [whole]
  simp only [TreeM.exec_bind, leaves, typed, TreeM.runEach_append]
  cases (List.filterMap id _) <;> rfl

/-- A leaf's step binds its value exactly when its path is ready; a failure changes nothing. -/
theorem exec_bindLeaf {forest : Forest} (exist : forest.NodesExist) {target : NodeId}
    (valid : target < forest.nodes.size) (name : Name) (value : RecordValue) :
    (forest.Ready target name.segments → ∃ after,
      (bindLeaf target name value).exec forest = (.ok (), after) ∧
        BindsAt forest target name.segments (leafValue value) after) ∧
    (¬ forest.Ready target name.segments → ∃ e,
      (bindLeaf target name value).exec forest = (.error e, forest)) := by
  unfold bindLeaf
  rw [TreeM.exec_bind, TreeM.exec_ask]
  cases last : name.last? with
  | none =>
      simp only [lastSegment, last]
      exact ⟨fun ready => absurd ready (Forest.not_ready_of_last? last), fun _ => ⟨_, rfl⟩⟩
  | some segment =>
      simp only [lastSegment, last]
      rw [Name.segments_of_last? last]
      exact exec_ensure_bind exist valid name.parent segment (leafValue value)

/-- A typed entry's step binds its value exactly when it converts and its path is ready. -/
theorem exec_bindDescriptor (loader : Loader) {forest : Forest} (exist : forest.NodesExist)
    {target : NodeId} (valid : target < forest.nodes.size) (d : TypeDescriptor) :
    (∀ v, loader.conversion.convert d = .ok v →
      (forest.Ready target d.path.segments → ∃ after,
        (loader.bindDescriptor target d).exec forest = (.ok (), after) ∧
          BindsAt forest target d.path.segments v after) ∧
      (¬ forest.Ready target d.path.segments → ∃ e,
        (loader.bindDescriptor target d).exec forest = (.error e, forest))) ∧
    (∀ e, loader.conversion.convert d = .error e → ∃ e',
      (loader.bindDescriptor target d).exec forest = (.error e', forest)) := by
  unfold bindDescriptor
  rw [TreeM.exec_bind, TreeM.exec_ask]
  cases last : d.path.last? with
  | none =>
      simp only [lastSegment, last]
      exact ⟨fun _ _ => ⟨fun ready => absurd ready (Forest.not_ready_of_last? last),
        fun _ => ⟨_, rfl⟩⟩, fun _ _ => ⟨_, rfl⟩⟩
  | some segment =>
      simp only [lastSegment, last]
      rw [TreeM.exec_bind, TreeM.exec_ask]
      refine ⟨fun v converted => ?_, fun e failed => ?_⟩
      · simp only [converted]
        rw [Name.segments_of_last? last]
        exact exec_ensure_bind exist valid d.path.parent segment v
      · simp only [failed]
        exact ⟨e, rfl⟩

/-- A load runs a step per leaf, then per typed entry, each binding exactly when its path is ready. -/
structure LoadsStepByStep (loader : Loader) (held : List NodeId) (records : Records)
    (target : NodeId) (forest : Forest) : Prop where
  runs :
    let sorted := classify records (forest.delimiter target)
    let run := TreeM.runEach
      (sorted.leaves.map (fun leaf => bindLeaf target leaf.1 leaf.2) ++
        sorted.descriptors.map (loader.bindDescriptor target)) forest
    (loader.load held records target).exec forest =
      ((match run.1.filterMap id with
        | first :: _ => .error first
        | [] => .ok ()), run.2)
  leavesInOrder : (classify records (forest.delimiter target)).leaves.Sublist
    (records.entries.map fun entry => (Name.parse entry.1 (forest.delimiter target), entry.2))
  typedInOrder : (classify records (forest.delimiter target)).descriptors.map (·.path) =
    records.typedPaths (forest.delimiter target)
  leafStep : ∀ mid : Forest, mid.NodesExist → target < mid.nodes.size →
    ∀ leaf ∈ (classify records (forest.delimiter target)).leaves,
      (mid.Ready target leaf.1.segments → ∃ after,
        (bindLeaf target leaf.1 leaf.2).exec mid = (.ok (), after) ∧
          BindsAt mid target leaf.1.segments (leafValue leaf.2) after) ∧
      (¬ mid.Ready target leaf.1.segments → ∃ e,
        (bindLeaf target leaf.1 leaf.2).exec mid = (.error e, mid))
  typedStep : ∀ mid : Forest, mid.NodesExist → target < mid.nodes.size →
    ∀ d ∈ (classify records (forest.delimiter target)).descriptors,
      (∀ v, loader.conversion.convert d = .ok v →
        (mid.Ready target d.path.segments → ∃ after,
          (loader.bindDescriptor target d).exec mid = (.ok (), after) ∧
            BindsAt mid target d.path.segments v after) ∧
        (¬ mid.Ready target d.path.segments → ∃ e,
          (loader.bindDescriptor target d).exec mid = (.error e, mid))) ∧
      ∀ e, loader.conversion.convert d = .error e → ∃ e',
        (loader.bindDescriptor target d).exec mid = (.error e', mid)

/-- Records with no key that is the type key alone load step by step, each step all or nothing. -/
theorem load_runs_all_or_nothing_steps (loader : Loader) (held : List NodeId)
    (records : Records) (target : NodeId) (forest : Forest)
    (untyped : ∀ entry ∈ records.entries,
      (Name.parse entry.1 (forest.delimiter target)).segments ≠ [typeKey]) :
    LoadsStepByStep loader held records target forest where
  runs := exec_load loader held records target forest
    (classify_whole (namespaceType?_eq_none untyped))
  leavesInOrder := classify_leaves_sublist records (forest.delimiter target)
  typedInOrder := classify_descriptor_paths (namespaceType?_eq_none untyped)
  leafStep _ exist valid leaf _ := exec_bindLeaf exist valid leaf.1 leaf.2
  typedStep _ exist valid d _ := exec_bindDescriptor loader exist valid d

/-- A fresh root, to load into. -/
def sampleRoot : Forest := (({} : Forest).addRoot {}).2

/-- One plain leaf two segments deep. -/
def sampleLeaf : Records := ⟨[("a.b", .single "1")]⟩

theorem load_of_one_leaf_runs_stepwise :
    (∀ entry ∈ sampleLeaf.entries,
      (Name.parse entry.1 (sampleRoot.delimiter 0)).segments ≠ [typeKey]) ∧
    LoadsStepByStep {} [] sampleLeaf 0 sampleRoot :=
  have untyped : ∀ entry ∈ sampleLeaf.entries,
      (Name.parse entry.1 (sampleRoot.delimiter 0)).segments ≠ [typeKey] := by
    decide +kernel
  ⟨untyped, load_runs_all_or_nothing_steps {} [] sampleLeaf 0 sampleRoot untyped⟩

end Loader

end NamingDirectory
