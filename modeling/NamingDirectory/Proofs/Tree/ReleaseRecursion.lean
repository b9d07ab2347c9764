import Mathlib
import NamingDirectory.Proofs.Tree.Teardown

/-!
Releasing a node ends on every forest, cycles included, since it closes a node before it releases
what is bound there (`release_terminates_by_closing_first`).
-/

namespace NamingDirectory

namespace Forest

/-- The forest with one node closed and emptied, as releasing it begins. -/
def cleared (forest : Forest) (id : NodeId) : Forest :=
  forest.update id fun n => { n with closed := true, bindings := .empty }

/-- One step of releasing `id`: a node made under `id` is released by `recurse`, the rest passed over. -/
def releaseStep (id : NodeId) (recurse : Forest → NodeId → Forest) (acc : Forest) :
    String × Bound → Forest
  | (_, .node child) => if (acc.get child).parent == some id then recurse acc child else acc
  | (_, .value _) => acc

theorem releaseWith_succ (fuel : Nat) (forest : Forest) (id : NodeId) :
    forest.releaseWith (fuel + 1) id =
      if (forest.get id).closed then forest
      else (forest.get id).bindings.entries.foldl (releaseStep id (releaseWith fuel))
        (forest.cleared id) := by
  simp only [releaseWith]
  split
  · rfl
  · -- The pass over the bindings takes `releaseStep` entry by entry.
    refine congrArg (fun step => List.foldl step (forest.cleared id) _)
      (funext fun acc => funext fun entry => ?_)
    obtain ⟨_, bound⟩ := entry
    cases bound <;> rfl

/-- A node that holds a binding is one of the forest's nodes. -/
theorem lt_of_mem_entries {forest : Forest} {id : NodeId} {entry : String × Bound}
    (mem : entry ∈ (forest.get id).bindings.entries) : id < forest.nodes.size := by
  by_contra beyond
  rw [get_of_size_le forest (Nat.le_of_not_lt beyond)] at mem
  cases mem

/-- Closing an open node of the forest leaves fewer open nodes. -/
theorem card_openNodes_cleared {forest : Forest} {id : NodeId} (valid : id < forest.nodes.size)
    (isOpen : (forest.get id).closed = false) :
    (forest.cleared id).openNodes.card < forest.openNodes.card :=
  card_openNodes_clear valid isOpen

/-- A step of releasing `id` whose nested release shrinks the forest shrinks it. -/
theorem shrinks_releaseStep {base acc : Forest} {id : NodeId} {recurse : Forest → NodeId → Forest}
    (shrinks : base.Shrinks acc) (nested : ∀ (f : Forest) (child : NodeId), f.Shrinks (recurse f child))
    (entry : String × Bound) : base.Shrinks (releaseStep id recurse acc entry) := by
  obtain ⟨_, bound⟩ := entry
  cases bound with
  | value v => exact shrinks
  | node child =>
      simp only [Forest.releaseStep]
      split
      · exact shrinks.trans (nested acc child)
      · exact shrinks

/-- Passing over bindings with release steps keeps a forest shrinking. -/
theorem shrinks_foldl_releaseStep {base acc : Forest} {id : NodeId}
    {recurse : Forest → NodeId → Forest} (shrinks : base.Shrinks acc)
    (nested : ∀ (f : Forest) (child : NodeId), f.Shrinks (recurse f child)) (entries : List (String × Bound)) :
    base.Shrinks (entries.foldl (releaseStep id recurse) acc) :=
  List.foldlRecOn entries _ shrinks fun _ shrinksAcc entry _ => shrinks_releaseStep shrinksAcc nested entry

/-- Two passes agree when their nested releases agree on every forest shrinking the start. -/
theorem foldl_releaseStep_congr {base : Forest} {id : NodeId} {first second : Forest → NodeId → Forest}
    (nested : ∀ (f : Forest) (child : NodeId), f.Shrinks (first f child))
    (agree : ∀ acc, base.Shrinks acc → ∀ child, first acc child = second acc child) :
    ∀ (entries : List (String × Bound)) (acc : Forest), base.Shrinks acc →
      entries.foldl (releaseStep id first) acc = entries.foldl (releaseStep id second) acc
  | [], _, _ => rfl
  | (key, bound) :: rest, acc, shrinks => by
      have sameStep : releaseStep id first acc (key, bound) = releaseStep id second acc (key, bound) := by
        cases bound with
        | value v => rfl
        | node child => simp only [releaseStep, agree acc shrinks child]
      rw [List.foldl_cons, List.foldl_cons, ← sameStep]
      exact foldl_releaseStep_congr nested agree rest _ (shrinks_releaseStep shrinks nested (key, bound))

/-- Any two fuels above the number of open nodes release a node alike. -/
theorem releaseWith_congr (fuel fuel' : Nat) (forest : Forest) (id : NodeId)
    (enough : forest.openNodes.card < fuel) (enough' : forest.openNodes.card < fuel') :
    forest.releaseWith fuel id = forest.releaseWith fuel' id := by
  induction fuel generalizing fuel' forest id with
  | zero => exact absurd enough (Nat.not_lt_zero _)
  | succ fuel ih =>
      obtain ⟨fuel', rfl⟩ : ∃ k, fuel' = k + 1 :=
        Nat.exists_eq_add_one.mpr (Nat.zero_lt_of_lt enough')
      rw [releaseWith_succ, releaseWith_succ]
      split
      · rfl
      · next isOpen =>
        simp only [Bool.not_eq_true] at isOpen
        by_cases valid : id < forest.nodes.size
        · -- Every forest the pass goes through has fewer open nodes than `forest`.
          have fewer := card_openNodes_cleared valid isOpen
          apply foldl_releaseStep_congr
            (fun f child => (releaseWith_frame fuel f child).1) _ _ _ (.refl _)
          intro acc shrinks child
          have below := (Finset.card_le_card shrinks.openNodes_subset).trans_lt fewer
          exact ih fuel' acc child (by omega) (by omega)
        · -- A node beyond the forest holds no bindings, so the pass does nothing.
          rw [get_of_size_le forest (Nat.le_of_not_lt valid)]
          rfl

/-- Releasing without fuel: an open node is closed first, then what it owns is released. -/
theorem release_eq (forest : Forest) (id : NodeId) :
    forest.release id =
      if (forest.get id).closed then forest
      else (forest.get id).bindings.entries.foldl (releaseStep id release) (forest.cleared id) := by
  rw [release, releaseWith_succ]
  split
  · rfl
  · next isOpen =>
    simp only [Bool.not_eq_true] at isOpen
    by_cases valid : id < forest.nodes.size
    · have fewer := card_openNodes_cleared valid isOpen
      apply foldl_releaseStep_congr
        (fun f child => (releaseWith_frame _ f child).1) _ _ _ (.refl _)
      intro acc shrinks child
      have below := (Finset.card_le_card shrinks.openNodes_subset).trans_lt fewer
      have bounded := forest.card_openNodes_le
      have sizes : acc.nodes.size = forest.nodes.size := by
        rw [shrinks.1]
        simp [cleared]
      rw [release, sizes]
      exact releaseWith_congr _ _ acc child (by omega) (by omega)
    · rw [get_of_size_le forest (Nat.le_of_not_lt valid)]
      rfl

/-- Releasing `id` in `forest` releases `child` in the forest `acc` the earlier bindings left. -/
inductive ReleaseCall : Forest × NodeId → Forest × NodeId → Prop
  | nested {forest : Forest} {id child : NodeId} {key : String}
      (before after : List (String × Bound)) :
      (forest.get id).closed = false →
      (forest.get id).bindings.entries = before ++ (key, .node child) :: after →
      ((before.foldl (releaseStep id release) (forest.cleared id)).get child).parent = some id →
      ReleaseCall (before.foldl (releaseStep id release) (forest.cleared id), child) (forest, id)

/-- Every call a release makes runs after the caller was closed, on fewer open nodes. -/
theorem ReleaseCall.decreases {call caller : Forest × NodeId} (calls : ReleaseCall call caller) :
    (call.1.get caller.2).closed = true ∧ call.1.openNodes.card < caller.1.openNodes.card := by
  cases calls with
  | nested before after isOpen split made =>
      rename_i forest id child key
      have mem : (key, Bound.node child) ∈ (forest.get id).bindings.entries := by
        rw [split]
        simp
      have valid : id < forest.nodes.size := lt_of_mem_entries mem
      have shrinks : (forest.cleared id).Shrinks (before.foldl (releaseStep id release) (forest.cleared id)) :=
        shrinks_foldl_releaseStep (.refl _) (fun f child => (releaseWith_frame _ f child).1) before
      refine ⟨shrinks.closed (by simp [cleared, get_update, valid]), ?_⟩
      exact (Finset.card_le_card shrinks.openNodes_subset).trans_lt (card_openNodes_cleared valid isOpen)

theorem wellFounded_releaseCall : WellFounded ReleaseCall :=
  (InvImage.wf (fun call : Forest × NodeId => call.1.openNodes.card) wellFounded_lt).mono
    fun _ _ calls => calls.decreases.2

/-- Releasing ends on every forest, cycles included: each call it makes has fewer open nodes, and
any fuel above the number of open nodes gives the same forest. -/
theorem release_terminates_by_closing_first :
    WellFounded ReleaseCall ∧
      ∀ (forest : Forest) (id : NodeId),
        forest.release id =
          (if (forest.get id).closed then forest
          else (forest.get id).bindings.entries.foldl (releaseStep id release)
            (forest.cleared id)) ∧
        (∀ call, ReleaseCall call (forest, id) →
          (call.1.get id).closed = true ∧ call.1.openNodes.card < forest.openNodes.card) ∧
        ∀ fuel, forest.openNodes.card < fuel → forest.releaseWith fuel id = forest.release id := by
  refine ⟨wellFounded_releaseCall, fun forest id => ⟨release_eq forest id,
    fun call calls => calls.decreases, fun fuel enough => ?_⟩⟩
  exact releaseWith_congr _ _ forest id enough
    (Nat.lt_succ_of_le forest.card_openNodes_le)

end Forest

/-- A root with `a` and `a.b` under it; `b` binds `a` back, and `a` binds `b` a second time. -/
def cyclicSample : Forest :=
  ((do
      let _ ← TreeM.make (·.createSubnode 0 (.segments ⟨["a"]⟩))
      let _ ← TreeM.make (·.createSubnode 0 (.segments ⟨["a", "b"]⟩))
      TreeM.change (·.bind 0 (.segments ⟨["a", "b", "back"]⟩) (.node 1))
      TreeM.change (·.bind 0 (.segments ⟨["a", "alias"]⟩) (.node 2)) : TreeM Unit).exec
    (({} : Forest).addRoot {}).2).2

theorem cyclic_release_needs_no_more_fuel :
    cyclicSample.openNodes.card < 4 ∧ cyclicSample.releaseWith 4 0 = cyclicSample.release 0 :=
  have enough : cyclicSample.openNodes.card < 4 := by decide
  ⟨enough, (Forest.release_terminates_by_closing_first.2 cyclicSample 0).2.2 4 enough⟩

/- Releasing the root closes all three nodes. -/
example : (List.range 3).all fun n => ((cyclicSample.release 0).get n).closed := by decide

end NamingDirectory
