import Mathlib
import NamingDirectory.Proofs.Tree.Teardown

/-!
Exactly what a teardown changes, aliases and cycles included (`release_releasedFrom`,
`destroySubnode_destroyedFrom`).
-/

namespace NamingDirectory

namespace Forest

/-- The nodes made under a node, at any depth, by the parent links fixed when they were made. -/
inductive MadeBelow (forest : Forest) (t : NodeId) : NodeId → Prop
  | child {n : NodeId} : (forest.get n).parent = some t → MadeBelow forest t n
  | descendant {m n : NodeId} : MadeBelow forest t m → (forest.get n).parent = some m →
      MadeBelow forest t n

/-- Every node a release reaches, other than the released node, was made below it. -/
theorem OwnedReach.madeBelow {forest : Forest} {t n : NodeId} (reached : forest.OwnedReach t n) :
    n = t ∨ forest.MadeBelow t n := by
  induction reached with
  | refl => exact .inl rfl
  | step _ _ _ made ih =>
      rcases ih with rfl | below
      · exact .inr (.child made)
      · exact .inr (.descendant below made)

theorem not_ownedReach_of_not_madeBelow {forest : Forest} {t n : NodeId} (other : n ≠ t)
    (foreign : ¬ forest.MadeBelow t n) : ¬ forest.OwnedReach t n := fun reached =>
  (reached.madeBelow).elim other foreign

/-- `after` is `forest` with `t` released: what `t` owns is closed and emptied, the rest kept. -/
structure ReleasedFrom (forest after : Forest) (t : NodeId) : Prop where
  size_eq : after.nodes.size = forest.nodes.size
  clears : ∀ n, (forest.get n).closed = false → forest.OwnedReach t n →
    after.get n = { forest.get n with closed := true, bindings := .empty }
  keeps : ∀ n, (forest.get n).closed = true ∨ ¬ forest.OwnedReach t n → after.get n = forest.get n

/-- `after` is `forest` with `t`, bound at `last` in `owner`, released and unbound from the owner. -/
structure DestroyedFrom (forest after : Forest) (owner : NodeId) (last : String) (t : NodeId) :
    Prop where
  size_eq : after.nodes.size = forest.nodes.size
  clears : ∀ n, (forest.get n).closed = false → forest.OwnedReach t n →
    after.get n = { forest.get n with closed := true, bindings := .empty }
  unbinds : ¬ forest.OwnedReach t owner →
    after.get owner = { forest.get owner with bindings := (forest.get owner).bindings.erase last }
  keeps : ∀ n, n ≠ owner → (forest.get n).closed = true ∨ ¬ forest.OwnedReach t n →
    after.get n = forest.get n

/-- A release changes a node only while it is open, even a closed node that holds bindings. -/
theorem releaseWith_get_of_closed (fuel : Nat) (forest : Forest) (id : NodeId) {n : NodeId}
    (closed : (forest.get n).closed = true) : (forest.releaseWith fuel id).get n = forest.get n := by
  induction fuel generalizing forest id with
  | zero => rfl
  | succ fuel ih =>
      cases isOpen : (forest.get id).closed
      case true => rw [releaseWith_succ_of_closed fuel forest isOpen]
      obtain ⟨step, steps, -, unfolded⟩ := releaseWith_succ_of_open fuel forest isOpen
      rw [unfolded]
      have other : id ≠ n := fun same => by rw [same, closed] at isOpen; cases isOpen
      have cleared : (forest.update id fun n => { n with closed := true, bindings := .empty }).get n =
          forest.get n := by
        rw [get_update, if_neg fun both => other both.1]
      refine List.foldlRecOn _ step (motive := fun acc => acc.get n = forest.get n) cleared ?_
      intro acc same entry _
      rcases steps acc entry with kept | ⟨child, -, -, released⟩
      · rw [kept, same]
      · rw [released, ih acc child (by rw [same]; exact closed), same]

/-- Releasing a node of the forest does exactly what `ReleasedFrom` says. -/
theorem release_releasedFrom (forest : Forest) {t : NodeId} (valid : t < forest.nodes.size) :
    forest.ReleasedFrom (forest.release t) t := by
  obtain ⟨shrinks, frame⟩ := releaseWith_frame (forest.nodes.size + 1) forest t
  refine ⟨shrinks.1, fun n isOpen reached => ?_, fun n untouched => ?_⟩
  · -- The release closes `n`, and the only closed form shrinking allows is the cleared one.
    have closedAfter := (forest.release_closed_iff valid n).mpr (.inr reached)
    rcases shrinks.2 n with same | cleared
    · rw [release, same, isOpen] at closedAfter
      cases closedAfter
    · exact cleared
  · rcases untouched with closed | outside
    · exact releaseWith_get_of_closed _ forest t closed
    · exact frame n outside

/-- A release keeps the closed flag of every node not made below the released one. -/
theorem ReleasedFrom.closed_of_not_madeBelow {forest after : Forest} {t : NodeId}
    (released : forest.ReleasedFrom after t) {n : NodeId} (other : n ≠ t)
    (foreign : ¬ forest.MadeBelow t n) : (after.get n).closed = (forest.get n).closed := by
  rw [released.keeps n (.inr (not_ownedReach_of_not_madeBelow other foreign))]

/-- A destroy keeps the closed flag of every node not made below the destroyed one. -/
theorem DestroyedFrom.closed_of_not_madeBelow {forest after : Forest} {owner t : NodeId}
    {last : String} (destroyed : forest.DestroyedFrom after owner last t) {n : NodeId}
    (other : n ≠ t) (foreign : ¬ forest.MadeBelow t n) :
    (after.get n).closed = (forest.get n).closed := by
  have outside := not_ownedReach_of_not_madeBelow other foreign
  by_cases atOwner : n = owner
  · subst atOwner
    rw [destroyed.unbinds outside]
  · rw [destroyed.keeps n atOwner (.inr outside)]

/-- The owner an operation opens is open. -/
theorem openOwner_open {forest : Forest} {start owner : NodeId} {path : PathArg}
    {operation last : String} (opened : forest.openOwner start path operation = .ok (owner, last)) :
    (forest.get owner).closed = false := by
  simp only [openOwner, Bind.bind, Except.bind] at opened
  split at opened
  · cases opened
  · split at opened
    · cases opened
    · next isOpen =>
      cases opened
      simpa using isOpen

section Destroy

variable {forest : Forest} {start owner t : NodeId} {path : PathArg} {last : String}

/-- Destroying a node bound at a path releases it, then drops the binding if the owner still has it. -/
theorem destroySubnode_of_still_bound
    (opened : forest.openOwner start path "destroy" = .ok (owner, last))
    (bound : (forest.get owner).bindings.get? last = some (.node t))
    (still : ((forest.release t).get owner).bindings.get? last = some (.node t)) :
    forest.destroySubnode start path = .ok ((forest.release t).eraseBinding owner last) := by
  simp only [destroySubnode, opened, bound, still, Bind.bind, Except.bind, beq_self_eq_true,
    if_true]

/-- When releasing the node emptied its owner, destroying it is releasing it. -/
theorem destroySubnode_of_emptied
    (opened : forest.openOwner start path "destroy" = .ok (owner, last))
    (bound : (forest.get owner).bindings.get? last = some (.node t))
    (gone : ((forest.release t).get owner).bindings.get? last = none) :
    forest.destroySubnode start path = .ok (forest.release t) := by
  simp only [destroySubnode, opened, bound, gone, Bind.bind, Except.bind]

end Destroy

/-- A successful destroy of the node bound at a path does exactly what `DestroyedFrom` says. -/
theorem destroySubnode_destroyedFrom {forest after : Forest} {start : NodeId} {path : PathArg}
    (exist : forest.NodesExist) (ok : forest.destroySubnode start path = .ok after) :
    ∃ owner last t, forest.openOwner start path "destroy" = .ok (owner, last) ∧
      (forest.get owner).bindings.get? last = some (.node t) ∧
      forest.DestroyedFrom after owner last t := by
  obtain ⟨owner, last, t, opened, bound, -⟩ := destroySubnode_cases ok
  have released := forest.release_releasedFrom (exist.lt_of_get? bound)
  have isOpen := openOwner_open opened
  refine ⟨owner, last, t, opened, bound, ?_⟩
  by_cases reached : forest.OwnedReach t owner
  · -- The release emptied the owner, so there is no binding left to drop.
    have gone : ((forest.release t).get owner).bindings.get? last = none := by
      rw [released.clears owner isOpen reached]
      rfl
    rw [destroySubnode_of_emptied opened bound gone] at ok
    cases ok
    exact ⟨released.size_eq, released.clears, fun outside => absurd reached outside,
      fun n _ => released.keeps n⟩
  · -- The owner was left as it was and still binds `t`, so the binding goes.
    have still : ((forest.release t).get owner).bindings.get? last = some (.node t) := by
      rw [released.keeps owner (.inr reached), bound]
    rw [destroySubnode_of_still_bound opened bound still] at ok
    cases ok
    have ownerValid : owner < forest.nodes.size := by
      by_contra beyond
      rw [get_of_size_le forest (Nat.le_of_not_lt beyond)] at bound
      cases bound
    refine ⟨by simp [eraseBinding, released.size_eq], fun n isOpenN reachedN => ?_, fun _ => ?_,
      fun n notOwner untouched => ?_⟩
    · have notOwner : owner ≠ n := fun same => reached (same ▸ reachedN)
      rw [get_eraseBinding, if_neg fun both => notOwner both.1, released.clears n isOpenN reachedN]
    · rw [get_eraseBinding, if_pos ⟨rfl, released.size_eq ▸ ownerValid⟩,
        released.keeps owner (.inr reached)]
    · rw [get_eraseBinding, if_neg fun both => notOwner both.1.symm, released.keeps n untouched]

/-- Destroying a node and closing a node change exactly what the torn-down node owns, and a destroy
also drops its binding; a node not made below it is never closed. -/
theorem teardown_changes_exactly_owned_subtree (forest : Forest) :
    (∀ (start : NodeId) (path : PathArg) (after : Forest), forest.NodesExist →
      forest.destroySubnode start path = .ok after →
      ∃ owner last t, forest.openOwner start path "destroy" = .ok (owner, last) ∧
        forest.lookup start path = .ok (.node t) ∧ forest.DestroyedFrom after owner last t ∧
        ∀ n, n ≠ t → ¬ forest.MadeBelow t n → (after.get n).closed = (forest.get n).closed) ∧
    (∀ t, t < forest.nodes.size → (forest.get t).config.ignoreClose = false →
      forest.ReleasedFrom (forest.close t) t ∧
        ∀ n, n ≠ t → ¬ forest.MadeBelow t n →
          ((forest.close t).get n).closed = (forest.get n).closed) := by
  refine ⟨fun start path after exist ok => ?_, fun t valid closing => ?_⟩
  · obtain ⟨owner, last, t, opened, bound, destroyed⟩ := destroySubnode_destroyedFrom exist ok
    exact ⟨owner, last, t, opened, lookup_of_openOwner opened bound, destroyed,
      fun n other foreign => destroyed.closed_of_not_madeBelow other foreign⟩
  · rw [forest.close_eq_release closing]
    have released := forest.release_releasedFrom valid
    exact ⟨released, fun n other foreign => released.closed_of_not_madeBelow other foreign⟩

end Forest

/-- A root with `a` under it, and a second root: `a` binds both roots, under `up` and `link`. -/
def linkedSample : Forest :=
  let (root, forest) := ({} : Forest).addRoot {}
  let (other, forest) := forest.addRoot {}
  ((do
      let _ ← TreeM.make (·.createSubnode root (.segments ⟨["a"]⟩))
      TreeM.change (·.bind root (.segments ⟨["a", "up"]⟩) (.node root))
      TreeM.change (·.bind root (.segments ⟨["a", "link"]⟩) (.node other))
      TreeM.change (·.bind other (.segments ⟨["kept"]⟩) (.value (.text "v"))) : TreeM Unit).exec
    forest).2

theorem linked_teardowns_change_owned_subtree :
    linkedSample.NodesExist ∧ 0 < linkedSample.nodes.size ∧
      (linkedSample.get 0).config.ignoreClose = false ∧
      (∃ after, linkedSample.destroySubnode 0 (.segments ⟨["a"]⟩) = .ok after ∧
        ∃ owner last t, linkedSample.lookup 0 (.segments ⟨["a"]⟩) = .ok (.node t) ∧
          linkedSample.DestroyedFrom after owner last t) ∧
      linkedSample.ReleasedFrom (linkedSample.close 0) 0 := by
  have exist : linkedSample.NodesExist := by decide
  have teardown := Forest.teardown_changes_exactly_owned_subtree linkedSample
  obtain ⟨owner, last, t, -, found, destroyed, -⟩ :=
    teardown.1 0 (.segments ⟨["a"]⟩) _ exist rfl
  exact ⟨exist, by decide, rfl, ⟨_, rfl, owner, last, t, found, destroyed⟩,
    (teardown.2 0 (by decide) rfl).1⟩

/- Closing the root closes `a`, made under it, and not the second root that `a` links to. -/
example : ((linkedSample.close 0).get 2).closed = true ∧
    ((linkedSample.close 0).get 1).closed = false := by decide

end NamingDirectory
