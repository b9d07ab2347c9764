import Mathlib
import NamingDirectory.Context.Basic
import NamingDirectory.Proofs.Tree.Ensure
import NamingDirectory.Proofs.Tree.Release

/-!
Destroying, closing a node and closing a handle close exactly the owned nodes
(`teardown_closes_exactly_owned_nodes`); a renamed node stays open.
-/

namespace NamingDirectory

namespace Forest

/-- The open nodes of a forest. -/
def openNodes (forest : Forest) : Finset NodeId :=
  (Finset.range forest.nodes.size).filter fun n => (forest.get n).closed = false

theorem card_openNodes_le (forest : Forest) : forest.openNodes.card ≤ forest.nodes.size :=
  (Finset.card_filter_le _ _).trans (Finset.card_range _).le

theorem Shrinks.openNodes_subset {forest forest' : Forest} (shrinks : forest.Shrinks forest') :
    forest'.openNodes ⊆ forest.openNodes := by
  intro n mem
  simp only [openNodes, Finset.mem_filter, Finset.mem_range] at mem ⊢
  refine ⟨shrinks.1 ▸ mem.1, ?_⟩
  cases closed : (forest.get n).closed
  · rfl
  · rw [shrinks.closed closed] at mem
    cases mem.2

/-- Closing an open node leaves fewer open nodes. -/
theorem card_openNodes_clear {forest : Forest} {id : NodeId} (valid : id < forest.nodes.size)
    (isOpen : (forest.get id).closed = false) :
    (forest.update id fun n => { n with closed := true, bindings := .empty }).openNodes.card <
      forest.openNodes.card := by
  apply Finset.card_lt_card
  refine (Finset.ssubset_iff_of_subset (Shrinks.clear forest id).openNodes_subset).mpr
    ⟨id, ?_, ?_⟩
  · simp [openNodes, valid, isOpen]
  · simp [openNodes, get_update, valid]

/-- Only a node of the forest is made under another. -/
theorem lt_of_parent {forest : Forest} {n p : NodeId} (made : (forest.get n).parent = some p) :
    n < forest.nodes.size := by
  by_contra beyond
  rw [get_of_size_le forest (Nat.le_of_not_lt beyond)] at made
  cases made

/-- A release with `fuel` above the open nodes closes the node and, with each node, what it owns. -/
def ClosesOwned (fuel : Nat) : Prop :=
  ∀ (forest : Forest) (id : NodeId), id < forest.nodes.size → forest.openNodes.card < fuel →
    ((forest.releaseWith fuel id).get id).closed = true ∧
    ∀ z, (forest.get z).closed = false → ((forest.releaseWith fuel id).get z).closed = true →
      ∀ key child, (key, .node child) ∈ (forest.get z).bindings.entries →
        (forest.get child).parent = some z →
          ((forest.releaseWith fuel id).get child).closed = true

/-- The pass of a release over the bindings of `id` closes every node made under `id` and bound there. -/
theorem foldl_release_closes {fuel : Nat} {base : Forest} {id : NodeId} (release : ClosesOwned fuel)
    (bound : base.openNodes.card < fuel) (step : Forest → String × Bound → Forest)
    (steps : ∀ acc entry, step acc entry = acc ∨ ∃ child, entry.2 = .node child ∧
      (acc.get child).parent = some id ∧ step acc entry = acc.releaseWith fuel child)
    (owned : ∀ acc key child, (acc.get child).parent = some id →
      step acc (key, .node child) = acc.releaseWith fuel child)
    (entries : List (String × Bound)) (acc : Forest) (shrinks : base.Shrinks acc)
    (closes : ∀ z, (base.get z).closed = false → (acc.get z).closed = true →
      ∀ key child, (key, .node child) ∈ (base.get z).bindings.entries →
        (base.get child).parent = some z → (acc.get child).closed = true) :
    base.Shrinks (entries.foldl step acc) ∧
      (∀ n, (acc.get n).closed = true → ((entries.foldl step acc).get n).closed = true) ∧
      (∀ z, (base.get z).closed = false → ((entries.foldl step acc).get z).closed = true →
        ∀ key child, (key, .node child) ∈ (base.get z).bindings.entries →
          (base.get child).parent = some z →
            ((entries.foldl step acc).get child).closed = true) ∧
      ∀ key child, (key, .node child) ∈ entries → (base.get child).parent = some id →
        ((entries.foldl step acc).get child).closed = true := by
  induction entries generalizing acc with
  | nil => exact ⟨shrinks, fun _ closed => closed, closes, fun _ _ mem => by cases mem⟩
  | cons entry rest ih =>
      rw [List.foldl_cons]
      have fewer : acc.openNodes.card < fuel :=
        (Finset.card_le_card shrinks.openNodes_subset).trans_lt bound
      have stepped : acc.Shrinks (step acc entry) ∧
          ∀ z, (base.get z).closed = false → ((step acc entry).get z).closed = true →
            ∀ key child, (key, .node child) ∈ (base.get z).bindings.entries →
              (base.get child).parent = some z → ((step acc entry).get child).closed = true := by
        rcases steps acc entry with same | ⟨child, _, made, released⟩
        · rw [same]
          exact ⟨.refl acc, closes⟩
        · rw [released]
          have childCloses := (release acc child (lt_of_parent made) fewer).2
          refine ⟨(releaseWith_frame fuel acc child).1,
            fun z isOpen closed key c mem madeUnder => ?_⟩
          cases before : (acc.get z).closed
          · -- `z` was closed by this release, which closed what was made under it.
            have same := shrinks.get_of_open before
            rw [← same] at mem
            exact childCloses z before closed key c mem (shrinks.parent_eq c ▸ madeUnder)
          · exact (releaseWith_frame fuel acc child).1.closed
              (closes z isOpen before key c mem madeUnder)
      obtain ⟨stepShrinks, stepCloses⟩ := stepped
      obtain ⟨restShrinks, keeps, restCloses, restOwned⟩ :=
        ih (step acc entry) (shrinks.trans stepShrinks) stepCloses
      refine ⟨restShrinks, fun n closed => keeps n (stepShrinks.closed closed), restCloses, ?_⟩
      intro key child mem made
      rcases List.mem_cons.mp mem with here | later
      · -- The child bound by this entry was released here.
        subst here
        have madeHere : (acc.get child).parent = some id := shrinks.parent_eq child ▸ made
        apply keeps
        rw [owned acc key child madeHere]
        exact (release acc child (lt_of_parent madeHere) fewer).1
      · exact restOwned key child later made

/-- A release with more fuel than open nodes closes what it should. -/
theorem releaseWith_closes (fuel : Nat) : ClosesOwned fuel := by
  induction fuel with
  | zero => exact fun _ _ _ bound => absurd bound (Nat.not_lt_zero _)
  | succ fuel ih =>
      intro forest id valid bound
      cases closed : (forest.get id).closed
      case true =>
        rw [releaseWith_succ_of_closed fuel forest closed]
        exact ⟨closed, fun z isOpen closedAfter => absurd closedAfter (by simp [isOpen])⟩
      obtain ⟨step, steps, owned, unfolded⟩ := releaseWith_succ_of_open fuel forest closed
      rw [unfolded]
      have cleared := Shrinks.clear forest id
      have fewer := (card_openNodes_clear valid closed).trans_le (Nat.le_of_lt_succ bound)
      obtain ⟨_, keeps, closes, ownedClosed⟩ := foldl_release_closes ih fewer step steps owned
        (forest.get id).bindings.entries _ (.refl _)
        fun _ isOpen closedBefore _ _ _ _ => absurd closedBefore (by simp [isOpen])
      refine ⟨keeps id (by simp [get_update, valid]),
        fun z isOpen closedAfter key c mem made => ?_⟩
      by_cases here : z = id
      · subst here
        exact ownedClosed key c mem (cleared.parent_eq c ▸ made)
      · -- Clearing `id` left `z` as it was.
        have same : (forest.update id fun n => { n with closed := true, bindings := .empty }).get
            z = forest.get z := by
          rw [get_update, if_neg fun both => here both.1.symm]
        rw [← same] at isOpen mem
        exact closes z isOpen closedAfter key c mem ((cleared.parent_eq c).trans made)

/-- A release closes exactly the nodes closed before and those the released node reaches as owner. -/
theorem release_closed_iff (forest : Forest) {id : NodeId} (valid : id < forest.nodes.size)
    (n : NodeId) :
    ((forest.release id).get n).closed = true ↔
      (forest.get n).closed = true ∨ forest.OwnedReach id n := by
  have frame := releaseWith_frame (forest.nodes.size + 1) forest id
  have closes := releaseWith_closes (forest.nodes.size + 1) forest id valid
    (Nat.lt_succ_of_le forest.card_openNodes_le)
  constructor
  · intro closed
    by_cases reached : forest.OwnedReach id n
    · exact .inr reached
    · rw [release, frame.2 n reached] at closed
      exact .inl closed
  · rintro (closed | reached)
    · exact frame.1.closed closed
    · induction reached with
      | refl => exact closes.1
      | step _ isOpen mem made ih => exact closes.2 _ isOpen ih _ _ mem made

/-- A binding an operation opens is what a lookup of its path finds. -/
theorem lookup_of_openOwner {forest : Forest} {start owner : NodeId} {path : PathArg}
    {operation last : String} (opened : forest.openOwner start path operation = .ok (owner, last))
    {bound : Bound} (found : (forest.get owner).bindings.get? last = some bound) :
    forest.lookup start path = .ok bound := by
  simp only [openOwner, Forest.owner, Bind.bind, Except.bind] at opened
  simp only [lookup, Bind.bind, Except.bind]
  cases named : (forest.resolve start path).last? with
  | none => simp [named] at opened
  | some l =>
      cases walked : forest.walk start (forest.resolve start path).parent.segments with
      | error e => simp [named, walked, Except.map] at opened
      | ok o =>
          cases closed : (forest.get o).closed <;>
            simp [named, walked, Except.map, closed] at opened
          obtain ⟨rfl, rfl⟩ := opened
          simp [closed, found]

theorem closed_eraseBinding (forest : Forest) (id : NodeId) (segment : String) (n : NodeId) :
    ((forest.eraseBinding id segment).get n).closed = (forest.get n).closed := by
  rw [get_eraseBinding]
  split <;> rfl

/-- A successful destroy released the node bound at the path, then dropped the binding if unchanged. -/
theorem destroySubnode_cases {forest after : Forest} {start : NodeId} {path : PathArg}
    (ok : forest.destroySubnode start path = .ok after) :
    ∃ owner last child, forest.openOwner start path "destroy" = .ok (owner, last) ∧
      (forest.get owner).bindings.get? last = some (.node child) ∧
      (after = (forest.release child).eraseBinding owner last ∨ after = forest.release child) := by
  unfold destroySubnode at ok
  cases opened : forest.openOwner start path "destroy" with
  | error e => simp [opened, Bind.bind, Except.bind] at ok
  | ok pair =>
      obtain ⟨owner, last⟩ := pair
      cases bound : (forest.get owner).bindings.get? last with
      | none => simp [opened, bound, Bind.bind, Except.bind] at ok
      | some b =>
          cases b with
          | value v => simp [opened, bound, Bind.bind, Except.bind] at ok
          | node child =>
              refine ⟨owner, last, child, rfl, bound, ?_⟩
              simp only [opened, bound, Bind.bind, Except.bind] at ok
              split at ok
              · split at ok
                · cases ok
                  exact .inl rfl
                · cases ok
                  exact .inr rfl
              · cases ok
                exact .inr rfl

/-- A successful destroy releases the node bound at the path and opens no node. -/
theorem destroySubnode_closed {forest after : Forest} {start : NodeId} {path : PathArg}
    (ok : forest.destroySubnode start path = .ok after) :
    ∃ owner last child, forest.openOwner start path "destroy" = .ok (owner, last) ∧
      (forest.get owner).bindings.get? last = some (.node child) ∧
      ∀ n, (after.get n).closed = ((forest.release child).get n).closed := by
  obtain ⟨owner, last, child, opened, bound, result⟩ := destroySubnode_cases ok
  refine ⟨owner, last, child, opened, bound, fun n => ?_⟩
  rcases result with rfl | rfl
  · exact closed_eraseBinding _ _ _ n
  · rfl

/-- Closing a node that does not ignore closing releases it. -/
theorem close_eq_release (forest : Forest) {id : NodeId}
    (closing : (forest.get id).config.ignoreClose = false) :
    forest.close id = forest.release id := by
  simp [close, closing]

end Forest

/-- Closing an open handle that does not ignore closing releases its root. -/
theorem NamingContext.close_forest (ctx : NamingContext) (d : Directory)
    (closing : ctx.config.ignoreClose = false) (isOpen : ctx.closed = false) :
    (ctx.close d).2.forest = d.forest.release ctx.root := by
  unfold NamingContext.close
  simp only [closing, isOpen, Bool.or_false, Bool.false_eq_true, if_false]
  cases ctx.registry <;> rfl

/-- Destroying a subnode, closing a node and closing a handle each close exactly the nodes closed
before and those the torn-down node reaches as their owner. -/
theorem teardown_closes_exactly_owned_nodes (forest : Forest) (n : NodeId) :
    (∀ (start : NodeId) (path : PathArg) (after : Forest), forest.NodesExist →
      forest.destroySubnode start path = .ok after →
      ∃ child, forest.lookup start path = .ok (.node child) ∧
        ((after.get n).closed = true ↔
          (forest.get n).closed = true ∨ forest.OwnedReach child n)) ∧
    (∀ id, id < forest.nodes.size → (forest.get id).config.ignoreClose = false →
      (((forest.close id).get n).closed = true ↔
        (forest.get n).closed = true ∨ forest.OwnedReach id n)) ∧
    (∀ (ctx : NamingContext) (d : Directory), d.forest = forest →
      ctx.config.ignoreClose = false → ctx.closed = false → ctx.root < forest.nodes.size →
      ((((ctx.close d).2.forest).get n).closed = true ↔
        (forest.get n).closed = true ∨ forest.OwnedReach ctx.root n)) := by
  refine ⟨fun start path after exist ok => ?_, fun id valid closing => ?_,
    fun ctx d inDirectory closing isOpen valid => ?_⟩
  · obtain ⟨owner, last, child, opened, bound, closedAfter⟩ := Forest.destroySubnode_closed ok
    have valid : child < forest.nodes.size := exist.lt_of_get? bound
    refine ⟨child, Forest.lookup_of_openOwner opened bound, ?_⟩
    rw [closedAfter n]
    exact forest.release_closed_iff valid n
  · rw [forest.close_eq_release closing]
    exact forest.release_closed_iff valid n
  · rw [ctx.close_forest d closing isOpen, inDirectory]
    exact forest.release_closed_iff valid n

/-- A root with `a` made under it, `a.b` made under `a`, and `a.b` renamed to `c`. -/
def movedSample : Forest :=
  ((do
      let _ ← TreeM.make (·.createSubnode 0 (.segments ⟨["a"]⟩))
      let _ ← TreeM.make (·.createSubnode 0 (.segments ⟨["a", "b"]⟩))
      TreeM.rename 0 (.segments ⟨["a", "b"]⟩) (.segments ⟨["c"]⟩) : TreeM Unit).exec
    (({} : Forest).addRoot {}).2).2

/-- Closing the root leaves the moved node open, though the root reaches it through `c`. -/
theorem close_leaves_moved_node_open :
    movedSample.Reaches 0 2 ∧ ((movedSample.close 0).get 2).closed = false :=
  have bound : (movedSample.get 0).bindings.get? "c" = some (.node 2) := rfl
  ⟨.step .refl (OrderedMap.mem_of_get? bound), rfl⟩

/-- Destroying `c`, closing the root and closing a handle on it, each from the moved sample. -/
theorem moved_sample_teardowns_close_owned_nodes :
    movedSample.NodesExist ∧
      (∃ after, movedSample.destroySubnode 0 (.segments ⟨["c"]⟩) = .ok after ∧
        ∃ child, movedSample.lookup 0 (.segments ⟨["c"]⟩) = .ok (.node child) ∧
          ((after.get 2).closed = true ↔
            (movedSample.get 2).closed = true ∨ movedSample.OwnedReach child 2)) ∧
      (movedSample.get 0).config.ignoreClose = false ∧
      (((movedSample.close 0).get 2).closed = true ↔
        (movedSample.get 2).closed = true ∨ movedSample.OwnedReach 0 2) ∧
      (((({ root := 0, config := {} } : NamingContext).close { forest := movedSample }).2.forest.get
          2).closed = true ↔ (movedSample.get 2).closed = true ∨ movedSample.OwnedReach 0 2) := by
  have exist : movedSample.NodesExist := by decide
  obtain ⟨after, destroyed⟩ :
      ∃ after, movedSample.destroySubnode 0 (.segments ⟨["c"]⟩) = .ok after := ⟨_, rfl⟩
  have valid : 0 < movedSample.nodes.size := by decide
  have teardown := teardown_closes_exactly_owned_nodes movedSample 2
  exact ⟨exist, ⟨after, destroyed, teardown.1 0 _ after exist destroyed⟩, rfl,
    teardown.2.1 0 valid rfl, teardown.2.2 { root := 0, config := {} } _ rfl rfl rfl valid⟩

end NamingDirectory
