import Mathlib
import NamingDirectory.Proofs.Tree.Find

/-!
A release closes and empties only nodes the released node reaches as their owner (`releaseWith_frame`).
-/

namespace NamingDirectory

namespace Forest

/-- The nodes a node reaches through node bindings, itself included. -/
inductive Reaches (forest : Forest) (start : NodeId) : NodeId → Prop
  | refl : Reaches forest start start
  | step {n child : NodeId} {key : String} : Reaches forest start n →
      (key, .node child) ∈ (forest.get n).bindings.entries → Reaches forest start child

/-- The nodes reached through bindings of open nodes to nodes made under them, the start included. -/
inductive OwnedReach (forest : Forest) (start : NodeId) : NodeId → Prop
  | refl : OwnedReach forest start start
  | step {n child : NodeId} {key : String} : OwnedReach forest start n →
      (forest.get n).closed = false → (key, .node child) ∈ (forest.get n).bindings.entries →
      (forest.get child).parent = some n → OwnedReach forest start child

theorem OwnedReach.reaches {forest : Forest} {start n : NodeId}
    (reached : forest.OwnedReach start n) : forest.Reaches start n := by
  induction reached with
  | refl => exact .refl
  | step _ _ mem _ ih => exact .step ih mem

/-- What a node made under an open node reaches, that node reaches too. -/
theorem OwnedReach.head {forest : Forest} {start child n : NodeId} {key : String}
    (isOpen : (forest.get start).closed = false)
    (bound : (key, .node child) ∈ (forest.get start).bindings.entries)
    (made : (forest.get child).parent = some start) (reached : forest.OwnedReach child n) :
    forest.OwnedReach start n := by
  induction reached with
  | refl => exact .step .refl isOpen bound made
  | step _ stillOpen mem parent ih => exact .step ih stillOpen mem parent

/-- Every node of the second forest is the first's, or that node closed and emptied. -/
def Shrinks (forest forest' : Forest) : Prop :=
  forest'.nodes.size = forest.nodes.size ∧
    ∀ n, forest'.get n = forest.get n ∨
      forest'.get n = { forest.get n with closed := true, bindings := .empty }

namespace Shrinks

theorem refl (forest : Forest) : forest.Shrinks forest := ⟨rfl, fun _ => .inl rfl⟩

theorem trans {first second third : Forest} (one : first.Shrinks second)
    (two : second.Shrinks third) : first.Shrinks third := by
  refine ⟨two.1.trans one.1, fun n => ?_⟩
  rcases two.2 n with same | cleared <;> rcases one.2 n with same' | cleared'
  · exact .inl (same.trans same')
  · exact .inr (same.trans cleared')
  · exact .inr (cleared.trans (by rw [same']))
  · exact .inr (cleared.trans (by rw [cleared']))

/-- A node that shrinking left open kept its bindings. -/
theorem entries_of_mem {forest forest' : Forest} (shrinks : forest.Shrinks forest') {n : NodeId}
    {entry : String × Bound} (mem : entry ∈ (forest'.get n).bindings.entries) :
    entry ∈ (forest.get n).bindings.entries := by
  rcases shrinks.2 n with same | cleared
  · exact same ▸ mem
  · rw [cleared] at mem
    simp [OrderedMap.empty] at mem

/-- Shrinking reaches no new node. -/
theorem reaches {forest forest' : Forest} (shrinks : forest.Shrinks forest') {start n : NodeId}
    (reached : forest'.Reaches start n) : forest.Reaches start n := by
  induction reached with
  | refl => exact .refl
  | step _ mem ih => exact .step ih (shrinks.entries_of_mem mem)

/-- A node left open is the node it was. -/
theorem get_of_open {forest forest' : Forest} (shrinks : forest.Shrinks forest') {n : NodeId}
    (isOpen : (forest'.get n).closed = false) : forest'.get n = forest.get n := by
  rcases shrinks.2 n with same | cleared
  · exact same
  · rw [cleared] at isOpen
    cases isOpen

/-- A closed node stays closed. -/
theorem closed {forest forest' : Forest} (shrinks : forest.Shrinks forest') {n : NodeId}
    (closed : (forest.get n).closed = true) : (forest'.get n).closed = true := by
  rcases shrinks.2 n with same | cleared
  · rw [same, closed]
  · rw [cleared]

theorem parent_eq {forest forest' : Forest} (shrinks : forest.Shrinks forest') (n : NodeId) :
    (forest'.get n).parent = (forest.get n).parent := by
  rcases shrinks.2 n with same | cleared
  · rw [same]
  · rw [cleared]

/-- Shrinking reaches no new node through open nodes either. -/
theorem ownedReach {forest forest' : Forest} (shrinks : forest.Shrinks forest') {start n : NodeId}
    (reached : forest'.OwnedReach start n) : forest.OwnedReach start n := by
  induction reached with
  | refl => exact .refl
  | step _ isOpen mem made ih =>
      have same := shrinks.get_of_open isOpen
      rw [same] at isOpen mem
      exact .step ih isOpen mem (shrinks.parent_eq _ ▸ made)

/-- Closing and emptying one node shrinks a forest. -/
theorem clear (forest : Forest) (id : NodeId) :
    forest.Shrinks (forest.update id fun n => { n with closed := true, bindings := .empty }) := by
  refine ⟨by simp, fun n => ?_⟩
  rw [get_update]
  split
  · exact .inr rfl
  · exact .inl rfl

end Shrinks

/-- Steps that each release a node made under `id` and bound in it change only what `id` reaches. -/
theorem foldl_release_frame {fuel : Nat} {forest : Forest} {id : NodeId}
    (release : ∀ (acc : Forest) (child : NodeId), acc.Shrinks (acc.releaseWith fuel child) ∧
      ∀ n, ¬ acc.OwnedReach child n → (acc.releaseWith fuel child).get n = acc.get n)
    (isOpen : (forest.get id).closed = false) (step : Forest → String × Bound → Forest)
    (steps : ∀ acc entry, step acc entry = acc ∨ ∃ child, entry.2 = .node child ∧
      (acc.get child).parent = some id ∧ step acc entry = acc.releaseWith fuel child)
    (entries : List (String × Bound))
    (within : ∀ entry ∈ entries, entry ∈ (forest.get id).bindings.entries) (acc : Forest)
    (shrinks : forest.Shrinks acc)
    (frame : ∀ n, ¬ forest.OwnedReach id n → acc.get n = forest.get n) :
    forest.Shrinks (entries.foldl step acc) ∧
      ∀ n, ¬ forest.OwnedReach id n → (entries.foldl step acc).get n = forest.get n := by
  induction entries generalizing acc with
  | nil => exact ⟨shrinks, frame⟩
  | cons entry rest ih =>
      have restWithin := fun e mem => within e (List.mem_cons_of_mem _ mem)
      rcases steps acc entry with same | ⟨child, bound, made, released⟩
      · rw [List.foldl_cons, same]
        exact ih restWithin acc shrinks frame
      · rw [List.foldl_cons, released]
        obtain ⟨childShrinks, childFrame⟩ := release acc child
        apply ih restWithin _ (shrinks.trans childShrinks)
        intro n outside
        have mem : (entry.1, Bound.node child) ∈ (forest.get id).bindings.entries := by
          rw [← bound]
          exact within entry List.mem_cons_self
        have madeHere : (forest.get child).parent = some id := shrinks.parent_eq child ▸ made
        have notReached : ¬ acc.OwnedReach child n := fun reached =>
          outside (OwnedReach.head isOpen mem madeHere (shrinks.ownedReach reached))
        rw [childFrame n notReached, frame n outside]

/-- Releasing a closed node changes nothing. -/
theorem releaseWith_succ_of_closed (fuel : Nat) (forest : Forest) {id : NodeId}
    (closed : (forest.get id).closed = true) : forest.releaseWith (fuel + 1) id = forest := by
  simp [releaseWith, closed]

/-- An open node is released by closing and emptying it, then releasing the nodes made under it. -/
theorem releaseWith_succ_of_open (fuel : Nat) (forest : Forest) {id : NodeId}
    (isOpen : (forest.get id).closed = false) :
    ∃ step : Forest → String × Bound → Forest,
      (∀ acc entry, step acc entry = acc ∨ ∃ child, entry.2 = .node child ∧
        (acc.get child).parent = some id ∧ step acc entry = acc.releaseWith fuel child) ∧
      (∀ acc key child, (acc.get child).parent = some id →
        step acc (key, .node child) = acc.releaseWith fuel child) ∧
      forest.releaseWith (fuel + 1) id = (forest.get id).bindings.entries.foldl step
        (forest.update id fun n => { n with closed := true, bindings := .empty }) := by
  refine ⟨_, ?_, ?_, by
    simp only [releaseWith, isOpen, Bool.false_eq_true, if_false]
    exact rfl⟩
  · intro acc entry
    obtain ⟨key, bound⟩ := entry
    cases bound with
    | value v => exact .inl rfl
    | node child =>
        by_cases made : (acc.get child).parent = some id
        · exact .inr ⟨child, rfl, made, by simp [made]⟩
        · exact .inl (by simp [made])
  · intro acc key child made
    simp [made]

/-- A release shrinks the forest and changes only nodes the released node reaches as their owner. -/
theorem releaseWith_frame (fuel : Nat) (forest : Forest) (id : NodeId) :
    forest.Shrinks (forest.releaseWith fuel id) ∧
      ∀ n, ¬ forest.OwnedReach id n → (forest.releaseWith fuel id).get n = forest.get n := by
  induction fuel generalizing forest id with
  | zero => exact ⟨.refl forest, fun _ _ => rfl⟩
  | succ fuel ih =>
      cases closed : (forest.get id).closed
      case true =>
        rw [releaseWith_succ_of_closed fuel forest closed]
        exact ⟨.refl forest, fun _ _ => rfl⟩
      obtain ⟨step, steps, -, unfolded⟩ := releaseWith_succ_of_open fuel forest closed
      rw [unfolded]
      apply foldl_release_frame (fun acc child => ih acc child) closed step steps _
        (fun _ mem => mem) _ (Shrinks.clear forest id)
      intro n outside
      rw [get_update]
      have other : ¬ (id = n ∧ n < forest.nodes.size) := fun both =>
        outside (both.1 ▸ .refl)
      simp [other]

end Forest

end NamingDirectory
