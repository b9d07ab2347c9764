import Mathlib
import NamingDirectory.Proofs.Session.Frame
import NamingDirectory.Proofs.Tree.RootEdits

/-!
Root edits keep every node bound where it was made (`RootEdit.boundWhereMade_replay`).
-/

namespace NamingDirectory

namespace Forest

/-- Every node bound in the forest is bound in the node it was made under, at its own segment. -/
def BoundWhereMade (forest : Forest) : Prop :=
  ∀ holder segment child, (segment, Bound.node child) ∈ (forest.get holder).bindings.entries →
    (forest.get child).parent = some holder ∧ (forest.get child).localName = segment

/-- The second forest keeps every node's parent and segment, and binds nodes only where the first did. -/
structure KeepsPlaces (forest after : Forest) : Prop where
  made : ∀ n < forest.nodes.size, (after.get n).parent = (forest.get n).parent ∧
    (after.get n).localName = (forest.get n).localName
  bound : ∀ holder segment child,
    (segment, Bound.node child) ∈ (after.get holder).bindings.entries →
      (segment, Bound.node child) ∈ (forest.get holder).bindings.entries

namespace KeepsPlaces

theorem refl (forest : Forest) : forest.KeepsPlaces forest :=
  ⟨fun _ _ => ⟨rfl, rfl⟩, fun _ _ _ => id⟩

theorem trans {first second third : Forest} (one : first.KeepsPlaces second)
    (two : second.KeepsPlaces third) (grows : first.nodes.size ≤ second.nodes.size) :
    first.KeepsPlaces third where
  made n valid := by
    obtain ⟨parent, name⟩ := two.made n (lt_of_lt_of_le valid grows)
    obtain ⟨parent', name'⟩ := one.made n valid
    exact ⟨parent.trans parent', name.trans name'⟩
  bound holder segment child mem := one.bound holder segment child (two.bound holder segment child mem)

/-- Setting a value keeps every node's place and binds no node. -/
theorem setValue (forest : Forest) (id : NodeId) (segment : String) (v : Value) :
    forest.KeepsPlaces (forest.setBinding id segment (.value v)) where
  made n _ := by
    rw [get_setBinding]
    split <;> exact ⟨rfl, rfl⟩
  bound holder key child mem := by
    rw [get_setBinding] at mem
    split at mem
    · rcases OrderedMap.mem_insert mem with old | new
      · exact old
      · cases new
    · exact mem

theorem eraseBinding (forest : Forest) (id : NodeId) (segment : String) :
    forest.KeepsPlaces (forest.eraseBinding id segment) where
  made n _ := by
    rw [get_eraseBinding]
    split <;> exact ⟨rfl, rfl⟩
  bound holder key child mem := by
    rw [get_eraseBinding] at mem
    split at mem
    · exact List.mem_of_mem_filter mem
    · exact mem

/-- Closing and emptying nodes keeps every node's place. -/
theorem of_shrinks {forest after : Forest} (shrinks : forest.Shrinks after) :
    forest.KeepsPlaces after where
  made n _ := by
    rcases shrinks.2 n with same | cleared
    · rw [same]
      exact ⟨rfl, rfl⟩
    · rw [cleared]
      exact ⟨rfl, rfl⟩
  bound _ _ _ mem := shrinks.entries_of_mem mem

end KeepsPlaces

namespace BoundWhereMade

variable {forest : Forest}

/-- The empty forest binds nothing. -/
theorem empty : ({} : Forest).BoundWhereMade := by
  intro holder segment child mem
  rw [get_of_size_le _ (Nat.zero_le holder)] at mem
  exact absurd mem List.not_mem_nil

/-- A node bound in the forest is one of its nodes, since it was made under another one. -/
theorem lt_size (placed : forest.BoundWhereMade) {holder child : NodeId} {segment : String}
    (mem : (segment, Bound.node child) ∈ (forest.get holder).bindings.entries) :
    child < forest.nodes.size := by
  by_contra beyond
  have made := (placed holder segment child mem).1
  rw [get_of_size_le forest (Nat.le_of_not_lt beyond)] at made
  cases made

theorem of_keepsPlaces (placed : forest.BoundWhereMade) {after : Forest}
    (keeps : forest.KeepsPlaces after) : after.BoundWhereMade := by
  intro holder segment child mem
  have old := keeps.bound holder segment child mem
  obtain ⟨parent, name⟩ := keeps.made child (placed.lt_size old)
  rw [parent, name]
  exact placed holder segment child old

/-- A new root binds nothing and moves no node. -/
theorem addRoot (placed : forest.BoundWhereMade) (config : NodeConfig) :
    (forest.addRoot config).2.BoundWhereMade := by
  refine placed.of_keepsPlaces ⟨fun n valid => ?_, fun holder segment child mem => ?_⟩
  · rw [get_addRoot, if_neg (Nat.ne_of_lt valid)]
    exact ⟨rfl, rfl⟩
  · rw [get_addRoot] at mem
    split at mem
    · simp [OrderedMap.empty] at mem
    · exact mem

/-- Making a node under a node for a segment and binding it there keeps every node in its place. -/
theorem grow (placed : forest.BoundWhereMade) (owner : NodeId) (segment : String) :
    (forest.grow owner segment).BoundWhereMade := by
  have kept : ∀ n, n ≠ forest.nodes.size →
      ((forest.grow owner segment).get n).parent = (forest.get n).parent ∧
        ((forest.grow owner segment).get n).localName = (forest.get n).localName := by
    intro n old
    simp only [Forest.grow, get_setBinding, get_addChild, if_neg old]
    split <;> exact ⟨rfl, rfl⟩
  have fresh : ((forest.grow owner segment).get forest.nodes.size).parent = some owner ∧
      ((forest.grow owner segment).get forest.nodes.size).localName = segment := by
    simp only [Forest.grow, get_setBinding, get_addChild]
    split <;> exact ⟨rfl, rfl⟩
  intro holder key child mem
  simp only [Forest.grow, get_setBinding, get_addChild] at mem
  have cases : (key, Bound.node child) ∈ (forest.get holder).bindings.entries ∨
      (holder = owner ∧ key = segment ∧ child = forest.nodes.size) := by
    split at mem
    · next atOwner =>
      rcases OrderedMap.mem_insert mem with old | new
      · split at old
        · simp [OrderedMap.empty] at old
        · exact .inl old
      · cases new
        exact .inr ⟨atOwner.1.symm, rfl, rfl⟩
    · split at mem
      · simp [OrderedMap.empty] at mem
      · exact .inl mem
  rcases cases with old | ⟨rfl, rfl, rfl⟩
  · have valid := placed.lt_size old
    rw [(kept child (Nat.ne_of_lt valid)).1, (kept child (Nat.ne_of_lt valid)).2]
    exact placed holder key child old
  · exact fresh

end BoundWhereMade

section Edits

variable {forest after : Forest} {start : NodeId} {path : PathArg}

/-- A change that opens the owner of a path keeps places when each of its outcomes does. -/
theorem keepsPlaces_of_openOwner_bind {operation : String}
    {f : NodeId × String → Except NamingError Forest}
    (keeps : ∀ owner last after, f (owner, last) = .ok after → forest.KeepsPlaces after)
    (ok : (forest.openOwner start path operation >>= f) = .ok after) :
    forest.KeepsPlaces after := by
  cases opened : forest.openOwner start path operation with
  | error e => simp [opened, Bind.bind, Except.bind] at ok
  | ok pair =>
    simp only [opened, Bind.bind, Except.bind] at ok
    exact keeps pair.1 pair.2 after ok

theorem keepsPlaces_of_bind {v : Value} (ok : forest.bind start path (.value v) = .ok after) :
    forest.KeepsPlaces after := by
  refine keepsPlaces_of_openOwner_bind (fun owner last after made => ?_) ok
  dsimp only at made
  split at made
  · cases made
  · cases made
    exact .setValue _ _ _ _

theorem keepsPlaces_of_rebind {v : Value} (ok : forest.rebind start path (.value v) = .ok after) :
    forest.KeepsPlaces after := by
  refine keepsPlaces_of_openOwner_bind (fun owner last after made => ?_) ok
  cases made
  exact .setValue _ _ _ _

theorem keepsPlaces_of_unbind (ok : forest.unbind start path = .ok after) :
    forest.KeepsPlaces after := by
  refine keepsPlaces_of_openOwner_bind (fun owner last after made => ?_) ok
  dsimp only at made
  split at made
  · cases made
    exact .eraseBinding _ _ _
  · cases made

/-- Destroying a node releases it, which only closes and empties nodes, and drops a binding. -/
theorem keepsPlaces_of_destroySubnode (ok : forest.destroySubnode start path = .ok after) :
    forest.KeepsPlaces after := by
  unfold destroySubnode at ok
  refine keepsPlaces_of_openOwner_bind (fun owner last after made => ?_) ok
  dsimp only at made
  have released : ∀ child, forest.KeepsPlaces (forest.release child) := fun child =>
    .of_shrinks (forest.releaseWith_frame _ child).1
  have sameSize : ∀ child, forest.nodes.size ≤ (forest.release child).nodes.size := fun child =>
    le_of_eq (forest.releaseWith_frame _ child).1.1.symm
  cases bound : (forest.get owner).bindings.get? last with
  | none => simp [bound, Bind.bind, Except.bind] at made
  | some b =>
    cases b with
    | value v => simp [bound, Bind.bind, Except.bind] at made
    | node child =>
      simp only [bound, Bind.bind, Except.bind] at made
      split at made
      · split at made <;> cases made
        · exact (released child).trans (.eraseBinding _ _ _) (sameSize child)
        · exact released child
      · cases made
        exact released child

/-- Making a node at a path binds it where it is made. -/
theorem boundWhereMade_of_createSubnode (placed : forest.BoundWhereMade) {child : NodeId}
    (ok : forest.createSubnode start path = .ok (child, after)) : after.BoundWhereMade := by
  unfold createSubnode at ok
  cases opened : forest.openOwner start path "create" with
  | error e => simp [opened, Bind.bind, Except.bind] at ok
  | ok pair =>
    obtain ⟨owner, last⟩ := pair
    simp only [opened, Bind.bind, Except.bind] at ok
    split at ok
    · cases ok
    · cases ok
      exact placed.grow owner last

end Edits

end Forest

namespace TreeM

/-- Making the missing nodes of a path binds each where it is made. -/
theorem boundWhereMade_ensureSegments {forest : Forest} (placed : forest.BoundWhereMade)
    (start : NodeId) (rest : List String) :
    ((TreeM.ensureSegments start rest).exec forest).2.BoundWhereMade := by
  induction rest generalizing forest start with
  | nil => exact placed
  | cons segment rest ih =>
    cases closed : (forest.get start).closed
    · rw [exec_ensureSegments_cons forest segment rest closed]
      cases bound : (forest.get start).bindings.get? segment with
      | none => exact ih (placed.grow start segment) _
      | some b =>
        cases b with
        | node child => exact ih placed child
        | value v => exact placed
    · rw [exec_ensureSegments_closed forest segment rest closed]
      exact placed

end TreeM

namespace RootEdit

variable {forest : Forest}

/-- A change run as an edit leaves what it makes, or the forest when it fails. -/
theorem exec_change_snd (f : Forest → Except NamingError Forest) (forest : Forest) :
    ((do TreeM.change f; pure none : TreeM (Option NodeId)).exec forest).2 =
      match f forest with
      | .ok after => after
      | .error _ => forest := by
  rw [TreeM.exec_bind, TreeM.exec_change]
  cases f forest <;> rfl

/-- A change that keeps places when it succeeds keeps every node binding where it was made. -/
theorem boundWhereMade_change (placed : forest.BoundWhereMade)
    {f : Forest → Except NamingError Forest}
    (keeps : ∀ after, f forest = .ok after → forest.KeepsPlaces after) :
    ((do TreeM.change f; pure none : TreeM (Option NodeId)).exec forest).2.BoundWhereMade := by
  rw [exec_change_snd]
  cases changed : f forest with
  | ok after => exact placed.of_keepsPlaces (keeps after changed)
  | error e => exact placed

/-- Every root edit keeps each node binding in the slot its node was made in. -/
theorem boundWhereMade_run (placed : forest.BoundWhereMade) (root : NodeId) (edit : RootEdit) :
    ((edit.run root).exec forest).2.BoundWhereMade := by
  cases edit with
  | bind path v => exact boundWhereMade_change placed fun _ => Forest.keepsPlaces_of_bind
  | rebind path v => exact boundWhereMade_change placed fun _ => Forest.keepsPlaces_of_rebind
  | unbind path => exact boundWhereMade_change placed fun _ => Forest.keepsPlaces_of_unbind
  | destroySubnode path =>
    exact boundWhereMade_change placed fun _ => Forest.keepsPlaces_of_destroySubnode
  | createSubnode path =>
    simp only [run, TreeM.exec_bind, TreeM.exec_make]
    cases made : forest.createSubnode root path with
    | ok result => exact Forest.boundWhereMade_of_createSubnode placed made
    | error e => exact placed
  | ensureSubnode path =>
    simp only [run, TreeM.exec_bind, exec_ensureSubnode]
    have ensured := TreeM.boundWhereMade_ensureSegments placed root
      (forest.resolve root path).segments
    revert ensured
    cases (TreeM.ensureSegments root (forest.resolve root path).segments).exec forest with
    | mk outcome after => cases outcome <;> exact id

/-- Along any history of root edits, each node binding sits in the slot its node was made in. -/
theorem boundWhereMade_replay (root : NodeId) :
    ∀ (history : List RootEdit) {forest : Forest}, forest.BoundWhereMade →
      (replay root forest history).BoundWhereMade
  | [], _, placed => placed
  | edit :: rest, _, placed => boundWhereMade_replay root rest (boundWhereMade_run placed root edit)

end RootEdit

end NamingDirectory
