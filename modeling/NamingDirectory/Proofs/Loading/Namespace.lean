import Mathlib
import NamingDirectory.Proofs.Tree.ClosedNode
import NamingDirectory.Proofs.Tree.RootEdits
import NamingDirectory.Proofs.Tree.Placement

/-!
Loading records that make one typed value replaces a node that sits where it was made
(`whole_load_after_root_edits_replaces_node`).
-/

namespace NamingDirectory

namespace Forest

variable {forest : Forest}

/-- Only a node of the forest has bindings. -/
theorem lt_size_of_mem_bindings {n : NodeId} {entry : String × Bound}
    (mem : entry ∈ (forest.get n).bindings.entries) : n < forest.nodes.size := by
  by_contra beyond
  rw [get_of_size_le forest (Nat.le_of_not_lt beyond)] at mem
  exact List.not_mem_nil mem

/-- A node a path leads to is reached through bindings. -/
theorem reaches_of_find {start n : NodeId} {path : List String}
    (found : forest.find start path = some (.node n)) : forest.Reaches start n := by
  induction path using List.reverseRecOn generalizing n with
  | nil =>
    cases found
    exact .refl
  | append_singleton before segment ih =>
    rw [find_concat] at found
    obtain ⟨b, foundBefore, last⟩ := Option.bind_eq_some_iff.mp found
    obtain ⟨bound, foundBound, isNode⟩ := Option.bind_eq_some_iff.mp foundBefore
    obtain rfl : bound = .node b := by
      cases bound <;> simp_all [Bound.node?]
    obtain ⟨entry, first, same⟩ := Option.map_eq_some_iff.mp last
    have key : entry.1 = segment := by simpa using List.find?_some first
    have mem : (segment, Bound.node n) ∈ (forest.get b).bindings.entries := by
      rw [← key, ← same]
      exact List.mem_of_find?_eq_some first
    exact .step (ih foundBound) mem

/-- A set whose members are held or bound in another member stays among the living nodes. -/
theorem mem_keepHeldWith {held : List NodeId} {kept : NodeId → Prop}
    (supported : ∀ n, kept n → n ∈ held ∨ ∃ binder, kept binder ∧ forest.binds binder n = true) :
    ∀ (fuel : Nat) (living : List NodeId), (∀ n, kept n → n ∈ living) →
      ∀ n, kept n → n ∈ forest.keepHeldWith held fuel living
  | 0, _, within => within
  | fuel + 1, living, within => by
    have next : ∀ n, kept n → n ∈ forest.keepHeld held living := by
      intro n member
      refine List.mem_filter.mpr ⟨within n member, ?_⟩
      rcases supported n member with holder | ⟨binder, bound, binds⟩
      · simp [holder]
      · exact Bool.or_eq_true_iff.mpr (.inr (List.any_eq_true.mpr ⟨binder, within _ bound, binds⟩))
    simp only [keepHeldWith]
    split
    · exact within
    · exact mem_keepHeldWith supported fuel _ next

/-- A node of the forest reached from a node held from outside lives. -/
theorem mem_living_of_reaches {held : List NodeId} {holder n : NodeId} (holding : holder ∈ held)
    (reached : forest.Reaches holder n) (valid : n < forest.nodes.size) :
    n ∈ forest.living held := by
  have supported : ∀ m, (m < forest.nodes.size ∧ forest.Reaches holder m) →
      m ∈ held ∨ ∃ binder, (binder < forest.nodes.size ∧ forest.Reaches holder binder) ∧
        forest.binds binder m = true := by
    rintro m ⟨-, reachedM⟩
    cases reachedM with
    | refl => exact .inl holding
    | step before mem =>
      refine .inr ⟨_, ⟨lt_size_of_mem_bindings mem, before⟩, ?_⟩
      exact List.any_eq_true.mpr ⟨_, mem, by simp [Bound.node?]⟩
  exact mem_keepHeldWith supported _ _ (fun m member => List.mem_range.mpr member.1) n
    ⟨valid, reached⟩

end Forest

namespace Refines

variable {config : NodeConfig} {root : NodeId} {forest : Forest} {m : PathMap}

/-- The walk along a path from the root ends at the node the path leads to. -/
theorem walk_of_found (refines : Refines config root forest m) {path : List String}
    {n : NodeId} (found : forest.find root path = some (.node n)) :
    forest.walk root path = .ok n := by
  suffices onward : ∀ rest done start, forest.find root done = some (.node start) →
      forest.find start rest = some (.node n) → forest.walk start rest = .ok n from
    onward path [] root rfl found
  intro rest
  induction rest with
  | nil =>
    intro done start _ reached
    cases reached
    rfl
  | cons segment rest ih =>
    intro done start foundStart reached
    have isOpen := (refines.describes done start foundStart).isOpen
    simp only [Forest.find] at reached
    simp only [Forest.walk, isOpen, Bool.false_eq_true, ↓reduceIte]
    cases bound : (forest.get start).bindings.get? segment with
    | none => simp [bound] at reached
    | some b =>
      cases b with
      | value v => simp [bound] at reached
      | node child =>
        simp only [bound] at reached ⊢
        have foundChild : forest.find root (done ++ [segment]) = some (.node child) := by
          rw [Forest.find_concat, foundStart]
          simpa [Bound.node?] using bound
        exact ih _ _ foundChild reached

/-- The node a found node was made under, when found too, is its living parent while the root is held. -/
theorem parent?_of_found (refines : Refines config root forest m) {held : List NodeId}
    (rootHeld : root ∈ held) {po : List String} {o target : NodeId}
    (foundOwner : forest.find root po = some (.node o))
    (made : (forest.get target).parent = some o) : forest.parent? held target = some o := by
  have lives := Forest.mem_living_of_reaches rootHeld (Forest.reaches_of_find foundOwner)
    (refines.describes po o foundOwner).valid
  simp [Forest.parent?, made, lives]

end Refines

namespace Loader

variable {config : NodeConfig} {root : NodeId} {forest : Forest} {m : PathMap}

/-- Records that make one typed value bind it at the target's segment in its found parent. -/
theorem exec_load_whole_of_found (refines : Refines config root forest m) (loader : Loader)
    {held : List NodeId} (rootHeld : root ∈ held) (records : Records) {po : List String}
    {o target : NodeId} (foundOwner : forest.find root po = some (.node o))
    (made : (forest.get target).parent = some o) {d : TypeDescriptor} {v : Value}
    (whole : (classify records (forest.delimiter target)).whole = some d)
    (converts : loader.conversion.convert d = .ok v) :
    (loader.load held records target).exec forest =
      (.ok (), forest.setBinding o (forest.get target).localName (.value v)) := by
  have parent := refines.parent?_of_found (List.mem_cons_of_mem target rootHeld) foundOwner made
  rw [exec_load_whole loader held records target forest whole, exec_replaceNamespace, parent]
  simp [converts, (refines.describes po o foundOwner).isOpen]

end Loader

/-- Records that make one typed value replace a node found where it was made. -/
theorem whole_load_replaces_node_in_its_slot {config : NodeConfig} {root : NodeId}
    {forest : Forest} {m : PathMap} (refines : Refines config root forest m) (loader : Loader)
    {held : List NodeId} (rootHeld : root ∈ held) (records : Records) {po : List String}
    {segment : String} {o target : NodeId} (foundOwner : forest.find root po = some (.node o))
    (foundTarget : forest.find root (po ++ [segment]) = some (.node target))
    (madeThere : (forest.get target).parent = some o ∧ (forest.get target).localName = segment)
    {d : TypeDescriptor} {v : Value}
    (whole : (classify records (forest.delimiter target)).whole = some d)
    (converts : loader.conversion.convert d = .ok v) :
    let after := (loader.load held records target).exec forest
    after.1 = .ok () ∧
      after.2.lookupValue root (.segments ⟨po ++ [segment]⟩) = .ok v ∧
      (∀ path, ¬ po ++ [segment] <+: path → after.2.find root path = forest.find root path) ∧
      Refines config root after.2 (m.replace (po ++ [segment]) (.leaf v)) := by
  intro after
  have loaded := Loader.exec_load_whole_of_found refines loader rootHeld records foundOwner
    madeThere.1 whole converts
  rw [madeThere.2] at loaded
  have valid := (refines.describes po o foundOwner).valid
  have change : ChangesAt root forest (forest.setBinding o segment (.value v)) po o segment :=
    .setBinding valid segment (.value v)
  have replaced : m.put po segment (.leaf v) = m.replace (po ++ [segment]) (.leaf v) := by
    rw [PathMap.put, if_pos (by rw [refines.get_of_found foundTarget (by simp)]; rfl)]
  have refinesAfter := refines.setValue foundOwner segment v
  rw [replaced] at refinesAfter
  have ownerAfter : (forest.setBinding o segment (.value v)).find root po = some (.node o) := by
    rw [refines.find_off foundOwner change (fun below => by simpa using below.length_le)]
    exact foundOwner
  have walked := refinesAfter.walk_of_found ownerAfter
  have isOpen := (refines.describes po o foundOwner).isOpen
  refine ⟨by rw [show after = _ from loaded], ?_, fun path outside => ?_, ?_⟩
  · rw [show after = _ from loaded]
    simp [Forest.lookupValue, Forest.lookup, Forest.resolve, PathArg.resolve, Name.last?,
      Name.parent_segments, walked, isOpen, Forest.get_setBinding, valid, OrderedMap.get?_insert,
      Bind.bind, Except.bind]
  · rw [show after = _ from loaded]
    exact refines.find_off foundOwner change outside
  · rw [show after = _ from loaded]
    exact refinesAfter

/-- A root with one node made at `a`. -/
def sampleTree : Forest :=
  RootEdit.replay 0 (({} : Forest).addRoot {}).2 [.createSubnode (.key "a")]

/-- Records that make one value of type `zzz` as a whole. -/
def zzzRecords : Records := ⟨[("type", .single "zzz")]⟩

/-- The value those records convert to: a reference of type `zzz` with no properties. -/
def zzzReference : Reference := ⟨"zzz", OrderedMap.ofList []⟩

/-- After any root edits on a held fresh root, loading one typed value into the node at a non-empty
path replaces it, and the tree refines the edits' map with the path set to the value. -/
theorem whole_load_after_root_edits_replaces_node {forest : Forest}
    (placed : forest.BoundWhereMade) (config : NodeConfig) (history : List RootEdit)
    (loader : Loader) (held : List NodeId) (records : Records) (po : List String)
    (segment : String) (target : NodeId) (d : TypeDescriptor) (v : Value) :
    let root := forest.nodes.size
    let tree := RootEdit.replay root (forest.addRoot config).2 history
    root ∈ held →
    tree.find root (po ++ [segment]) = some (.node target) →
    (classify records (tree.delimiter target)).whole = some d →
    loader.conversion.convert d = .ok v →
    let after := (loader.load held records target).exec tree
    after.1 = .ok () ∧
      after.2.lookupValue root (.segments ⟨po ++ [segment]⟩) = .ok v ∧
      (∀ path, ¬ po ++ [segment] <+: path → after.2.find root path = tree.find root path) ∧
      Refines config root after.2
        ((RootEdit.replayMap config.delimiter PathMap.empty history).replace (po ++ [segment])
          (.leaf v)) := by
  intro root tree rootHeld foundTarget whole converts
  have refines : Refines config root tree (RootEdit.replayMap config.delimiter PathMap.empty history) :=
    (refines_addRoot forest config).replay history
  have placedTree : tree.BoundWhereMade :=
    RootEdit.boundWhereMade_replay root history (placed.addRoot config)
  obtain ⟨o, foundOwner⟩ := tree.exists_node_of_find_concat (by rw [foundTarget]; rfl)
  have bound : (tree.get o).bindings.get? segment = some (.node target) := by
    rw [Forest.find_concat, foundOwner] at foundTarget
    simpa [Bound.node?] using foundTarget
  exact whole_load_replaces_node_in_its_slot refines loader rootHeld records foundOwner foundTarget
    (placedTree o segment target (OrderedMap.mem_of_get? bound)) whole converts

theorem whole_load_after_creating_a_replaces_it :
    let after := ((Loader.mk ConversionService.standard).load [0] zzzRecords 1).exec sampleTree
    after.1 = .ok () ∧
      after.2.lookupValue 0 (.segments ⟨[] ++ ["a"]⟩) = .ok (.reference zzzReference) ∧
      (∀ path, ¬ [] ++ ["a"] <+: path → after.2.find 0 path = sampleTree.find 0 path) ∧
      Refines {} 0 after.2 ((RootEdit.replayMap Delimiter.default PathMap.empty
        [.createSubnode (.key "a")]).replace ([] ++ ["a"]) (.leaf (.reference zzzReference))) := by
  have foundTarget : sampleTree.find 0 ([] ++ ["a"]) = some (.node 1) := by
    have evaluated : (sampleTree.find 0 ["a"]).bind Bound.node? = some 1 := by decide +kernel
    obtain ⟨bound, found, isNode⟩ := Option.bind_eq_some_iff.mp evaluated
    cases bound <;> simp_all [Bound.node?]
  have whole : (classify zzzRecords (sampleTree.delimiter 1)).whole =
      some (TypeDescriptor.new Name.empty "zzz") := by
    have evaluated : (classify zzzRecords (sampleTree.delimiter 1)).whole.map
        (fun d => (d.path, d.typeName, d.converter, d.value, d.attributes)) =
          some (Name.empty, "zzz", none, none, OrderedMap.empty) := by
      decide +kernel
    cases described : (classify zzzRecords (sampleTree.delimiter 1)).whole with
    | none => simp [described] at evaluated
    | some d =>
      rw [described] at evaluated
      obtain ⟨path, typeName, converter, value, attributes⟩ := d
      simp only [Option.map_some, Option.some.injEq, Prod.mk.injEq] at evaluated
      obtain ⟨rfl, rfl, rfl, rfl, rfl⟩ := evaluated
      rfl
  exact whole_load_after_root_edits_replaces_node Forest.BoundWhereMade.empty {}
    [.createSubnode (.key "a")] _ [0] zzzRecords [] "a" 1 _ _ (by decide) foundTarget whole rfl

/-- A root with a node made at `a` and then renamed to `b`. -/
def renamedTree : Forest :=
  match (({} : Forest).addRoot {}).2.createSubnode 0 (.key "a") with
  | .ok (_, made) => ((TreeM.rename 0 (.key "a") (.key "b")).exec made).2
  | .error _ => {}

/-- Loading one value into a node renamed from `a` to `b` leaves it at `b` and binds the value at `a`. -/
theorem whole_load_into_renamed_node_binds_old_segment :
    let after := ((Loader.mk ConversionService.standard).load [0] zzzRecords 1).exec renamedTree
    after.1 = .ok () ∧ after.2.lookup 0 (.key "b") = .ok (.node 1) ∧
      after.2.lookupValue 0 (.key "a") = .ok (.reference zzzReference) := by
  intro after
  -- Values do not compare decidably, so the run is read through decidable projections.
  have evaluated : after.1.isOk = true ∧
      (after.2.lookup 0 (.key "b")).toOption.bind Bound.node? = some 1 ∧
      (after.2.lookupValue 0 (.key "a")).toOption.bind Value.asReference? = some zzzReference := by
    decide +kernel
  obtain ⟨loaded, movedStays, valueAtOld⟩ := evaluated
  refine ⟨?_, ?_, ?_⟩
  · generalize after.1 = result at loaded ⊢
    cases result with
    | error e => simp [Except.isOk, Except.toBool] at loaded
    | ok u => rfl
  · generalize after.2.lookup 0 (.key "b") = looked at movedStays ⊢
    cases looked with
    | error e => simp [Except.toOption] at movedStays
    | ok bound =>
      cases bound <;> simp [Except.toOption, Bound.node?] at movedStays
      rw [movedStays]
  · generalize after.2.lookupValue 0 (.key "a") = looked at valueAtOld ⊢
    cases looked with
    | error e => simp [Except.toOption] at valueAtOld
    | ok v =>
      cases v <;> simp [Except.toOption, Value.asReference?] at valueAtOld
      rw [valueAtOld]

end NamingDirectory
