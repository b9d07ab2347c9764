import Mathlib
import NamingDirectory.Proofs.Tree.PathMap
import NamingDirectory.Proofs.Tree.Release

/-!
The tree under a root refines the abstract path map (`Refines`), and a change of one binding
keeps the relation off that binding.
-/

namespace NamingDirectory

/-- The bindings of a node as the path map sees them: names with what they hold. -/
def OrderedMap.slots (map : OrderedMap Bound) : List (String × Slot) :=
  map.entries.map fun entry => (entry.1, entry.2.slot)

/-- A node found at a path as the map describes it: open, named, configured, its children in order. -/
structure Describes (config : NodeConfig) (forest : Forest) (m : PathMap) (path : List String)
    (n : NodeId) : Prop where
  children : (forest.get n).bindings.slots = m.children path
  isOpen : (forest.get n).closed = false
  name : forest.name n = pathName config.delimiter.separator path
  config : (forest.get n).config = config
  valid : n < forest.nodes.size

/-- The tree of a root is the path map: each node found is described, and none at two paths. -/
structure Refines (config : NodeConfig) (root : NodeId) (forest : Forest) (m : PathMap) : Prop where
  wellFormed : m.WellFormed
  describes : ∀ path n, forest.find root path = some (.node n) → Describes config forest m path n
  injective : ∀ path path' n, forest.find root path = some (.node n) →
    forest.find root path' = some (.node n) → path = path'

/-- A root added to any forest, with nothing bound, describes the empty map. -/
theorem refines_addRoot (forest : Forest) (config : NodeConfig) :
    Refines config forest.nodes.size (forest.addRoot config).2 PathMap.empty := by
  have fresh : (forest.addRoot config).2.get forest.nodes.size = { config := config } := by
    simp [Forest.addRoot, Forest.get]
  have top : ∀ path n, (forest.addRoot config).2.find forest.nodes.size path = some (.node n) →
      path = [] ∧ n = forest.nodes.size := by
    intro path n found
    cases path with
    | nil => exact ⟨rfl, by simpa using found.symm⟩
    | cons segment rest => simp [Forest.find, fresh, OrderedMap.get?, OrderedMap.empty] at found
  refine ⟨.empty, fun path n found => ?_, fun path path' n found found' => ?_⟩
  · obtain ⟨rfl, rfl⟩ := top path n found
    exact ⟨by simp [fresh, OrderedMap.slots, OrderedMap.empty, PathMap.children, PathMap.empty],
      by simp [fresh], by simp [Forest.name, fresh, pathName], by simp [fresh],
      by simp [Forest.addRoot]⟩
  · rw [(top path n found).1, (top path' n found').1]

namespace Describes

variable {config : NodeConfig} {forest : Forest} {m : PathMap} {path : List String} {n : NodeId}

/-- A segment under a described node is named by the longer path. -/
theorem compose (describes : Describes config forest m path n) (segment : String) :
    forest.compose n segment = pathName config.delimiter.separator (path ++ [segment]) := by
  simp only [Forest.compose, Forest.delimiter, describes.name, describes.config, pathName_concat]

/-- The path one segment longer holds what the described node binds to that segment. -/
theorem get_concat (describes : Describes config forest m path n) (segment : String) :
    m.get (path ++ [segment]) = ((forest.get n).bindings.get? segment).map Bound.slot := by
  rw [PathMap.get_concat, ← describes.children]
  simp only [OrderedMap.slots, OrderedMap.get?, List.find?_map, Option.map_map]
  have same : ((fun c : String × Slot => decide (c.1 = segment)) ∘ fun entry : String × Bound =>
      (entry.1, entry.2.slot)) = fun entry => entry.1 == segment := by
    funext entry
    exact (Bool.beq_eq_decide_eq _ _).symm
  rw [same]
  rfl

/-- A node stays described when only its bindings change, to the children of its path. -/
theorem transfer (describes : Describes config forest m path n) {forest' : Forest} {m' : PathMap}
    (fields : forest'.get n = { forest.get n with bindings := (forest'.get n).bindings })
    (children : (forest'.get n).bindings.slots = m'.children path)
    (size : forest.nodes.size ≤ forest'.nodes.size) : Describes config forest' m' path n where
  children := children
  isOpen := by rw [fields]; exact describes.isOpen
  name := by rw [Forest.name, fields]; exact describes.name
  config := by rw [fields]; exact describes.config
  valid := lt_of_lt_of_le describes.valid size

/-- The path one segment longer is bound exactly when the described node binds the segment. -/
theorem isSome_get_concat (describes : Describes config forest m path n) (segment : String) :
    (m.get (path ++ [segment])).isSome = (forest.get n).bindings.contains segment := by
  rw [describes.get_concat, Option.isSome_map, OrderedMap.contains_eq_isSome]

end Describes

/-- The path of a binding is not a prefix of its directory. -/
theorem concat_not_prefix_self (po : List String) (segment : String) :
    ¬ po ++ [segment] <+: po :=
  fun below => by simpa using below.length_le

/-- A change around the binding of `segment` in `o` at `po`: nothing else changed off that path. -/
structure ChangesAt (root : NodeId) (forest forest' : Forest) (po : List String) (o : NodeId)
    (segment : String) : Prop where
  size : forest.nodes.size ≤ forest'.nodes.size
  owner : forest'.get o = { forest.get o with bindings := (forest'.get o).bindings }
  keys : ∀ key, key ≠ segment →
    (forest'.get o).bindings.get? key = (forest.get o).bindings.get? key
  others : ∀ q n, forest.find root q = some (.node n) → ¬ po ++ [segment] <+: q → n ≠ o →
    forest'.get n = forest.get n

namespace ChangesAt

variable {root : NodeId} {forest : Forest} {po : List String} {o : NodeId}

theorem setBinding (valid : o < forest.nodes.size) (segment : String) (bound : Bound) :
    ChangesAt root forest (forest.setBinding o segment bound) po o segment where
  size := by simp [Forest.setBinding]
  owner := by rw [Forest.get_setBinding, if_pos ⟨rfl, valid⟩]
  keys := fun key other => by
    rw [Forest.get_setBinding, if_pos ⟨rfl, valid⟩, OrderedMap.get?_insert, if_neg (Ne.symm other)]
  others := fun _ _ _ _ other => by rw [Forest.get_setBinding, if_neg fun same => other same.1.symm]

theorem eraseBinding (valid : o < forest.nodes.size) (segment : String) :
    ChangesAt root forest (forest.eraseBinding o segment) po o segment where
  size := by simp [Forest.eraseBinding]
  owner := by rw [Forest.get_eraseBinding, if_pos ⟨rfl, valid⟩]
  keys := fun key other => by
    rw [Forest.get_eraseBinding, if_pos ⟨rfl, valid⟩, OrderedMap.get?_erase, if_neg (Ne.symm other)]
  others := fun _ _ _ _ other => by rw [Forest.get_eraseBinding, if_neg fun same => other same.1.symm]

end ChangesAt

namespace Refines

variable {config : NodeConfig} {root : NodeId} {forest : Forest} {m : PathMap}

/-- The names bound in a node found from the root are distinct. -/
theorem keys_nodup (refines : Refines config root forest m) {path : List String} {n : NodeId}
    (found : forest.find root path = some (.node n)) :
    ((forest.get n).bindings.entries.map (·.1)).Nodup := by
  have children := (refines.describes path n found).children
  have distinct := refines.wellFormed.children_nodup path
  rw [← children, OrderedMap.slots, List.map_map] at distinct
  simpa [Function.comp_def] using distinct

/-- A binding in a node found at a path is what the path one segment longer leads to. -/
theorem find_of_mem (refines : Refines config root forest m) {path : List String} {n : NodeId}
    (found : forest.find root path = some (.node n)) {key : String} {bound : Bound}
    (mem : (key, bound) ∈ (forest.get n).bindings.entries) :
    forest.find root (path ++ [key]) = some bound := by
  rw [Forest.find_concat, found]
  simpa [Bound.node?] using OrderedMap.get?_of_mem _ (refines.keys_nodup found) mem

/-- Every node a node found at a path reaches is found below that path. -/
theorem find_of_reaches (refines : Refines config root forest m) {path : List String}
    {start n : NodeId} (found : forest.find root path = some (.node start))
    (reached : forest.Reaches start n) : ∃ rest, forest.find root (path ++ rest) = some (.node n) := by
  induction reached with
  | refl => exact ⟨[], by simpa using found⟩
  | step _ mem ih =>
      obtain ⟨rest, foundAt⟩ := ih
      exact ⟨rest ++ [_], by rw [← List.append_assoc]; exact refines.find_of_mem foundAt mem⟩

/-- From a node found at `done`, walking `rest` fails where the abstract walk stops, alike. -/
theorem walk_from (refines : Refines config root forest m) {done : List String} {n : NodeId}
    (found : forest.find root done = some (.node n)) (rest : List String) :
    (forest.walk n rest).map (fun _ => ()) = match m.firstNonDir done rest with
      | some stop => .error (m.stopError config.delimiter.separator stop)
      | none => .ok () := by
  induction rest generalizing done n with
  | nil => rfl
  | cons segment rest ih =>
      have describes := refines.describes done n found
      have slot := describes.get_concat segment
      simp only [Forest.walk, describes.isOpen, PathMap.firstNonDir, slot]
      cases bound : (forest.get n).bindings.get? segment with
      | none => simp [PathMap.stopError, slot, bound, describes.compose, Except.map]
      | some b =>
          cases b with
          | value v =>
              simp [PathMap.stopError, slot, bound, describes.compose, Bound.slot, Except.map]
          | node child =>
              have next : forest.find root (done ++ [segment]) = some (.node child) := by
                rw [Forest.find_concat, found]
                simpa [Bound.node?] using bound
              simpa [Bound.slot] using ih next

/-- Walking from the root fails where the abstract walk stops, with the same error. -/
theorem walk_root (refines : Refines config root forest m) (path : List String) :
    (forest.walk root path).map (fun _ => ()) = m.walk config.delimiter.separator path :=
  refines.walk_from (Forest.find_nil forest root) path

/-- The root's paths are cut with the delimiter of the tree. -/
theorem resolve_root (refines : Refines config root forest m) (path : PathArg) :
    forest.resolve root path = path.resolve config.delimiter := by
  simp [Forest.resolve, Forest.delimiter, (refines.describes [] root (forest.find_nil root)).config]

/-- A node found at a path below the top is a directory there. -/
theorem get_of_found (refines : Refines config root forest m) {path : List String} {n : NodeId}
    (found : forest.find root path = some (.node n)) (notTop : path ≠ []) :
    m.get path = some .dir := by
  obtain ⟨before, segment, rfl⟩ : ∃ before segment, path = before ++ [segment] :=
    ⟨path.dropLast, path.getLast notTop, (List.dropLast_append_getLast notTop).symm⟩
  rw [Forest.find_concat] at found
  cases foundBefore : forest.find root before with
  | none => simp [foundBefore] at found
  | some bound =>
      cases bound with
      | value v => simp [foundBefore, Bound.node?] at found
      | node parent =>
          simp only [foundBefore, Option.bind_some, Bound.node?] at found
          rw [(refines.describes before parent foundBefore).get_concat segment, found]
          rfl

theorem walk_root_error (refines : Refines config root forest m) {path : List String}
    {e : NamingError} (walked : m.walk config.delimiter.separator path = .error e) :
    forest.walk root path = .error e := by
  have same := refines.walk_root path
  rw [walked] at same
  cases result : forest.walk root path with
  | error e' => rw [result] at same; simpa [Except.map] using same
  | ok n => rw [result] at same; simp [Except.map] at same

theorem walk_root_ok (refines : Refines config root forest m) {path : List String}
    (walked : m.walk config.delimiter.separator path = .ok ()) :
    ∃ n, forest.walk root path = .ok n ∧ forest.find root path = some (.node n) := by
  have same := refines.walk_root path
  rw [walked] at same
  cases result : forest.walk root path with
  | error e => rw [result] at same; simp [Except.map] at same
  | ok n => exact ⟨n, rfl, forest.find_of_walk result⟩

/-- How a walk from the root to the directory of a path's last segment ends. -/
theorem directory_cases (refines : Refines config root forest m) (segments : List String) :
    segments = [] ∨
      (∃ dir segment e, segments = dir ++ [segment] ∧
        m.walk config.delimiter.separator dir = .error e ∧ forest.walk root dir = .error e) ∨
      (∃ dir segment o, segments = dir ++ [segment] ∧
        m.walk config.delimiter.separator dir = .ok () ∧ forest.walk root dir = .ok o ∧
        forest.find root dir = some (.node o)) := by
  rcases List.eq_nil_or_concat segments with empty | ⟨dir, segment, rfl⟩
  · exact .inl empty
  · cases walked : m.walk config.delimiter.separator dir with
    | error e => exact .inr (.inl ⟨dir, segment, e, by simp, walked, refines.walk_root_error walked⟩)
    | ok _ =>
        obtain ⟨o, walkedTo, found⟩ := refines.walk_root_ok walked
        exact .inr (.inr ⟨dir, segment, o, by simp, walked, walkedTo, found⟩)

/-- How finding the owner of a path's last segment ends, as the abstract walk decides it. -/
theorem openOwner_cases (refines : Refines config root forest m) (path : PathArg)
    (operation : String) :
    ((path.resolve config.delimiter).segments = [] ∧
        forest.openOwner root path operation = .error (PathMap.emptyName operation)) ∨
      (∃ dir segment e, (path.resolve config.delimiter).segments = dir ++ [segment] ∧
        m.walk config.delimiter.separator dir = .error e ∧
        forest.openOwner root path operation = .error e) ∨
      (∃ dir segment o, (path.resolve config.delimiter).segments = dir ++ [segment] ∧
        m.walk config.delimiter.separator dir = .ok () ∧
        forest.openOwner root path operation = .ok (o, segment) ∧
        forest.find root dir = some (.node o)) := by
  rcases refines.directory_cases (path.resolve config.delimiter).segments with
    empty | ⟨dir, segment, e, whole, walked, walkedTo⟩ | ⟨dir, segment, o, whole, walked, walkedTo, found⟩
  · refine .inl ⟨empty, ?_⟩
    simp [Forest.openOwner, Forest.owner, refines.resolve_root, Name.last?, empty,
      PathMap.emptyName, Bind.bind, Except.bind]
  · refine .inr (.inl ⟨dir, segment, e, whole, walked, ?_⟩)
    simp [Forest.openOwner, Forest.owner, refines.resolve_root, Name.last?, Name.parent_segments,
      whole, walkedTo, Except.map, Bind.bind, Except.bind]
  · refine .inr (.inr ⟨dir, segment, o, whole, walked, ?_, found⟩)
    simp [Forest.openOwner, Forest.owner, refines.resolve_root, Name.last?, Name.parent_segments,
      whole, walkedTo, Except.map, Bind.bind, Except.bind, (refines.describes _ o found).isOpen]

section Frame

variable {po : List String} {o : NodeId} {segment : String} {forest' : Forest}

/-- A change around one binding leaves every path off it leading where it did. -/
theorem find_off (refines : Refines config root forest m)
    (found : forest.find root po = some (.node o)) (change : ChangesAt root forest forest' po o segment)
    {path : List String} (outside : ¬ po ++ [segment] <+: path) :
    forest'.find root path = forest.find root path := by
  apply Forest.find_congr
  intro before key prefix_ n foundAt
  have off : ¬ po ++ [segment] <+: before := fun under =>
    outside (under.trans ((List.prefix_append before [key]).trans prefix_))
  by_cases atOwner : n = o
  · subst atOwner
    obtain rfl := refines.injective _ _ _ foundAt found
    apply change.keys
    rintro rfl
    exact outside prefix_
  · rw [change.others before n foundAt off atOwner]

/-- After a change around one binding, its path leads to what the owner now binds there. -/
theorem find_changed (refines : Refines config root forest m)
    (found : forest.find root po = some (.node o)) (change : ChangesAt root forest forest' po o segment) :
    forest'.find root (po ++ [segment]) = (forest'.get o).bindings.get? segment := by
  rw [Forest.find_concat, refines.find_off found change (concat_not_prefix_self po segment),
    found]
  rfl

/-- After a change around one binding, a node found off it is described with the owner's new bindings. -/
theorem describes_off (refines : Refines config root forest m)
    (found : forest.find root po = some (.node o)) (change : ChangesAt root forest forest' po o segment)
    {m' : PathMap} (ownerChildren : (forest'.get o).bindings.slots = m'.children po)
    (otherChildren : ∀ q, q ≠ po → ¬ po ++ [segment] <+: q → m'.children q = m.children q)
    {path : List String} {n : NodeId} (outside : ¬ po ++ [segment] <+: path)
    (found' : forest'.find root path = some (.node n)) : Describes config forest' m' path n := by
  rw [refines.find_off found change outside] at found'
  have old := refines.describes path n found'
  by_cases atOwner : n = o
  · subst atOwner
    obtain rfl := refines.injective _ _ _ found' found
    exact old.transfer change.owner ownerChildren change.size
  · have same := change.others path n found' outside atOwner
    have elsewhere : path ≠ po := by
      rintro rfl
      exact atOwner (by simpa using found'.symm.trans found)
    refine old.transfer (by rw [same]) ?_ change.size
    rw [same, otherChildren path elsewhere outside]
    exact old.children

/-- A change around one binding that leaves no node there keeps the relation. -/
theorem of_off (refines : Refines config root forest m)
    (found : forest.find root po = some (.node o)) (change : ChangesAt root forest forest' po o segment)
    {m' : PathMap} (wf : m'.WellFormed)
    (ownerChildren : (forest'.get o).bindings.slots = m'.children po)
    (otherChildren : ∀ q, q ≠ po → ¬ po ++ [segment] <+: q → m'.children q = m.children q)
    (stops : ((forest'.get o).bindings.get? segment).bind Bound.node? = none) :
    Refines config root forest' m' := by
  have off : ∀ q n, forest'.find root q = some (.node n) → ¬ po ++ [segment] <+: q := by
    rintro q n found' ⟨rest, rfl⟩
    exact forest'.find_append_ne_node (by rw [refines.find_changed found change]; exact stops)
      rest n found'
  refine ⟨wf, fun q n found' => refines.describes_off found change ownerChildren otherChildren
    (off q n found') found', fun q q' n found' found'' => ?_⟩
  rw [refines.find_off found change (off q n found')] at found'
  rw [refines.find_off found change (off q' n found'')] at found''
  exact refines.injective q q' n found' found''

end Frame

section Changes

variable {po : List String} {o : NodeId}

/-- Binding a segment in a node found at a path puts its path in the map, in place or last. -/
theorem slots_insert (refines : Refines config root forest m)
    (found : forest.find root po = some (.node o)) (segment : String) (bound : Bound) :
    ((forest.get o).bindings.insert segment bound).slots =
      (m.put po segment bound.slot).children po := by
  have describes := refines.describes po o found
  have present := describes.get_concat segment
  unfold PathMap.put
  by_cases bound? : (forest.get o).bindings.contains segment = true
  · have isSome : (m.get (po ++ [segment])).isSome := by
      rw [present, Option.isSome_map, ← OrderedMap.contains_eq_isSome]
      exact bound?
    rw [if_pos isSome, PathMap.children_replace, if_neg (concat_not_prefix_self po segment),
      ← describes.children]
    simp only [OrderedMap.slots]
    rw [OrderedMap.entries_insert_of_contains _ _ _ (refines.keys_nodup found) bound?, List.map_map,
      List.map_map]
    apply List.map_congr_left
    intro entry _
    by_cases here : entry.1 = segment <;> simp [here]
  · have isNone : ¬ (m.get (po ++ [segment])).isSome := by
      rw [present, Option.isSome_map, ← OrderedMap.contains_eq_isSome]
      exact bound?
    rw [if_neg isNone, PathMap.children_append, if_pos rfl, ← describes.children]
    simp only [OrderedMap.slots]
    rw [OrderedMap.entries_insert_of_not_contains _ _ _ (by simpa using bound?)]
    simp

/-- Dropping a segment from a node found at a path drops its path from the map. -/
theorem slots_erase (refines : Refines config root forest m)
    (found : forest.find root po = some (.node o)) (segment : String) :
    ((forest.get o).bindings.erase segment).slots = (m.remove (po ++ [segment])).children po := by
  rw [PathMap.children_remove m (concat_not_prefix_self po segment),
    ← (refines.describes po o found).children]
  simp [OrderedMap.slots, OrderedMap.erase, List.filter_map, Function.comp_def, bne,
    Bool.beq_eq_decide_eq]

/-- Binding a value at a segment of a node found at a path refines putting the leaf there. -/
theorem setValue (refines : Refines config root forest m)
    (found : forest.find root po = some (.node o)) (segment : String) (v : Value) :
    Refines config root (forest.setBinding o segment (.value v)) (m.put po segment (.leaf v)) := by
  have valid := (refines.describes po o found).valid
  apply refines.of_off found (.setBinding valid segment (.value v))
    (refines.wellFormed.put _ fun notTop => refines.get_of_found found notTop)
  · rw [Forest.get_setBinding, if_pos ⟨rfl, valid⟩]
    exact refines.slots_insert found segment (.value v)
  · exact fun q elsewhere outside => m.children_put_of_ne _ elsewhere outside
  · rw [Forest.get_setBinding, if_pos ⟨rfl, valid⟩, OrderedMap.get?_insert, if_pos rfl]
    rfl

/-- A change around one binding that drops it from its owner refines dropping its path. -/
theorem erase (refines : Refines config root forest m)
    (found : forest.find root po = some (.node o)) {segment : String} {forest' : Forest}
    (change : ChangesAt root forest forest' po o segment)
    (erased : (forest'.get o).bindings = (forest.get o).bindings.erase segment) :
    Refines config root forest' (m.remove (po ++ [segment])) := by
  apply refines.of_off found change (refines.wellFormed.remove _)
  · rw [erased]
    exact refines.slots_erase found segment
  · exact fun q elsewhere outside => m.children_remove_of_ne elsewhere outside
  · rw [erased, OrderedMap.get?_erase, if_pos rfl]
    rfl

/-- Dropping a binding of a node found at a path refines dropping its path. -/
theorem eraseBinding (refines : Refines config root forest m)
    (found : forest.find root po = some (.node o)) (segment : String) :
    Refines config root (forest.eraseBinding o segment) (m.remove (po ++ [segment])) := by
  have valid := (refines.describes po o found).valid
  apply refines.erase found (.eraseBinding valid segment)
  rw [Forest.get_eraseBinding, if_pos ⟨rfl, valid⟩]

/-- Releasing the node at a path leaves every node found off the path as it was. -/
theorem release_get (refines : Refines config root forest m) {path : List String} {child : NodeId}
    (foundChild : forest.find root path = some (.node child)) :
    ∀ q n, forest.find root q = some (.node n) → ¬ path <+: q →
      (forest.release child).get n = forest.get n := by
  intro q n foundAt outside
  apply (forest.releaseWith_frame (forest.nodes.size + 1) child).2 n
  intro reached
  obtain ⟨rest, below⟩ := refines.find_of_reaches foundChild reached.reaches
  exact outside (refines.injective _ _ _ below foundAt ▸ List.prefix_append _ _)

/-- Releasing the node bound at a segment and dropping the binding refines dropping the path. -/
theorem release (refines : Refines config root forest m)
    (found : forest.find root po = some (.node o)) {segment : String} {child : NodeId}
    (bound : (forest.get o).bindings.get? segment = some (.node child)) :
    Refines config root ((forest.release child).eraseBinding o segment)
      (m.remove (po ++ [segment])) := by
  have foundChild : forest.find root (po ++ [segment]) = some (.node child) := by
    rw [Forest.find_concat, found]
    simpa [Bound.node?] using bound
  have kept := refines.release_get foundChild
  have ownerKept := kept po o found (concat_not_prefix_self po segment)
  have sameSize := (forest.releaseWith_frame (forest.nodes.size + 1) child).1.1
  have valid : o < (forest.release child).nodes.size := by
    rw [Forest.release, sameSize]
    exact (refines.describes po o found).valid
  apply refines.erase found ⟨?_, ?_, ?_, ?_⟩
  · rw [Forest.get_eraseBinding, if_pos ⟨rfl, valid⟩, ownerKept]
  · simp [Forest.eraseBinding, Forest.release, sameSize]
  · rw [Forest.get_eraseBinding, if_pos ⟨rfl, valid⟩, ownerKept]
  · intro key other
    rw [Forest.get_eraseBinding, if_pos ⟨rfl, valid⟩, ownerKept, OrderedMap.get?_erase,
      if_neg (Ne.symm other)]
  · intro q n foundAt outside other
    rw [Forest.get_eraseBinding, if_neg fun same => other same.1.symm, kept q n foundAt outside]

/-- Making and binding a node under a free segment refines adding a directory at its path. -/
theorem addChild (refines : Refines config root forest m)
    (found : forest.find root po = some (.node o)) {segment : String}
    (absent : (forest.get o).bindings.get? segment = none) :
    Refines config root ((forest.addChild o segment).2.setBinding o segment (.node forest.nodes.size))
        (m.append po segment .dir) ∧
      ((forest.addChild o segment).2.setBinding o segment (.node forest.nodes.size)).find root
        (po ++ [segment]) = some (.node forest.nodes.size) := by
  have describes := refines.describes po o found
  have absentMap : m.get (po ++ [segment]) = none := by
    rw [describes.get_concat, absent]
    rfl
  have valid := describes.valid
  have grownValid : o < (forest.addChild o segment).2.nodes.size := by
    simpa using Nat.lt_succ_of_lt valid
  have other : o ≠ forest.nodes.size := Nat.ne_of_lt valid
  have ownerGet : ((forest.addChild o segment).2.setBinding o segment
      (.node forest.nodes.size)).get o =
        { forest.get o with
          bindings := (forest.get o).bindings.insert segment (.node forest.nodes.size) } := by
    rw [Forest.get_setBinding, if_pos ⟨rfl, grownValid⟩, Forest.get_addChild_of_lt _ _ _ valid]
  have childGet : ((forest.addChild o segment).2.setBinding o segment
      (.node forest.nodes.size)).get forest.nodes.size =
        { fixedName := some (forest.compose o segment), localName := segment, parent := some o,
          config := (forest.get o).config } := by
    rw [Forest.get_setBinding, if_neg fun same => other same.1, Forest.get_addChild_self]
  have change : ChangesAt root forest ((forest.addChild o segment).2.setBinding o segment
      (.node forest.nodes.size)) po o segment := by
    refine ⟨by simp [Forest.setBinding], by rw [ownerGet], fun key other => ?_,
      fun q n foundAt _ other => ?_⟩
    · rw [ownerGet, OrderedMap.get?_insert, if_neg (Ne.symm other)]
    · rw [Forest.get_setBinding, if_neg fun same => other same.1.symm,
        Forest.get_addChild_of_lt _ _ _ (refines.describes q n foundAt).valid]
  have foundNew := refines.find_changed found change
  rw [ownerGet, OrderedMap.get?_insert, if_pos rfl] at foundNew
  -- The new node binds nothing, so only its own path leads to it.
  have located : ∀ q n, ((forest.addChild o segment).2.setBinding o segment
      (.node forest.nodes.size)).find root q = some (.node n) →
      (q = po ++ [segment] ∧ n = forest.nodes.size) ∨
        (¬ po ++ [segment] <+: q ∧ forest.find root q = some (.node n)) := by
    intro q n found'
    by_cases under : po ++ [segment] <+: q
    · obtain ⟨rest, rfl⟩ := under
      rw [Forest.find_append_of_node _ foundNew] at found'
      cases rest with
      | nil => exact .inl ⟨by simp, by simpa using found'.symm⟩
      | cons key rest =>
          simp [Forest.find, childGet, OrderedMap.get?, OrderedMap.empty] at found'
    · exact .inr ⟨under, by rwa [refines.find_off found change under] at found'⟩
  have differs : po ≠ po ++ [segment] := fun same => by simpa using congrArg List.length same
  have newDescribes : Describes config ((forest.addChild o segment).2.setBinding o segment
      (.node forest.nodes.size)) (m.append po segment .dir) (po ++ [segment]) forest.nodes.size :=
    ⟨by rw [childGet, PathMap.children_append, if_neg differs,
        refines.wellFormed.children_eq_nil absentMap (by simp)]; rfl,
      by rw [childGet], by rw [Forest.name, childGet]; exact describes.compose segment,
      by rw [childGet]; exact describes.config, by simp [Forest.setBinding]⟩
  refine ⟨⟨refines.wellFormed.append .dir absentMap fun notTop => refines.get_of_found found notTop,
    fun q n found' => ?_, fun q q' n found' found'' => ?_⟩, foundNew⟩
  · rcases located q n found' with ⟨rfl, rfl⟩ | ⟨outside, _⟩
    · exact newDescribes
    · refine refines.describes_off found change ?_ ?_ outside found'
      · rw [ownerGet, ← m.put_of_absent .dir absentMap]
        exact refines.slots_insert found segment (.node forest.nodes.size)
      · intro q elsewhere _
        simp [PathMap.children_append, Ne.symm elsewhere]
  · rcases located q n found' with ⟨rfl, rfl⟩ | ⟨_, old⟩
    · rcases located q' _ found'' with ⟨rfl, -⟩ | ⟨_, old'⟩
      · rfl
      · exact absurd (refines.describes _ _ old').valid (lt_irrefl _)
    · rcases located q' n found'' with ⟨-, same⟩ | ⟨_, old'⟩
      · exact absurd (same ▸ (refines.describes _ _ old).valid) (lt_irrefl _)
      · exact refines.injective q q' n old old'

end Changes

end Refines

end NamingDirectory
