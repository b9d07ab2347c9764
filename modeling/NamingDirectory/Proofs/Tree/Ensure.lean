import Mathlib
import NamingDirectory.Proofs.Tree.Find

/-!
Making the missing nodes of a path (`ensureSegments_exec`) and binding a value at its end
(`exec_ensure_bind`).
-/

namespace NamingDirectory

namespace OrderedMap

variable {α : Type}

/-- Setting a key adds no pair but the one it sets. -/
theorem mem_insert {map : OrderedMap α} {key : String} {value : α} {entry : String × α}
    (mem : entry ∈ (map.insert key value).entries) :
    entry ∈ map.entries ∨ entry = (key, value) := by
  obtain ⟨entries⟩ := map
  simp only [insert] at mem
  induction entries with
  | nil => simpa [insertEntries] using mem
  | cons first rest ih =>
      obtain ⟨k, v⟩ := first
      by_cases here : k = key
      · subst here
        simp only [insertEntries, beq_self_eq_true, ↓reduceIte, List.mem_cons] at mem
        rcases mem with rfl | later
        · exact .inr rfl
        · exact .inl (List.mem_cons_of_mem _ later)
      · have skipped : (k == key) = false := by simpa using here
        simp only [insertEntries, skipped, Bool.false_eq_true, ↓reduceIte, List.mem_cons] at mem
        rcases mem with rfl | later
        · exact .inl List.mem_cons_self
        · rcases ih later with old | new
          · exact .inl (List.mem_cons_of_mem _ old)
          · exact .inr new

/-- A key answers only a value it is paired with. -/
theorem mem_of_get? {map : OrderedMap α} {key : String} {value : α}
    (found : map.get? key = some value) : (key, value) ∈ map.entries := by
  simp only [get?, Option.map_eq_some_iff] at found
  obtain ⟨entry, first, rfl⟩ := found
  have same : entry.1 = key := by simpa using List.find?_some first
  rw [← same]
  exact List.mem_of_find?_eq_some first

end OrderedMap

namespace Forest

/-- Every node bound anywhere in the forest is one of its nodes. -/
def NodesExist (forest : Forest) : Prop :=
  ∀ n key child, (key, Bound.node child) ∈ (forest.get n).bindings.entries →
    child < forest.nodes.size

/-- Every node bound anywhere is one of the forest's nodes, checked node by node. -/
theorem nodesExist_iff (forest : Forest) :
    forest.NodesExist ↔ forest.nodes.toList.all fun node => node.bindings.entries.all fun entry =>
      entry.2.node?.all (· < forest.nodes.size) := by
  simp only [List.all_eq_true, Option.all_eq_true, Array.mem_toList_iff, Array.mem_iff_getElem,
    decide_eq_true_eq]
  constructor
  · rintro exist node ⟨i, valid, rfl⟩ ⟨key, bound⟩ mem child isNode
    cases bound with
    | value v => cases isNode
    | node c =>
      cases isNode
      exact exist i key _ (by simpa [get, valid] using mem)
  · intro check n key child mem
    by_cases valid : n < forest.nodes.size
    · exact check _ ⟨n, valid, rfl⟩ (key, .node child) (by simpa [get, valid] using mem) child rfl
    · rw [get_of_size_le forest (Nat.le_of_not_lt valid)] at mem
      cases mem

instance (forest : Forest) : Decidable forest.NodesExist :=
  decidable_of_iff _ forest.nodesExist_iff.symm

theorem NodesExist.lt_of_get? {forest : Forest} (exist : forest.NodesExist) {n child : NodeId}
    {key : String} (bound : (forest.get n).bindings.get? key = some (.node child)) :
    child < forest.nodes.size :=
  exist n key child (OrderedMap.mem_of_get? bound)

/-- From one of its nodes, a path of the forest leads only to its nodes. -/
theorem NodesExist.find_lt {forest : Forest} (exist : forest.NodesExist) {start n : NodeId}
    (valid : start < forest.nodes.size) {path : List String}
    (found : forest.find start path = some (.node n)) : n < forest.nodes.size := by
  induction path generalizing start with
  | nil => cases found; exact valid
  | cons segment rest ih =>
      simp only [find] at found
      cases bound : (forest.get start).bindings.get? segment with
      | none => simp [bound] at found
      | some b =>
          cases b with
          | node child =>
              simp only [bound] at found
              exact ih (exist.lt_of_get? bound) found
          | value v => simp [bound] at found

theorem find_singleton (forest : Forest) (start : NodeId) (segment : String) :
    forest.find start [segment] = (forest.get start).bindings.get? segment := by
  simpa [Bound.node?] using forest.find_concat start [] segment

/-- Below a path that leads nowhere, nothing is found. -/
theorem find_append_of_none (forest : Forest) {start : NodeId} {path : List String}
    (missing : forest.find start path = none) (rest : List String) :
    forest.find start (path ++ rest) = none := by
  induction path generalizing start with
  | nil => cases missing
  | cons segment path ih =>
      simp only [find] at missing
      simp only [List.cons_append, find]
      cases bound : (forest.get start).bindings.get? segment with
      | none => rfl
      | some b =>
          cases b with
          | node child =>
              simp only [bound] at missing
              exact ih missing
          | value v =>
              have nonempty : path ≠ [] := by
                intro empty
                simp [bound, empty] at missing
              simp [nonempty]

/-- Every prefix of a path to a node leads to a node. -/
theorem find_prefix_node (forest : Forest) {start n : NodeId} {path before : List String}
    (found : forest.find start path = some (.node n)) (within : before <+: path) :
    ∃ m, forest.find start before = some (.node m) := by
  obtain ⟨rest, rfl⟩ := within
  cases here : forest.find start before with
  | none => simp [find_append_of_none forest here] at found
  | some b =>
      cases b with
      | node m => exact ⟨m, rfl⟩
      | value v =>
          exact absurd found (forest.find_append_ne_node (by simp [here, Bound.node?]) rest n)

/-! ### Growing forests -/

/-- The second forest keeps every node and every binding of the first. -/
def Extends (forest forest' : Forest) : Prop :=
  forest.nodes.size ≤ forest'.nodes.size ∧
    ∀ n key bound, (forest.get n).bindings.get? key = some bound →
      (forest'.get n).bindings.get? key = some bound

theorem Extends.refl (forest : Forest) : forest.Extends forest := ⟨le_rfl, fun _ _ _ => id⟩

theorem Extends.trans {first second third : Forest} (one : first.Extends second)
    (two : second.Extends third) : first.Extends third :=
  ⟨one.1.trans two.1, fun n key bound kept => two.2 n key bound (one.2 n key bound kept)⟩

/-- A path leads where it did in every forest that keeps the bindings. -/
theorem Extends.find {forest forest' : Forest} (grows : forest.Extends forest') {start : NodeId}
    {path : List String} {bound : Bound} (found : forest.find start path = some bound) :
    forest'.find start path = some bound := by
  induction path generalizing start with
  | nil => exact found
  | cons segment rest ih =>
      simp only [Forest.find] at found ⊢
      cases here : (forest.get start).bindings.get? segment with
      | none => simp [here] at found
      | some b =>
          rw [grows.2 start segment b here]
          rw [here] at found
          cases b with
          | node child => exact ih found
          | value v => exact found

/-- Binding a free segment keeps every binding. -/
theorem extends_setBinding (forest : Forest) {id : NodeId} {segment : String} (bound : Bound)
    (free : (forest.get id).bindings.get? segment = none) :
    forest.Extends (forest.setBinding id segment bound) := by
  refine ⟨by simp [setBinding], fun n key b kept => ?_⟩
  rw [get_setBinding]
  split
  · rename_i here
    obtain ⟨rfl, _⟩ := here
    have other : segment ≠ key := by
      rintro rfl
      simp [free] at kept
    simp [OrderedMap.get?_insert, other, kept]
  · exact kept

/-- Binding a value keeps every bound node a node of the forest. -/
theorem NodesExist.setBinding_value {forest : Forest} (exist : forest.NodesExist) (id : NodeId)
    (segment : String) (v : Value) : (forest.setBinding id segment (.value v)).NodesExist := by
  intro n key child mem
  rw [get_setBinding] at mem
  rw [show (forest.setBinding id segment (.value v)).nodes.size = forest.nodes.size by
    simp [setBinding]]
  split at mem
  · rcases OrderedMap.mem_insert mem with old | new
    · exact exist n key child old
    · cases new
  · exact exist n key child mem

/-! ### The fresh node of a walk -/

section Grow

variable (forest : Forest) (owner : NodeId) (segment : String)

/-- A node made under `owner` for `segment` and bound there. -/
def grow : Forest :=
  (forest.addChild owner segment).2.setBinding owner segment (.node forest.nodes.size)

theorem size_grow : (forest.grow owner segment).nodes.size = forest.nodes.size + 1 := by
  simp [grow, setBinding]

theorem get_grow_fresh (valid : owner < forest.nodes.size) :
    (forest.grow owner segment).get forest.nodes.size =
      { fixedName := some (forest.compose owner segment), localName := segment,
        parent := some owner, config := (forest.get owner).config } := by
  have other : ¬ (owner = forest.nodes.size ∧
      forest.nodes.size < (forest.addChild owner segment).2.nodes.size) :=
    fun both => Nat.ne_of_lt valid both.1
  simp only [grow, get_setBinding, get_addChild_self, other, if_false]

theorem get_grow_of_lt {n : NodeId} (old : n < forest.nodes.size) :
    (forest.grow owner segment).get n =
      if owner = n then
        { forest.get n with
          bindings := (forest.get n).bindings.insert segment (.node forest.nodes.size) }
      else forest.get n := by
  have inside : n < (forest.addChild owner segment).2.nodes.size := by
    rw [size_addChild]
    exact Nat.lt_succ_of_lt old
  simp only [grow, get_setBinding, get_addChild_of_lt _ _ _ old, inside, and_true]

/-- Nothing is bound below the fresh node. -/
theorem find_grow_fresh (valid : owner < forest.nodes.size) {rest : List String}
    (nonempty : rest ≠ []) : (forest.grow owner segment).find forest.nodes.size rest = none := by
  obtain ⟨first, more, rfl⟩ := List.exists_cons_of_ne_nil nonempty
  simp [find, get_grow_fresh _ _ _ valid, OrderedMap.get?, OrderedMap.empty]

variable {forest owner segment}

/-- Past the fresh node, the grown forest has no node either. -/
theorem size_grow_le {m : NodeId} (beyond : forest.nodes.size ≤ m)
    (fresh : m ≠ forest.nodes.size) : (forest.grow owner segment).nodes.size ≤ m := by
  rw [size_grow]
  exact Nat.lt_of_le_of_ne beyond (Ne.symm fresh)

/-- Growing at a free segment keeps every binding. -/
theorem extends_grow
    (free : (forest.get owner).bindings.get? segment = none) :
    forest.Extends (forest.grow owner segment) := by
  refine ⟨by simp [size_grow], fun n key bound kept => ?_⟩
  by_cases old : n < forest.nodes.size
  · rw [get_grow_of_lt _ _ _ old]
    split
    · rename_i same
      subst same
      have other : segment ≠ key := by
        rintro rfl
        simp [free] at kept
      simp [OrderedMap.get?_insert, other, kept]
    · exact kept
  · have empty : (default : Node).bindings.entries = [] := rfl
    simp [get_of_size_le forest (Nat.le_of_not_lt old), OrderedMap.get?, empty] at kept

/-- Growing keeps every bound node a node of the forest. -/
theorem NodesExist.grow (exist : forest.NodesExist) (valid : owner < forest.nodes.size) :
    (forest.grow owner segment).NodesExist := by
  intro n key child mem
  rw [size_grow]
  by_cases old : n < forest.nodes.size
  · rw [get_grow_of_lt _ _ _ old] at mem
    split at mem
    · rcases OrderedMap.mem_insert mem with before | new
      · exact Nat.lt_succ_of_lt (exist n key child before)
      · cases new
        exact Nat.lt_succ_self _
    · exact Nat.lt_succ_of_lt (exist n key child mem)
  · by_cases fresh : n = forest.nodes.size
    · subst fresh
      rw [get_grow_fresh _ _ _ valid] at mem
      cases mem
    · rw [get_of_size_le _ (size_grow_le (Nat.le_of_not_lt old) fresh)] at mem
      cases mem

theorem get?_grow_self (valid : owner < forest.nodes.size) :
    ((forest.grow owner segment).get owner).bindings.get? segment =
      some (.node forest.nodes.size) := by
  simp [get_grow_of_lt _ _ _ valid, OrderedMap.get?_insert]

/-- Growing changes one binding: the segment at the owner. -/
theorem eq_of_get?_grow_ne (valid : owner < forest.nodes.size) {m : NodeId} {key : String}
    (differ : ((forest.grow owner segment).get m).bindings.get? key ≠
      (forest.get m).bindings.get? key) : m = owner ∧ key = segment := by
  have empty : (default : Node).bindings.get? key = none := rfl
  by_cases old : m < forest.nodes.size
  · rw [get_grow_of_lt _ _ _ old] at differ
    split at differ
    · rename_i same
      by_cases here : segment = key
      · exact ⟨same.symm, here.symm⟩
      · simp [OrderedMap.get?_insert, here] at differ
    · exact absurd rfl differ
  · by_cases fresh : m = forest.nodes.size
    · subst fresh
      rw [get_grow_fresh _ _ _ valid, get_of_size_le _ (le_refl _)] at differ
      exact absurd rfl differ
    · rw [get_of_size_le _ (size_grow_le (Nat.le_of_not_lt old) fresh),
        get_of_size_le _ (Nat.le_of_not_lt old)] at differ
      exact absurd rfl differ

/-- Nothing is bound below the fresh node, so a path from it leads to a node only when empty. -/
theorem le_of_find_grow (valid : owner < forest.nodes.size) {rest : List String} {n : NodeId}
    (found : (forest.grow owner segment).find forest.nodes.size rest = some (.node n)) :
    forest.nodes.size ≤ n := by
  cases rest with
  | nil =>
      cases found
      exact le_refl _
  | cons first more =>
      rw [find_grow_fresh _ _ _ valid (List.cons_ne_nil first more)] at found
      cases found

end Grow

theorem find_cons_node (forest : Forest) {start child : NodeId} {segment : String}
    (bound : (forest.get start).bindings.get? segment = some (.node child)) (rest : List String) :
    forest.find start (segment :: rest) = forest.find child rest := by
  simp [find, bound]

/-! ### What a walk that makes nodes changes -/

/-- What a walk along `path` may change: the forest grows, and bindings change only on the path. -/
structure GrowsAlong (forest after : Forest) (start : NodeId) (path : List String) : Prop where
  grows : forest.Extends after
  kept : ∀ m < forest.nodes.size,
    { after.get m with bindings := .empty } = { forest.get m with bindings := .empty }
  fresh : ∀ m, forest.nodes.size ≤ m → (after.get m).closed = false
  along : ∀ m key, (after.get m).bindings.get? key ≠ (forest.get m).bindings.get? key →
    ∃ before, before ++ [key] <+: path ∧ after.find start before = some (.node m)

namespace GrowsAlong

theorem refl (forest : Forest) (start : NodeId) (path : List String) :
    forest.GrowsAlong forest start path where
  grows := .refl forest
  kept _ _ := rfl
  fresh m beyond := by rw [get_of_size_le _ beyond]; rfl
  along _ _ differ := absurd rfl differ

/-- Making a node for a free segment of an open node. -/
theorem grow {forest : Forest} {start : NodeId} {segment : String}
    (valid : start < forest.nodes.size) (free : (forest.get start).bindings.get? segment = none) :
    forest.GrowsAlong (forest.grow start segment) start [segment] where
  grows := extends_grow free
  kept m old := by
    rw [get_grow_of_lt _ _ _ old]
    split <;> rfl
  fresh m beyond := by
    by_cases same : m = forest.nodes.size
    · subst same
      rw [get_grow_fresh _ _ _ valid]
    · rw [get_of_size_le _ (size_grow_le beyond same)]
      rfl
  along m key differ := by
    obtain ⟨rfl, rfl⟩ := eq_of_get?_grow_ne valid differ
    exact ⟨[], by simp, rfl⟩

/-- A walk that takes one segment to `child` and goes on from there. -/
theorem cons {forest mid after : Forest} {start child : NodeId} {segment : String}
    {rest : List String} (first : forest.GrowsAlong mid start [segment])
    (bound : (mid.get start).bindings.get? segment = some (.node child))
    (second : mid.GrowsAlong after child rest) :
    forest.GrowsAlong after start (segment :: rest) where
  grows := first.grows.trans second.grows
  kept m old := (second.kept m (Nat.lt_of_lt_of_le old first.grows.1)).trans (first.kept m old)
  fresh m beyond := by
    by_cases inMid : m < mid.nodes.size
    · exact (congrArg Node.closed (second.kept m inMid)).trans (first.fresh m beyond)
    · exact second.fresh m (Nat.le_of_not_lt inMid)
  along m key differ := by
    by_cases same : (after.get m).bindings.get? key = (mid.get m).bindings.get? key
    · -- The change was made by the first step, at `start`.
      rw [same] at differ
      obtain ⟨before, within, found⟩ := first.along m key differ
      exact ⟨before, within.trans (by simp), second.grows.find found⟩
    · obtain ⟨before, within, found⟩ := second.along m key same
      refine ⟨segment :: before, by simpa using within, ?_⟩
      rw [find_cons_node _ (second.grows.2 _ _ _ bound)]
      exact found

/-- Binding a free segment at the node a walk ended at. -/
theorem setBinding {forest mid : Forest} {start o : NodeId} {dir : List String} {segment : String}
    (bound : Bound) (first : forest.GrowsAlong mid start dir)
    (found : mid.find start dir = some (.node o))
    (free : (mid.get o).bindings.get? segment = none) :
    forest.GrowsAlong (mid.setBinding o segment bound) start (dir ++ [segment]) where
  grows := first.grows.trans (extends_setBinding mid bound free)
  kept m old := by
    refine Eq.trans ?_ (first.kept m old)
    rw [get_setBinding]
    split <;> rfl
  fresh m beyond := by
    rw [get_setBinding]
    split <;> exact first.fresh m beyond
  along m key differ := by
    have grows := extends_setBinding mid bound free
    by_cases same : ((mid.setBinding o segment bound).get m).bindings.get? key =
        (mid.get m).bindings.get? key
    · rw [same] at differ
      obtain ⟨before, within, reached⟩ := first.along m key differ
      exact ⟨before, within.trans (List.prefix_append _ _), grows.find reached⟩
    · -- Only the segment at `o` was set.
      rw [get_setBinding] at same
      split at same
      · rename_i here
        obtain ⟨rfl, _⟩ := here
        have key_eq : segment = key := by
          by_contra other
          simp [OrderedMap.get?_insert, other] at same
        subst key_eq
        exact ⟨dir, List.prefix_refl _, grows.find found⟩
      · exact absurd rfl same

end GrowsAlong

/-! ### Paths a walk can take -/

/-- A walk can make what `path` lacks: no proper prefix leads to a closed node, no prefix to a value. -/
def Passable (forest : Forest) (start : NodeId) (path : List String) : Prop :=
  ∀ before, before <+: path →
    (before ≠ path → ∀ n, forest.find start before = some (.node n) →
      (forest.get n).closed = false) ∧
    (before ≠ [] → ∀ v, forest.find start before ≠ some (.value v))

/-- A value can be bound at `path`: it is not empty, nothing is bound at it, and it is passable. -/
def Ready (forest : Forest) (start : NodeId) (path : List String) : Prop :=
  path ≠ [] ∧ forest.Passable start path ∧ forest.find start path = none

theorem passable_nil (forest : Forest) (start : NodeId) : forest.Passable start [] := by
  intro before within
  obtain rfl := List.prefix_nil.mp within
  exact ⟨fun other => absurd rfl other, fun other => absurd rfl other⟩

section Cons

variable {forest : Forest} {start : NodeId} {segment : String} {rest : List String}

theorem not_passable_of_closed (closed : (forest.get start).closed = true) :
    ¬ forest.Passable start (segment :: rest) := by
  intro passable
  have isOpen := (passable [] List.nil_prefix).1 (List.cons_ne_nil _ _).symm start rfl
  rw [closed] at isOpen
  cases isOpen

theorem not_passable_of_value {v : Value}
    (bound : (forest.get start).bindings.get? segment = some (.value v)) :
    ¬ forest.Passable start (segment :: rest) := by
  intro passable
  exact (passable [segment] (by simp)).2 (List.cons_ne_nil _ _) v (by rw [find_singleton, bound])

theorem passable_of_free (isOpen : (forest.get start).closed = false)
    (free : (forest.get start).bindings.get? segment = none) :
    forest.Passable start (segment :: rest) := by
  intro before within
  rcases List.prefix_cons_iff.mp within with rfl | ⟨more, rfl, _⟩
  · refine ⟨fun _ n found => ?_, fun other => absurd rfl other⟩
    cases found
    exact isOpen
  · have missing : forest.find start (segment :: more) = none := by simp [find, free]
    simp [missing]

theorem passable_cons_iff {child : NodeId} (isOpen : (forest.get start).closed = false)
    (bound : (forest.get start).bindings.get? segment = some (.node child)) :
    forest.Passable start (segment :: rest) ↔ forest.Passable child rest := by
  have step := find_cons_node forest bound
  constructor
  · intro passable before within
    obtain ⟨nodes, values⟩ := passable (segment :: before) (by simpa using within)
    rw [step] at nodes values
    exact ⟨fun other => nodes (by simpa using other), fun _ => values (List.cons_ne_nil _ _)⟩
  · intro passable before within
    rcases List.prefix_cons_iff.mp within with rfl | ⟨more, rfl, inner⟩
    · refine ⟨fun _ n found => ?_, fun other => absurd rfl other⟩
      cases found
      exact isOpen
    · obtain ⟨nodes, values⟩ := passable more inner
      rw [step]
      refine ⟨fun other => nodes (by simpa using other), fun _ v found => ?_⟩
      by_cases empty : more = []
      · subst empty
        cases found
      · exact values empty v found

end Cons

/-- Below the fresh node every walk can go on. -/
theorem passable_grow {forest : Forest} {owner : NodeId} (segment : String)
    (valid : owner < forest.nodes.size) (rest : List String) :
    (forest.grow owner segment).Passable forest.nodes.size rest := by
  intro before _
  by_cases empty : before = []
  · subst empty
    refine ⟨fun _ n found => ?_, fun other => absurd rfl other⟩
    cases found
    rw [get_grow_fresh _ _ _ valid]
  · rw [find_grow_fresh _ _ _ valid empty]
    exact ⟨fun _ _ found => (by cases found), fun _ _ found => (by cases found)⟩

/-- A path to a fresh value: its directory can be walked and is open, and nothing is at it. -/
theorem passable_concat_iff {forest : Forest} {start : NodeId} {dir : List String}
    {segment : String} :
    forest.Passable start (dir ++ [segment]) ↔
      forest.Passable start dir ∧
        (∀ n, forest.find start dir = some (.node n) → (forest.get n).closed = false) ∧
        ∀ v, forest.find start (dir ++ [segment]) ≠ some (.value v) := by
  have shorter : ∀ before, before <+: dir → before ≠ dir ++ [segment] := by
    intro before within same
    have length := within.length_le
    rw [same, List.length_append] at length
    simp at length
  constructor
  · intro passable
    refine ⟨fun before within => ?_, ?_, ?_⟩
    · obtain ⟨nodes, values⟩ :=
        passable before (within.trans (List.prefix_append _ _))
      exact ⟨fun _ => nodes (shorter before within), values⟩
    · exact (passable dir (List.prefix_append _ _)).1 (shorter dir (List.prefix_refl _))
    · exact (passable _ (List.prefix_refl _)).2 (by simp)
  · rintro ⟨passable, dirOpen, noValue⟩ before within
    rcases List.prefix_concat_iff.mp within with rfl | inner
    · exact ⟨fun other => absurd rfl other, fun _ => noValue⟩
    · obtain ⟨nodes, values⟩ := passable before inner
      refine ⟨fun _ n found => ?_, values⟩
      by_cases whole : before = dir
      · subst whole
        exact dirOpen n found
      · exact nodes whole n found

/-- Binding one segment at a node checks that the node is open and the segment free. -/
theorem bind_single (forest : Forest) (owner : NodeId) (segment : String) (bound : Bound) :
    forest.bind owner (.segments ⟨[segment]⟩) bound =
      if (forest.get owner).closed then .error (forest.closedError owner)
      else if (forest.get owner).bindings.contains segment then
        .error (.alreadyBound (forest.compose owner segment))
      else .ok (forest.setBinding owner segment bound) := by
  have owned : forest.owner owner (forest.resolve owner (.segments ⟨[segment]⟩)) "bind" =
      .ok (owner, segment) := rfl
  simp only [bind, openOwner, owned, Bind.bind, Except.bind]
  cases (forest.get owner).closed <;> rfl

end Forest

/-! ### Running the walk -/

/-- What a walk from `start` that made the missing nodes of `path` and gave `n` leaves. -/
structure Ensured (forest : Forest) (start : NodeId) (path : List String) (n : NodeId)
    (after : Forest) : Prop extends forest.GrowsAlong after start path where
  exist : after.NodesExist
  found : after.find start path = some (.node n)
  /-- The node given holds what the path held. -/
  holds : ∀ s, (after.get n).bindings.get? s = forest.find start (path ++ [s])
  /-- The path led to the node given and nothing was made, or the node is new. -/
  made : forest.find start path = some (.node n) ∧ after = forest ∨ forest.nodes.size ≤ n

/-- A walk along a path that already led to a node changed nothing. -/
theorem Ensured.eq_of_found {forest after : Forest} {start n n' : NodeId} {path : List String}
    (ensured : Ensured forest start path n after) (exist : forest.NodesExist)
    (valid : start < forest.nodes.size) (found : forest.find start path = some (.node n')) :
    after = forest ∧ n = n' := by
  have same : some (Bound.node n) = some (.node n') :=
    ensured.found.symm.trans (ensured.grows.find found)
  cases same
  rcases ensured.made with ⟨_, unchanged⟩ | fresh
  · exact ⟨unchanged, rfl⟩
  · exact absurd (exist.find_lt valid found) (Nat.not_lt_of_ge fresh)

theorem exec_ensureSegments_nil (forest : Forest) (n : NodeId) :
    (TreeM.ensureSegments n []).exec forest = (.ok n, forest) := rfl

theorem exec_ensureSegments_closed (forest : Forest) {n : NodeId} (segment : String)
    (rest : List String) (closed : (forest.get n).closed = true) :
    (TreeM.ensureSegments n (segment :: rest)).exec forest =
      (.error (forest.closedError n), forest) := by
  simp [TreeM.ensureSegments, closed]

/-- One step of making the missing nodes of a path, at an open node. -/
theorem exec_ensureSegments_cons (forest : Forest) {n : NodeId} (segment : String)
    (rest : List String) (isOpen : (forest.get n).closed = false) :
    (TreeM.ensureSegments n (segment :: rest)).exec forest =
      match (forest.get n).bindings.get? segment with
      | some (.node child) => (TreeM.ensureSegments child rest).exec forest
      | some (.value _) => (.error (.structuralConflict (forest.compose n segment)), forest)
      | none => (TreeM.ensureSegments forest.nodes.size rest).exec (forest.grow n segment) := by
  simp only [TreeM.ensureSegments, TreeM.exec_get_bind, isOpen, Bool.false_eq_true, ↓reduceIte]
  cases (forest.get n).bindings.get? segment with
  | none => simp [Forest.grow]
  | some bound => cases bound <;> simp

theorem exec_ensureSubnode (forest : Forest) (start : NodeId) (path : PathArg) :
    (TreeM.ensureSubnode start path).exec forest =
      (TreeM.ensureSegments start (forest.resolve start path).segments).exec forest := rfl

/-- Making the missing nodes of a path succeeds exactly on a passable path; a failure changes nothing. -/
theorem ensureSegments_exec {forest : Forest} (exist : forest.NodesExist) {start : NodeId}
    (valid : start < forest.nodes.size) (path : List String) :
    (forest.Passable start path → ∃ n after,
      (TreeM.ensureSegments start path).exec forest = (.ok n, after) ∧
        Ensured forest start path n after) ∧
    (¬ forest.Passable start path → ∃ e,
      (TreeM.ensureSegments start path).exec forest = (.error e, forest)) := by
  induction path generalizing forest start with
  | nil =>
      refine ⟨fun _ => ⟨start, forest, exec_ensureSegments_nil forest start, ?_⟩,
        fun stuck => absurd (Forest.passable_nil forest start) stuck⟩
      exact {
        toGrowsAlong := .refl forest start []
        exist := exist
        found := rfl
        holds := fun s => by simp [Forest.find_singleton]
        made := .inl ⟨rfl, rfl⟩ }
  | cons segment rest ih =>
      cases closed : (forest.get start).closed
      case true =>
        exact ⟨fun passable => absurd passable (Forest.not_passable_of_closed closed),
          fun _ => ⟨_, exec_ensureSegments_closed forest segment rest closed⟩⟩
      rw [exec_ensureSegments_cons forest segment rest closed]
      cases bound : (forest.get start).bindings.get? segment with
      | none =>
          refine ⟨fun _ => ?_, fun stuck => absurd (Forest.passable_of_free closed bound) stuck⟩
          have grownValid : forest.nodes.size < (forest.grow start segment).nodes.size := by
            rw [Forest.size_grow]
            exact Nat.lt_succ_self _
          obtain ⟨n, after, ran, ensured⟩ := (ih (exist.grow valid) grownValid).1
            (Forest.passable_grow segment valid rest)
          have link := ensured.grows.2 _ _ _ (Forest.get?_grow_self valid)
          refine ⟨n, after, ran, {
            toGrowsAlong := (Forest.GrowsAlong.grow valid bound).cons
              (Forest.get?_grow_self valid) ensured.toGrowsAlong
            exist := ensured.exist
            found := (Forest.find_cons_node _ link rest).trans ensured.found
            holds := fun s => ?_
            made := .inr ?_ }⟩
          · rw [ensured.holds s, Forest.find_grow_fresh _ _ _ valid (by simp)]
            simp [Forest.find, bound]
          · rcases ensured.made with ⟨found, _⟩ | beyond
            · exact Forest.le_of_find_grow valid found
            · rw [Forest.size_grow] at beyond
              exact Nat.le_of_succ_le beyond
      | some b =>
          cases b with
          | value v =>
              exact ⟨fun passable => absurd passable (Forest.not_passable_of_value bound),
                fun _ => ⟨_, rfl⟩⟩
          | node child =>
              have step := Forest.find_cons_node forest bound
              rw [Forest.passable_cons_iff closed bound]
              refine ⟨fun passable => ?_, (ih exist (exist.lt_of_get? bound)).2⟩
              obtain ⟨n, after, ran, ensured⟩ := (ih exist (exist.lt_of_get? bound)).1 passable
              have link := ensured.grows.2 _ _ _ bound
              refine ⟨n, after, ran, {
                toGrowsAlong := (Forest.GrowsAlong.refl forest start [segment]).cons bound
                  ensured.toGrowsAlong
                exist := ensured.exist
                found := (Forest.find_cons_node _ link rest).trans ensured.found
                holds := fun s => by rw [ensured.holds s, List.cons_append, step]
                made := ?_ }⟩
              rcases ensured.made with ⟨found, unchanged⟩ | beyond
              · exact .inl ⟨(step rest).trans found, unchanged⟩
              · exact .inr beyond

/-- What binding a value at the end of a path leaves: a walk's changes, the value, directories above. -/
structure BindsAt (forest : Forest) (start : NodeId) (path : List String) (v : Value)
    (after : Forest) : Prop extends forest.GrowsAlong after start path where
  exist : after.NodesExist
  found : after.find start path = some (.value v)
  nodes : ∀ before, before <+: path → before ≠ path →
    ∃ n, after.find start before = some (.node n)

/-- A path leads somewhere only below a node. -/
theorem Forest.exists_node_of_find_concat (forest : Forest) {start : NodeId}
    {dir : List String} {segment : String} (bound : (forest.find start (dir ++ [segment])).isSome) :
    ∃ n, forest.find start dir = some (.node n) := by
  rw [Forest.find_concat] at bound
  cases found : forest.find start dir with
  | none => simp [found] at bound
  | some b =>
      cases b with
      | node n => exact ⟨n, rfl⟩
      | value v => simp [found, Bound.node?] at bound

/-- Binding at a path, its directories made first, succeeds exactly when it is ready. -/
theorem exec_ensure_bind {forest : Forest} (exist : forest.NodesExist) {start : NodeId}
    (valid : start < forest.nodes.size) (dir : Name) (segment : String) (v : Value) :
    let step : TreeM Unit := do
      let owner ← TreeM.ensureSubnode start (.segments dir)
      TreeM.change (·.bind owner (.segments ⟨[segment]⟩) (.value v))
    (forest.Ready start (dir.segments ++ [segment]) → ∃ after,
      step.exec forest = (.ok (), after) ∧
        BindsAt forest start (dir.segments ++ [segment]) v after) ∧
    (¬ forest.Ready start (dir.segments ++ [segment]) →
      ∃ e, step.exec forest = (.error e, forest)) := by
  intro step
  have unfolded : step.exec forest = (TreeM.ensureSubnode start (.segments dir) >>= fun owner =>
      TreeM.change (·.bind owner (.segments ⟨[segment]⟩) (.value v))).exec forest := rfl
  rw [unfolded, TreeM.exec_bind, exec_ensureSubnode,
    show forest.resolve start (.segments dir) = dir from rfl]
  obtain ⟨passes, fails⟩ := ensureSegments_exec exist valid dir.segments
  by_cases walkable : forest.Passable start dir.segments
  case neg =>
    obtain ⟨e, ran⟩ := fails walkable
    have stuck : ¬ forest.Ready start (dir.segments ++ [segment]) :=
      fun ready => walkable (Forest.passable_concat_iff.mp ready.2.1).1
    exact ⟨fun ready => absurd ready stuck, fun _ => ⟨e, by rw [ran]⟩⟩
  obtain ⟨o, mid, ran, ensured⟩ := passes walkable
  have holds := ensured.holds segment
  rw [ran]
  simp only [TreeM.exec_change, Forest.bind_single]
  by_cases ready : forest.Ready start (dir.segments ++ [segment])
  · obtain ⟨_, passable, free⟩ := ready
    have isOpen : (mid.get o).closed = false := by
      rcases ensured.made with ⟨found, rfl⟩ | fresh
      · exact (Forest.passable_concat_iff.mp passable).2.1 o found
      · exact ensured.fresh o fresh
    have absent : (mid.get o).bindings.get? segment = none := holds.trans free
    have notContained : (mid.get o).bindings.contains segment = false := by
      rw [OrderedMap.contains_eq_isSome, absent]
      rfl
    have grows := Forest.extends_setBinding mid (.value v) absent
    have validO : o < mid.nodes.size :=
      ensured.exist.find_lt (Nat.lt_of_lt_of_le valid ensured.grows.1) ensured.found
    refine ⟨fun _ => ⟨_, by simp [isOpen, notContained], {
      toGrowsAlong := ensured.setBinding (.value v) ensured.found absent
      exist := ensured.exist.setBinding_value o segment v
      found := ?_
      nodes := fun before within other => Forest.find_prefix_node _ (grows.find ensured.found)
        ((List.prefix_concat_iff.mp within).resolve_left other) }⟩,
      fun notReady => absurd ⟨by simp, passable, free⟩ notReady⟩
    rw [Forest.find_concat, grows.find ensured.found]
    simp [Bound.node?, Forest.get_setBinding, validO, OrderedMap.get?_insert]
  · refine ⟨fun ready' => absurd ready' ready, fun _ => ?_⟩
    by_cases closed : (mid.get o).closed = true
    · -- A closed node is an old one, so the walk made nothing.
      obtain ⟨_, rfl⟩ : forest.find start dir.segments = some (.node o) ∧ mid = forest := by
        rcases ensured.made with made | fresh
        · exact made
        · rw [ensured.fresh o fresh] at closed
          cases closed
      exact ⟨mid.closedError o, by simp [closed]⟩
    by_cases contained : (mid.get o).bindings.contains segment = true
    · -- Something is bound at the path, so its directory was a node already.
      have bound : (forest.find start (dir.segments ++ [segment])).isSome := by
        rw [← holds, ← OrderedMap.contains_eq_isSome]
        exact contained
      obtain ⟨n, found⟩ := forest.exists_node_of_find_concat bound
      obtain ⟨rfl, rfl⟩ := ensured.eq_of_found exist valid found
      exact ⟨.alreadyBound (mid.compose o segment), by simp [closed, contained]⟩
    have free : forest.find start (dir.segments ++ [segment]) = none := by
      rw [← holds, ← Option.not_isSome_iff_eq_none, ← OrderedMap.contains_eq_isSome]
      exact contained
    refine absurd ⟨by simp, Forest.passable_concat_iff.mpr ⟨walkable, ?_, ?_⟩, free⟩ ready
    · intro n found
      obtain ⟨rfl, rfl⟩ := ensured.eq_of_found exist valid found
      simpa using closed
    · intro v' found
      rw [free] at found
      cases found

end NamingDirectory
