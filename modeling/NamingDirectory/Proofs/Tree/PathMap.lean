import Mathlib
import NamingDirectory.Tree.Basic

/-!
The abstract naming tree: non-empty paths to values or directories, kept in binding order.
-/

namespace NamingDirectory

/-- What a path of the abstract tree holds: a value, or a directory of further names. -/
inductive Slot where
  | leaf (v : Value)
  | dir
  deriving Inhabited

/-- How a binding looks in the abstract tree: a node is a directory. -/
def Bound.slot : Bound → Slot
  | .value v => .leaf v
  | .node _ => .dir

/-- One bound path: the directory it is filed in, its last segment, and what it holds. -/
structure PathEntry where
  parent : List String
  segment : String
  slot : Slot

/-- The path of an entry. -/
def PathEntry.path (e : PathEntry) : List String := e.parent ++ [e.segment]

/-- An entry with what it holds set, when it is the entry of a path. -/
def PathEntry.setAt (path : List String) (slot : Slot) (e : PathEntry) : PathEntry :=
  if e.path = path then { e with slot := slot } else e

@[simp] theorem PathEntry.parent_setAt (path : List String) (slot : Slot) (e : PathEntry) :
    (e.setAt path slot).parent = e.parent := by
  unfold PathEntry.setAt; split <;> rfl

@[simp] theorem PathEntry.segment_setAt (path : List String) (slot : Slot) (e : PathEntry) :
    (e.setAt path slot).segment = e.segment := by
  unfold PathEntry.setAt; split <;> rfl

@[simp] theorem PathEntry.path_setAt (path : List String) (slot : Slot) (e : PathEntry) :
    (e.setAt path slot).path = e.path := by
  simp [PathEntry.path]

theorem PathEntry.slot_setAt (path : List String) (slot : Slot) (e : PathEntry) :
    (e.setAt path slot).slot = if e.path = path then slot else e.slot := by
  unfold PathEntry.setAt; split <;> rfl

/-- The name of a path under a root with an empty name: its segments joined by the separator. -/
def pathName (separator : String) (path : List String) : String :=
  path.foldl (fun base segment => if base.isEmpty then segment else base ++ separator ++ segment) ""

theorem pathName_concat (separator : String) (path : List String) (segment : String) :
    pathName separator (path ++ [segment]) =
      if (pathName separator path).isEmpty then segment
      else pathName separator path ++ separator ++ segment := by
  simp [pathName]

/-- An abstract naming tree: its entries in the order their paths were bound. -/
structure PathMap where
  entries : List PathEntry := []

namespace PathMap

/-- The tree with nothing bound. -/
def empty : PathMap := {}

/-- What a path holds. -/
def get (m : PathMap) (path : List String) : Option Slot :=
  (m.entries.find? fun e => e.path = path).map (·.slot)

/-- The children of a directory in order, with what they hold. -/
def children (m : PathMap) (path : List String) : List (String × Slot) :=
  (m.entries.filter fun e => e.parent = path).map fun e => (e.segment, e.slot)

/-- Files a new path last in its directory. -/
def append (m : PathMap) (parent : List String) (segment : String) (slot : Slot) : PathMap :=
  ⟨m.entries ++ [⟨parent, segment, slot⟩]⟩

/-- Drops a path and everything below it. -/
def remove (m : PathMap) (path : List String) : PathMap :=
  ⟨m.entries.filter fun e => ¬ path <+: e.path⟩

/-- Sets what a bound path holds, in its place; what was below it goes. -/
def replace (m : PathMap) (path : List String) (slot : Slot) : PathMap :=
  ⟨(m.entries.filter fun e => ¬ path <+: e.parent).map (PathEntry.setAt path slot)⟩

/-- Binds a path: in its place when it is bound, else last in its directory. -/
def put (m : PathMap) (parent : List String) (segment : String) (slot : Slot) : PathMap :=
  if (m.get (parent ++ [segment])).isSome then m.replace (parent ++ [segment]) slot
  else m.append parent segment slot

/-- Every path is bound once, and the directory of each entry below the top is a directory. -/
structure WellFormed (m : PathMap) : Prop where
  distinct : (m.entries.map PathEntry.path).Nodup
  filed : ∀ e ∈ m.entries, e.parent ≠ [] → m.get e.parent = some .dir

theorem path_ne_nil (e : PathEntry) : e.path ≠ [] := by
  simp [PathEntry.path]

theorem path_eq_concat_iff (e : PathEntry) (parent : List String) (segment : String) :
    e.path = parent ++ [segment] ↔ e.parent = parent ∧ e.segment = segment := by
  simp [PathEntry.path]

@[simp] theorem get_nil (m : PathMap) : m.get [] = none := by
  simp [get, path_ne_nil]

theorem get_eq_none_iff (m : PathMap) (path : List String) :
    m.get path = none ↔ ∀ e ∈ m.entries, e.path ≠ path := by
  simp [get]

theorem get_eq_some_iff {m : PathMap} (distinct : (m.entries.map PathEntry.path).Nodup)
    (path : List String) (slot : Slot) :
    m.get path = some slot ↔ ∃ e ∈ m.entries, e.path = path ∧ e.slot = slot := by
  obtain ⟨entries⟩ := m
  simp only [get]
  induction entries with
  | nil => simp
  | cons first rest ih =>
      simp only [List.map_cons, List.nodup_cons, List.mem_map] at distinct
      by_cases here : first.path = path
      · subst here
        constructor
        · intro found
          simp only [List.find?_cons, decide_true, Option.map_some, Option.some.injEq] at found
          exact ⟨first, List.mem_cons_self, rfl, found⟩
        · rintro ⟨e, mem, same, rfl⟩
          rcases List.mem_cons.mp mem with rfl | later
          · simp
          · exact absurd ⟨e, later, same⟩ distinct.1
      · simp only [List.find?_cons, here, decide_false, List.mem_cons, exists_eq_or_imp, false_and,
          false_or]
        exact ih distinct.2

/-- A path is found in the children of its directory. -/
theorem get_concat (m : PathMap) (parent : List String) (segment : String) :
    m.get (parent ++ [segment]) =
      ((m.children parent).find? fun c => c.1 = segment).map (·.2) := by
  simp only [get, children, List.find?_map, List.find?_filter, Option.map_map]
  congr 2
  funext e
  simp [path_eq_concat_iff]

theorem get_append {m : PathMap} {parent : List String} {segment : String} (slot : Slot)
    (absent : m.get (parent ++ [segment]) = none) (path : List String) :
    (m.append parent segment slot).get path =
      if path = parent ++ [segment] then some slot else m.get path := by
  simp only [get, append, List.find?_append]
  by_cases here : path = parent ++ [segment]
  · subst here
    have missing : m.entries.find? (fun e => e.path = parent ++ [segment]) = none := by
      simpa [get] using absent
    rw [missing]
    simp [PathEntry.path]
  · have other : ¬ parent ++ [segment] = path := fun same => here same.symm
    simp [here, other, PathEntry.path]

theorem children_append (m : PathMap) (parent : List String) (segment : String) (slot : Slot)
    (path : List String) :
    (m.append parent segment slot).children path =
      m.children path ++ if parent = path then [(segment, slot)] else [] := by
  by_cases here : parent = path <;> simp [children, append, here]

theorem get_remove (m : PathMap) (path other : List String) :
    (m.remove path).get other = if path <+: other then none else m.get other := by
  simp only [get, remove, List.find?_filter]
  by_cases below : path <+: other
  · simp only [below, ↓reduceIte, Option.map_eq_none_iff, List.find?_eq_none,
      decide_eq_true_eq, not_and]
    intro e _ kept same
    exact kept (same ▸ below)
  · simp only [below, ↓reduceIte]
    congr 2
    funext e
    by_cases same : e.path = other
    · simp [same, below]
    · simp [same]

theorem children_remove (m : PathMap) {path other : List String} (outside : ¬ path <+: other) :
    (m.remove path).children other =
      (m.children other).filter fun c => other ++ [c.1] ≠ path := by
  simp only [children, remove, List.filter_filter, List.filter_map]
  congr 1
  apply List.filter_congr
  intro e _
  by_cases filed : e.parent = other
  · subst filed
    simp [PathEntry.path, List.prefix_concat_iff, outside, eq_comm]
  · simp [filed]

/-- An entry lies strictly below a path exactly when its directory lies below that path. -/
theorem prefix_parent_iff (e : PathEntry) (path : List String) :
    path <+: e.parent ↔ path <+: e.path ∧ e.path ≠ path := by
  simp only [PathEntry.path, List.prefix_concat_iff]
  constructor
  · intro below
    refine ⟨Or.inr below, fun same => ?_⟩
    have longer := same ▸ below.length_le
    simp at longer
  · rintro ⟨rfl | below, other⟩
    · exact absurd rfl other
    · exact below

theorem distinct_replace {m : PathMap} (distinct : (m.entries.map PathEntry.path).Nodup)
    (path : List String) (slot : Slot) :
    ((m.replace path slot).entries.map PathEntry.path).Nodup := by
  simpa [replace, List.map_map, Function.comp_def] using
    (List.filter_sublist.map PathEntry.path).nodup distinct

theorem get_replace {m : PathMap} (distinct : (m.entries.map PathEntry.path).Nodup)
    {path : List String} (slot : Slot) (present : (m.get path).isSome) (other : List String) :
    (m.replace path slot).get other =
      if other = path then some slot else if path <+: other then none else m.get other := by
  have distinct' := distinct_replace distinct path slot
  by_cases here : other = path
  · subst here
    obtain ⟨old, found⟩ := Option.isSome_iff_exists.mp present
    obtain ⟨e, mem, same, -⟩ := (get_eq_some_iff distinct other old).mp found
    have kept : ¬ other <+: e.parent := fun below => ((prefix_parent_iff e other).mp below).2 same
    rw [if_pos rfl, get_eq_some_iff distinct']
    exact ⟨e.setAt other slot, List.mem_map_of_mem (List.mem_filter.mpr ⟨mem, by simpa using kept⟩),
      by simp [same], by simp [PathEntry.slot_setAt, same]⟩
  · rw [if_neg here]
    by_cases below : path <+: other
    · rw [if_pos below, get_eq_none_iff]
      intro e mem same
      obtain ⟨e, kept, rfl⟩ := List.mem_map.mp mem
      have kept := (List.mem_filter.mp kept).2
      simp only [PathEntry.path_setAt] at same
      have inside := (prefix_parent_iff e path).mpr ⟨same ▸ below, same ▸ here⟩
      simp [inside] at kept
    · rw [if_neg below]
      cases found : m.get other with
      | none =>
          rw [get_eq_none_iff] at found ⊢
          intro e mem same
          obtain ⟨e, kept, rfl⟩ := List.mem_map.mp mem
          exact found e (List.mem_filter.mp kept).1 (by simpa using same)
      | some old =>
          obtain ⟨e, mem, same, rfl⟩ := (get_eq_some_iff distinct other old).mp found
          have kept : ¬ path <+: e.parent := fun inside =>
            below (same ▸ ((prefix_parent_iff e path).mp inside).1)
          rw [get_eq_some_iff distinct']
          exact ⟨e.setAt path slot,
            List.mem_map_of_mem (List.mem_filter.mpr ⟨mem, by simpa using kept⟩),
            by simp [same], by simp [PathEntry.slot_setAt, same, here]⟩

theorem children_replace (m : PathMap) (path : List String) (slot : Slot) (other : List String) :
    (m.replace path slot).children other =
      if path <+: other then []
      else (m.children other).map fun c => if other ++ [c.1] = path then (c.1, slot) else c := by
  obtain ⟨entries⟩ := m
  simp only [children, replace]
  induction entries with
  | nil => split <;> simp
  | cons e rest ih =>
      by_cases under : path <+: e.parent
      · by_cases filed : e.parent = other
        · subst filed
          simpa [List.filter_cons, under] using ih
        · simpa [List.filter_cons, under, filed] using ih
      · by_cases filed : e.parent = other
        · subst filed
          by_cases replaced : e.parent ++ [e.segment] = path
          · simpa [List.filter_cons, under, PathEntry.slot_setAt, PathEntry.path, replaced]
              using ih
          · simpa [List.filter_cons, under, PathEntry.slot_setAt, PathEntry.path, replaced]
              using ih
        · simpa [List.filter_cons, under, filed] using ih

theorem put_of_absent (m : PathMap) {parent : List String} {segment : String} (slot : Slot)
    (absent : m.get (parent ++ [segment]) = none) :
    m.put parent segment slot = m.append parent segment slot := by
  simp [put, absent]

/-- Binding a path leaves the children of every directory but its own as they were, off it. -/
theorem children_put_of_ne (m : PathMap) {parent other : List String} {segment : String}
    (slot : Slot) (elsewhere : other ≠ parent) (outside : ¬ parent ++ [segment] <+: other) :
    (m.put parent segment slot).children other = m.children other := by
  unfold put
  split
  · rw [children_replace, if_neg outside]
    apply List.map_id''
    intro c
    have differs : other ++ [c.1] ≠ parent ++ [segment] := fun same =>
      elsewhere (List.append_inj_left' same rfl)
    simp [differs]
  · simp [children_append, Ne.symm elsewhere]

/-- Dropping a path leaves the children of every directory but its own as they were, off it. -/
theorem children_remove_of_ne (m : PathMap) {parent other : List String} {segment : String}
    (elsewhere : other ≠ parent) (outside : ¬ parent ++ [segment] <+: other) :
    (m.remove (parent ++ [segment])).children other = m.children other := by
  rw [children_remove m outside]
  apply List.filter_eq_self.mpr
  intro c _
  have differs : other ++ [c.1] ≠ parent ++ [segment] := fun same =>
    elsewhere (List.append_inj_left' same rfl)
  simp [differs]

namespace WellFormed

variable {m : PathMap}

theorem empty : PathMap.empty.WellFormed := ⟨by simp [PathMap.empty], by simp [PathMap.empty]⟩

/-- A new path filed under a directory keeps the map well formed. -/
theorem append (wf : m.WellFormed) {parent : List String} {segment : String} (slot : Slot)
    (absent : m.get (parent ++ [segment]) = none)
    (filed : parent ≠ [] → m.get parent = some .dir) :
    (m.append parent segment slot).WellFormed := by
  have fresh : ∀ e ∈ m.entries, e.path ≠ parent ++ [segment] :=
    (get_eq_none_iff m _).mp absent
  constructor
  · simp only [PathMap.append, List.map_append, List.map_singleton, List.nodup_append,
      List.nodup_singleton, List.mem_singleton, List.mem_map]
    refine ⟨wf.distinct, trivial, ?_⟩
    rintro _ ⟨e, mem, rfl⟩ _ rfl
    exact fresh e mem
  · intro e mem notTop
    rw [get_append slot absent]
    rcases List.mem_append.mp mem with old | new
    · have dir := wf.filed e old notTop
      have other : e.parent ≠ parent ++ [segment] := fun same => by
        rw [same, absent] at dir
        cases dir
      simp [other, dir]
    · obtain rfl := List.mem_singleton.mp new
      have other : parent ≠ parent ++ [segment] := fun same => by
        have := congrArg List.length same
        simp at this
      simp [other, filed notTop]

/-- Dropping a path with everything below it keeps the map well formed. -/
theorem remove (wf : m.WellFormed) (path : List String) : (m.remove path).WellFormed := by
  constructor
  · exact (List.filter_sublist.map PathEntry.path).nodup wf.distinct
  · intro e mem notTop
    obtain ⟨old, kept⟩ := List.mem_filter.mp mem
    have keptPath : ¬ path <+: e.path := by simpa using kept
    have outside : ¬ path <+: e.parent := fun inside =>
      keptPath (inside.trans (List.prefix_append _ _))
    rw [get_remove, if_neg outside]
    exact wf.filed e old notTop

/-- Setting what a bound path holds keeps the map well formed. -/
theorem replace (wf : m.WellFormed) {path : List String} (slot : Slot)
    (present : (m.get path).isSome) : (m.replace path slot).WellFormed := by
  constructor
  · exact distinct_replace wf.distinct path slot
  · intro e mem notTop
    obtain ⟨e, kept, rfl⟩ := List.mem_map.mp mem
    obtain ⟨old, kept⟩ := List.mem_filter.mp kept
    have outside : ¬ path <+: e.parent := by simpa using kept
    have other : e.parent ≠ path := fun same => outside (same ▸ List.prefix_refl _)
    simp only [PathEntry.parent_setAt] at notTop ⊢
    rw [get_replace wf.distinct slot present, if_neg other, if_neg outside]
    exact wf.filed e old notTop

/-- Binding a path under a directory keeps the map well formed. -/
theorem put (wf : m.WellFormed) {parent : List String} {segment : String} (slot : Slot)
    (filed : parent ≠ [] → m.get parent = some .dir) :
    (m.put parent segment slot).WellFormed := by
  unfold PathMap.put
  split
  · rename_i present
    exact wf.replace slot present
  · rename_i absent
    exact wf.append slot (Option.not_isSome_iff_eq_none.mp absent) filed

/-- An unbound path below the top has no children. -/
theorem children_eq_nil (wf : m.WellFormed) {path : List String} (absent : m.get path = none)
    (notTop : path ≠ []) : m.children path = [] := by
  simp only [PathMap.children, List.map_eq_nil_iff, List.filter_eq_nil_iff, decide_eq_true_eq]
  intro e mem filed
  have dir := wf.filed e mem (filed ▸ notTop)
  rw [filed, absent] at dir
  cases dir

/-- The children of a directory have distinct names. -/
theorem children_nodup (wf : m.WellFormed) (path : List String) :
    ((m.children path).map (·.1)).Nodup := by
  have distinct := (List.filter_sublist (p := fun e : PathEntry => decide (e.parent = path)) |>.map
    PathEntry.path).nodup wf.distinct
  have paths : (m.entries.filter fun e => e.parent = path).map PathEntry.path =
      ((m.entries.filter fun e => e.parent = path).map (·.segment)).map (path ++ [·]) := by
    simp only [List.map_map]
    apply List.map_congr_left
    intro e mem
    simp [PathEntry.path, (by simpa using (List.mem_filter.mp mem).2 : e.parent = path)]
  rw [paths] at distinct
  simpa [children, List.map_map, Function.comp_def] using distinct.of_map _

/-- Every non-empty proper prefix of a bound path is a directory. -/
theorem get_prefix_eq_dir (wf : m.WellFormed) {path before : List String} {slot : Slot}
    (bound : m.get path = some slot) (prefix_ : before <+: path) (notTop : before ≠ [])
    (proper : before ≠ path) : m.get before = some .dir := by
  induction path using List.reverseRecOn generalizing slot with
  | nil => simp at bound
  | append_singleton parent segment ih =>
      obtain ⟨e, mem, same, -⟩ := (get_eq_some_iff wf.distinct _ _).mp bound
      have filedAt : e.parent = parent := ((path_eq_concat_iff e parent segment).mp same).1
      have dir : m.get parent = some .dir := by
        have parentTop : parent ≠ [] := by
          rintro rfl
          exact notTop (List.prefix_nil.mp (by
            rcases List.prefix_concat_iff.mp prefix_ with rfl | inside
            · exact absurd rfl proper
            · exact inside))
        simpa [filedAt] using wf.filed e mem (filedAt ▸ parentTop)
      rcases List.prefix_concat_iff.mp prefix_ with rfl | inside
      · exact absurd rfl proper
      · by_cases top : before = parent
        · exact top ▸ dir
        · exact ih dir inside top

/-- Below an unbound path other than the top nothing is bound. -/
theorem get_append_eq_none (wf : m.WellFormed) {path : List String} (absent : m.get path = none)
    (notTop : path ≠ []) (rest : List String) : m.get (path ++ rest) = none := by
  cases found : m.get (path ++ rest) with
  | none => rfl
  | some slot =>
      cases rest with
      | nil => simp [absent] at found
      | cons segment more =>
          have dir := wf.get_prefix_eq_dir found (List.prefix_append path _) notTop (by simp)
          rw [absent] at dir
          cases dir

end WellFormed

/-- The failure of an operation given the empty name. -/
def emptyName (operation : String) : NamingError :=
  .invalidPath ("cannot " ++ operation ++ " an empty name")

/-- The first path, from `done` on along `rest`, that is not a directory. -/
def firstNonDir (m : PathMap) (done : List String) : List String → Option (List String)
  | [] => none
  | segment :: rest =>
    match m.get (done ++ [segment]) with
    | some .dir => m.firstNonDir (done ++ [segment]) rest
    | _ => some (done ++ [segment])

/-- Why a walk stops at a path that is not a directory: it holds a value, or nothing. -/
def stopError (m : PathMap) (separator : String) (path : List String) : NamingError :=
  match m.get path with
  | some (.leaf _) => .notANode (pathName separator path)
  | _ => .notFound (pathName separator path)

/-- Walks the directories of a path, failing at its shortest non-empty prefix that is not one. -/
def walk (m : PathMap) (separator : String) (path : List String) : Except NamingError Unit :=
  match m.firstNonDir [] path with
  | some stop => .error (m.stopError separator stop)
  | none => .ok ()

/-- Binds a value at a free path. -/
def bind (m : PathMap) (separator : String) (path : List String) (v : Value) :
    Except NamingError PathMap :=
  match path.getLast? with
  | none => .error (emptyName "bind")
  | some segment => do
    m.walk separator path.dropLast
    if (m.get path).isSome then .error (.alreadyBound (pathName separator path))
    else pure (m.append path.dropLast segment (.leaf v))

/-- Binds a value at a path, in place of what it held. -/
def rebind (m : PathMap) (separator : String) (path : List String) (v : Value) :
    Except NamingError PathMap :=
  match path.getLast? with
  | none => .error (emptyName "rebind")
  | some segment => do
    m.walk separator path.dropLast
    pure (m.put path.dropLast segment (.leaf v))

/-- Drops a bound path with everything below it. -/
def unbind (m : PathMap) (separator : String) (path : List String) : Except NamingError PathMap :=
  match path.getLast? with
  | none => .error (emptyName "unbind")
  | some _ => do
    m.walk separator path.dropLast
    if (m.get path).isSome then pure (m.remove path)
    else .error (.notFound (pathName separator path))

/-- Makes an empty directory at a free path. -/
def createSubnode (m : PathMap) (separator : String) (path : List String) :
    Except NamingError PathMap :=
  match path.getLast? with
  | none => .error (emptyName "create")
  | some segment => do
    m.walk separator path.dropLast
    if (m.get path).isSome then .error (.alreadyBound (pathName separator path))
    else pure (m.append path.dropLast segment .dir)

/-- Walks on from `done` along `rest`, making each missing directory; a value stops it. -/
def ensureFrom (m : PathMap) (separator : String) (done : List String) :
    List String → Except NamingError PathMap
  | [] => pure m
  | segment :: rest =>
    match m.get (done ++ [segment]) with
    | some .dir => m.ensureFrom separator (done ++ [segment]) rest
    | some (.leaf _) => .error (.structuralConflict (pathName separator (done ++ [segment])))
    | none => (m.append done segment .dir).ensureFrom separator (done ++ [segment]) rest

/-- Drops a bound directory with everything below it. -/
def destroySubnode (m : PathMap) (separator : String) (path : List String) :
    Except NamingError PathMap :=
  match path.getLast? with
  | none => .error (emptyName "destroy")
  | some _ => do
    m.walk separator path.dropLast
    match m.get path with
    | some .dir => pure (m.remove path)
    | some (.leaf _) => .error (.notANode (pathName separator path))
    | none => .error (.notFound (pathName separator path))

/-- What a path holds; the empty path is the top directory. -/
def lookup (m : PathMap) (separator : String) (path : List String) : Except NamingError Slot :=
  match path.getLast? with
  | none => pure .dir
  | some _ => do
    m.walk separator path.dropLast
    match m.get path with
    | some slot => pure slot
    | none => .error (.notFound (pathName separator path))

/-- The value a path holds; a directory is not one. -/
def lookupValue (m : PathMap) (separator : String) (path : List String) :
    Except NamingError Value := do
  match ← m.lookup separator path with
  | .leaf v => pure v
  | .dir => .error (.invalidPath ("'" ++ pathName separator path ++ "' is a node, not a value"))

/-- The names in a directory, in order. -/
def list (m : PathMap) (separator : String) (path : List String) :
    Except NamingError (List String) := do
  m.walk separator path
  pure ((m.children path).map (·.1))

/-- The children of a directory with what they hold, in order. -/
def listBindings (m : PathMap) (separator : String) (path : List String) :
    Except NamingError (List (String × Slot)) := do
  m.walk separator path
  pure (m.children path)

theorem get_of_firstNonDir_eq_none {m : PathMap} {done rest : List String}
    (clear : m.firstNonDir done rest = none) (nonempty : rest ≠ []) :
    m.get (done ++ rest) = some .dir := by
  induction rest generalizing done with
  | nil => exact absurd rfl nonempty
  | cons segment rest ih =>
      simp only [firstNonDir] at clear
      split at clear
      · rename_i dir
        cases rest with
        | nil => simpa using dir
        | cons next rest => simpa using ih clear (by simp)
      · cases clear

/-- A path walked through to the end is a directory, or the top. -/
theorem get_of_walk_eq_ok {m : PathMap} {separator : String} {path : List String}
    (walked : m.walk separator path = .ok ()) (nonempty : path ≠ []) :
    m.get path = some .dir := by
  unfold walk at walked
  split at walked
  · cases walked
  · rename_i clear
    simpa using get_of_firstNonDir_eq_none clear nonempty

theorem dropLast_append_of_getLast? {path : List String} {segment : String}
    (last : path.getLast? = some segment) : path = path.dropLast ++ [segment] := by
  rw [List.getLast?_eq_some_iff] at last
  obtain ⟨front, rfl⟩ := last
  simp

/-- Making the missing directories from a path with nothing below it never fails. -/
theorem ensureFrom_ok_of_vacant (m : PathMap) (separator : String) {done : List String}
    (vacant : ∀ rest, rest ≠ [] → m.get (done ++ rest) = none) (rest : List String) :
    ∃ m', m.ensureFrom separator done rest = .ok m' := by
  induction rest generalizing m done with
  | nil => exact ⟨m, rfl⟩
  | cons segment rest ih =>
      have absent : m.get (done ++ [segment]) = none := vacant [segment] (by simp)
      simp only [ensureFrom, absent]
      apply ih
      intro more nonempty
      rw [get_append .dir absent, if_neg (by simpa using nonempty), List.append_assoc]
      exact vacant _ (by simp)

namespace WellFormed

variable {m m' : PathMap} {separator : String} {path : List String}

/-- A directory walked through to, for a path below it. -/
theorem filed_of_walk (walked : m.walk separator path.dropLast = .ok ()) :
    path.dropLast ≠ [] → m.get path.dropLast = some .dir :=
  get_of_walk_eq_ok walked

theorem bind (wf : m.WellFormed) {v : Value} (ok : m.bind separator path v = .ok m') :
    m'.WellFormed := by
  cases last : path.getLast? with
  | none => simp [PathMap.bind, last] at ok
  | some segment =>
      cases walked : m.walk separator path.dropLast with
      | error e => simp [PathMap.bind, last, walked, Bind.bind, Except.bind] at ok
      | ok u =>
          simp only [PathMap.bind, last, walked, Bind.bind, Except.bind] at ok
          split at ok
          · cases ok
          · rename_i absent
            cases ok
            apply wf.append _ _ (filed_of_walk walked)
            rw [← dropLast_append_of_getLast? last]
            simpa using absent

theorem rebind (wf : m.WellFormed) {v : Value} (ok : m.rebind separator path v = .ok m') :
    m'.WellFormed := by
  cases last : path.getLast? with
  | none => simp [PathMap.rebind, last] at ok
  | some segment =>
      cases walked : m.walk separator path.dropLast with
      | error e => simp [PathMap.rebind, last, walked, Bind.bind, Except.bind] at ok
      | ok u =>
          simp only [PathMap.rebind, last, walked, Bind.bind, Except.bind, pure, Except.pure,
            Except.ok.injEq] at ok
          subst ok
          exact wf.put _ (filed_of_walk walked)

theorem unbind (wf : m.WellFormed) (ok : m.unbind separator path = .ok m') : m'.WellFormed := by
  cases last : path.getLast? with
  | none => simp [PathMap.unbind, last] at ok
  | some segment =>
      cases walked : m.walk separator path.dropLast with
      | error e => simp [PathMap.unbind, last, walked, Bind.bind, Except.bind] at ok
      | ok u =>
          simp only [PathMap.unbind, last, walked, Bind.bind, Except.bind] at ok
          split at ok
          · cases ok
            exact wf.remove path
          · cases ok

theorem createSubnode (wf : m.WellFormed) (ok : m.createSubnode separator path = .ok m') :
    m'.WellFormed := by
  cases last : path.getLast? with
  | none => simp [PathMap.createSubnode, last] at ok
  | some segment =>
      cases walked : m.walk separator path.dropLast with
      | error e => simp [PathMap.createSubnode, last, walked, Bind.bind, Except.bind] at ok
      | ok u =>
          simp only [PathMap.createSubnode, last, walked, Bind.bind, Except.bind] at ok
          split at ok
          · cases ok
          · rename_i absent
            cases ok
            apply wf.append _ _ (filed_of_walk walked)
            rw [← dropLast_append_of_getLast? last]
            simpa using absent

theorem destroySubnode (wf : m.WellFormed) (ok : m.destroySubnode separator path = .ok m') :
    m'.WellFormed := by
  cases last : path.getLast? with
  | none => simp [PathMap.destroySubnode, last] at ok
  | some segment =>
      cases walked : m.walk separator path.dropLast with
      | error e => simp [PathMap.destroySubnode, last, walked, Bind.bind, Except.bind] at ok
      | ok u =>
          simp only [PathMap.destroySubnode, last, walked, Bind.bind, Except.bind] at ok
          split at ok
          · cases ok
            exact wf.remove path
          · cases ok
          · cases ok

/-- Making the missing directories of a path keeps the map well formed. -/
theorem ensureFrom (wf : m.WellFormed) {done rest : List String}
    (top : done ≠ [] → m.get done = some .dir) (ok : m.ensureFrom separator done rest = .ok m') :
    m'.WellFormed := by
  induction rest generalizing m done with
  | nil =>
      cases ok
      exact wf
  | cons segment rest ih =>
      simp only [PathMap.ensureFrom] at ok
      split at ok
      · rename_i dir
        exact ih wf (fun _ => dir) ok
      · cases ok
      · rename_i absent
        have wf' := wf.append Slot.dir absent top
        refine ih wf' (fun _ => ?_) ok
        rw [get_append Slot.dir absent]
        simp

end WellFormed

end PathMap

end NamingDirectory
