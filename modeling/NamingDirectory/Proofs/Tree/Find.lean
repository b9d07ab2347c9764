import Mathlib
import NamingDirectory.Tree.Edit

/-!
What a path leads to from a node through bindings alone (`Forest.find`), and when a change keeps it.
-/

namespace NamingDirectory

namespace OrderedMap

variable {α : Type}

theorem contains_eq_isSome (map : OrderedMap α) (key : String) :
    map.contains key = (map.get? key).isSome := by
  obtain ⟨entries⟩ := map
  induction entries with
  | nil => rfl
  | cons entry rest ih =>
      by_cases found : entry.1 = key
      · simp [contains, get?, found]
      · have skipped : (entry.1 == key) = false := by simpa using found
        simpa [contains, get?, skipped, List.find?_cons] using ih

/-- Setting a key answers the new value for it and leaves the other keys alone. -/
theorem get?_insert (map : OrderedMap α) (key key' : String) (value : α) :
    (map.insert key value).get? key' = if key = key' then some value else map.get? key' := by
  obtain ⟨entries⟩ := map
  simp only [insert, get?]
  induction entries with
  | nil => by_cases same : key = key' <;> simp [insertEntries, same]
  | cons entry rest ih =>
      obtain ⟨k, v⟩ := entry
      by_cases here : k = key
      · subst here
        by_cases same : k = key' <;> simp [insertEntries, same]
      · by_cases found : k = key'
        · subst found
          simp [insertEntries, here, Ne.symm here]
        · simpa [insertEntries, here, found, List.find?_cons] using ih

/-- A new key goes last. -/
theorem entries_insert_of_not_contains (map : OrderedMap α) (key : String) (value : α)
    (absent : map.contains key = false) :
    (map.insert key value).entries = map.entries ++ [(key, value)] := by
  obtain ⟨entries⟩ := map
  simp only [insert]
  induction entries with
  | nil => rfl
  | cons entry rest ih =>
      obtain ⟨k, v⟩ := entry
      have other : k ≠ key := by
        intro same
        simp [contains, same] at absent
      have restAbsent : (OrderedMap.mk rest).contains key = false := by
        simp only [contains, List.any_cons, Bool.or_eq_false_iff] at absent
        exact absent.2
      simp [insertEntries, other, ih restAbsent]

/-- A present key keeps its place, when keys are not repeated. -/
theorem entries_insert_of_contains (map : OrderedMap α) (key : String) (value : α)
    (distinct : (map.entries.map (·.1)).Nodup) (present : map.contains key = true) :
    (map.insert key value).entries =
      map.entries.map fun entry => if entry.1 = key then (key, value) else entry := by
  obtain ⟨entries⟩ := map
  simp only [insert]
  induction entries with
  | nil => simp [contains] at present
  | cons entry rest ih =>
      obtain ⟨k, v⟩ := entry
      simp only [List.map_cons, List.nodup_cons, List.mem_map] at distinct
      by_cases here : k = key
      · subst here
        have unchanged : ∀ entry ∈ rest, (if entry.1 = k then (k, value) else entry) = entry :=
          fun entry mem => if_neg fun same => distinct.1 ⟨entry, mem, same⟩
        simp [insertEntries, List.map_congr_left unchanged]
      · have restPresent : (OrderedMap.mk rest).contains key = true := by
          simpa [contains, here] using present
        simp [insertEntries, here, ih distinct.2 restPresent]

/-- With keys not repeated, a key answers the value it is set to. -/
theorem get?_of_mem (map : OrderedMap α) {key : String} {value : α}
    (distinct : (map.entries.map (·.1)).Nodup) (mem : (key, value) ∈ map.entries) :
    map.get? key = some value := by
  obtain ⟨entries⟩ := map
  simp only [get?]
  induction entries with
  | nil => cases mem
  | cons entry rest ih =>
      simp only [List.map_cons, List.nodup_cons, List.mem_map] at distinct
      rcases List.mem_cons.mp mem with rfl | later
      · simp
      · have other : entry.1 ≠ key := fun same => distinct.1 ⟨(key, value), later, same.symm⟩
        have skipped : (entry.1 == key) = false := by simpa using other
        simpa [List.find?_cons, skipped] using ih distinct.2 later

theorem get?_erase (map : OrderedMap α) (key key' : String) :
    (map.erase key).get? key' = if key = key' then none else map.get? key' := by
  obtain ⟨entries⟩ := map
  simp only [erase, get?]
  by_cases same : key = key'
  · subst same
    simp [List.find?_filter]
  · rw [if_neg same, List.find?_filter]
    congr 2
    funext entry
    by_cases found : entry.1 = key' <;> simp [found, Ne.symm same]

@[simp] theorem contains_erase_self (map : OrderedMap α) (key : String) :
    (map.erase key).contains key = false := by
  rw [contains_eq_isSome, get?_erase, if_pos rfl]
  rfl

end OrderedMap

namespace Forest

theorem get_update (forest : Forest) (id n : NodeId) (change : Node → Node) :
    (forest.update id change).get n =
      if id = n ∧ n < forest.nodes.size then change (forest.get n) else forest.get n := by
  simp only [get, update, Array.getElem?_modify]
  by_cases same : id = n
  · subst same
    by_cases inside : id < forest.nodes.size
    · simp [inside]
    · simp [inside]
  · simp [same]

@[simp] theorem size_update (forest : Forest) (id : NodeId) (change : Node → Node) :
    (forest.update id change).nodes.size = forest.nodes.size := by
  simp [update]

theorem get_of_size_le (forest : Forest) {n : NodeId} (beyond : forest.nodes.size ≤ n) :
    forest.get n = default := by
  simp [get, Array.getElem?_eq_none beyond]

@[simp] theorem addChild_fst (forest : Forest) (owner : NodeId) (segment : String) :
    (forest.addChild owner segment).1 = forest.nodes.size := rfl

@[simp] theorem size_addChild (forest : Forest) (owner : NodeId) (segment : String) :
    (forest.addChild owner segment).2.nodes.size = forest.nodes.size + 1 := by
  simp [addChild]

/-- A made node is the only change. -/
theorem get_addChild (forest : Forest) (owner : NodeId) (segment : String) (n : NodeId) :
    (forest.addChild owner segment).2.get n =
      if n = forest.nodes.size then
        { fixedName := some (forest.compose owner segment), localName := segment,
          parent := some owner, config := (forest.get owner).config }
      else forest.get n := by
  simp only [get, addChild, Array.getElem?_push]
  split <;> simp

/-- A node made under another one starts open and empty. -/
theorem get_addChild_self (forest : Forest) (owner : NodeId) (segment : String) :
    (forest.addChild owner segment).2.get forest.nodes.size =
      { fixedName := some (forest.compose owner segment), localName := segment,
        parent := some owner, config := (forest.get owner).config } := by
  simp [get_addChild]

theorem get_addChild_of_lt (forest : Forest) (owner : NodeId) (segment : String) {n : NodeId}
    (old : n < forest.nodes.size) : (forest.addChild owner segment).2.get n = forest.get n := by
  simp [get_addChild, Nat.ne_of_lt old]

theorem get_setBinding (forest : Forest) (id : NodeId) (segment : String) (bound : Bound)
    (n : NodeId) :
    (forest.setBinding id segment bound).get n =
      if id = n ∧ n < forest.nodes.size then
        { forest.get n with bindings := (forest.get n).bindings.insert segment bound }
      else forest.get n :=
  get_update forest id n _

theorem get_eraseBinding (forest : Forest) (id : NodeId) (segment : String) (n : NodeId) :
    (forest.eraseBinding id segment).get n =
      if id = n ∧ n < forest.nodes.size then
        { forest.get n with bindings := (forest.get n).bindings.erase segment }
      else forest.get n :=
  get_update forest id n _

/-- What a path leads to from a node, read through bindings alone. -/
def find (forest : Forest) (start : NodeId) : List String → Option Bound
  | [] => some (.node start)
  | segment :: rest =>
    match (forest.get start).bindings.get? segment with
    | some (.node child) => forest.find child rest
    | some (.value v) => if rest = [] then some (.value v) else none
    | none => none

@[simp] theorem find_nil (forest : Forest) (start : NodeId) :
    forest.find start [] = some (.node start) := rfl

/-- A path through a node goes on from that node. -/
theorem find_append_of_node (forest : Forest) {start n : NodeId} {path : List String}
    (reached : forest.find start path = some (.node n)) (rest : List String) :
    forest.find start (path ++ rest) = forest.find n rest := by
  induction path generalizing start with
  | nil => cases reached; rfl
  | cons segment path ih =>
      simp only [find] at reached
      simp only [List.cons_append, find]
      split at reached
      · exact ih reached
      · split at reached <;> cases reached
      · cases reached

/-- The last step of a path reads one binding. -/
theorem find_concat (forest : Forest) (start : NodeId) (path : List String) (segment : String) :
    forest.find start (path ++ [segment]) =
      ((forest.find start path).bind Bound.node?).bind fun n => (forest.get n).bindings.get? segment := by
  induction path generalizing start with
  | nil =>
      simp only [List.nil_append, find, Option.bind_some, Bound.node?]
      split <;> simp_all
  | cons first path ih =>
      simp only [List.cons_append, find]
      split
      · exact ih _
      · rename_i v _
        cases path <;> simp [Bound.node?]
      · simp

/-- Below a path that leads to no node, no path leads to a node. -/
theorem find_append_ne_node (forest : Forest) {start : NodeId} {path : List String}
    (stops : (forest.find start path).bind Bound.node? = none) (rest : List String) (n : NodeId) :
    forest.find start (path ++ rest) ≠ some (.node n) := by
  induction path generalizing start with
  | nil => simp [Bound.node?] at stops
  | cons segment path ih =>
      simp only [find] at stops
      simp only [List.cons_append, find]
      split
      · rename_i child found
        simp only [found] at stops
        exact ih stops
      · split <;> simp
      · simp

/-- A walk that gets through leads where the path does. -/
theorem find_of_walk (forest : Forest) {start n : NodeId} {path : List String}
    (walked : forest.walk start path = .ok n) : forest.find start path = some (.node n) := by
  induction path generalizing start with
  | nil => cases walked; rfl
  | cons segment path ih =>
      simp only [walk] at walked
      split at walked
      · cases walked
      · simp only [find]
        cases bound : (forest.get start).bindings.get? segment with
        | none => simp [bound] at walked
        | some b =>
            cases b with
            | value v => simp [bound] at walked
            | node child =>
                simp only [bound] at walked ⊢
                exact ih walked

/-- A path leads where it did while every binding it reads is unchanged. -/
theorem find_congr {forest forest' : Forest} {start : NodeId} {path : List String}
    (reads : ∀ before segment, before ++ [segment] <+: path → ∀ n,
      forest.find start before = some (.node n) →
        (forest'.get n).bindings.get? segment = (forest.get n).bindings.get? segment) :
    forest'.find start path = forest.find start path := by
  induction path generalizing start with
  | nil => rfl
  | cons segment rest ih =>
      have here := reads [] segment (by simp) start rfl
      simp only [find, here]
      split
      · rename_i child found
        apply ih
        intro before next within n reached
        apply reads (segment :: before) next (by simpa using within) n
        simpa [find, found] using reached
      · rfl
      · rfl

end Forest

namespace TreeM

variable {α β : Type}

/-- How a tree operation runs on a forest: its outcome and the forest after it. -/
def exec (x : TreeM α) (forest : Forest) : Except NamingError α × Forest := (x.run.run forest).run

@[simp] theorem exec_pure (a : α) (forest : Forest) : (pure a : TreeM α).exec forest = (.ok a, forest) :=
  rfl

@[simp] theorem exec_throw (e : NamingError) (forest : Forest) :
    (throw e : TreeM α).exec forest = (.error e, forest) := rfl

@[simp] theorem exec_set (next forest : Forest) : (set next : TreeM PUnit).exec forest = (.ok ⟨⟩, next) :=
  rfl

@[simp] theorem exec_get (forest : Forest) : (get : TreeM Forest).exec forest = (.ok forest, forest) :=
  rfl

@[simp] theorem exec_get_bind (f : Forest → TreeM α) (forest : Forest) :
    (get >>= f).exec forest = (f forest).exec forest := rfl

@[simp] theorem exec_set_bind (next : Forest) (f : PUnit → TreeM α) (forest : Forest) :
    (set next >>= f).exec forest = (f ⟨⟩).exec next := rfl

/-- A step runs on the forest its predecessor left, and a failure skips it. -/
theorem exec_bind (x : TreeM α) (f : α → TreeM β) (forest : Forest) :
    (x >>= f).exec forest = match x.exec forest with
      | (.ok a, after) => (f a).exec after
      | (.error e, after) => (.error e, after) := by
  simp only [exec, ExceptT.run_bind, StateT.run_bind]
  generalize StateT.run (ExceptT.run x) forest = outcome
  rcases outcome with ⟨_ | a, after⟩ <;> rfl

/-- A lifted change keeps the forest when it fails. -/
theorem exec_change (f : Forest → Except NamingError Forest) (forest : Forest) :
    (TreeM.change f).exec forest = match f forest with
      | .ok after => (.ok (), after)
      | .error e => (.error e, forest) := by
  unfold TreeM.change
  simp only [exec_get_bind]
  cases f forest <;> rfl

theorem exec_make (f : Forest → Except NamingError (α × Forest)) (forest : Forest) :
    (TreeM.make f).exec forest = match f forest with
      | .ok (a, after) => (.ok a, after)
      | .error e => (.error e, forest) := by
  unfold TreeM.make
  simp only [exec_get_bind]
  cases f forest <;> rfl

theorem exec_ask (f : Forest → Except NamingError α) (forest : Forest) :
    (TreeM.ask f).exec forest = match f forest with
      | .ok a => (.ok a, forest)
      | .error e => (.error e, forest) := by
  unfold TreeM.ask
  simp only [exec_get_bind]
  cases f forest <;> rfl

end TreeM

end NamingDirectory
