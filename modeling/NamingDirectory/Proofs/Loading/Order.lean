import Mathlib
import NamingDirectory.Descriptor
import NamingDirectory.Proofs.Records.Coalesce

/-!
Classified records load leaves in key order and typed entries by first type key
(`classify_leaves_sublist`, `classify_descriptor_paths`).
-/

namespace NamingDirectory

/-- The path a type key declares: the key without its last segment. -/
def typedPath? (delimiter : Delimiter) (key : String) : Option Name :=
  let name := Name.parse key delimiter
  if name.last? == some typeKey && name.length > 1 then some name.parent else none

/-- The paths the type keys of a record set declare, each once, in the order of their first type key. -/
def Records.typedPaths (records : Records) (delimiter : Delimiter) : List Name :=
  (records.entries.filterMap fun entry => typedPath? delimiter entry.1).eraseDups

namespace Classification

/-- The paths of a table of descriptors, in order. -/
def paths (table : List (Name × TypeDescriptor)) : List Name := table.map (·.1)

/-- Every descriptor of a table is filed under its own path. -/
def Filed (table : List (Name × TypeDescriptor)) : Prop :=
  ∀ entry ∈ table, entry.2.path = entry.1

theorem paths_put (table : List (Name × TypeDescriptor)) (path : Name) (d : TypeDescriptor) :
    paths (put table path d) =
      if path ∈ paths table then paths table else paths table ++ [path] := by
  induction table with
  | nil => simp [put, paths]
  | cons entry rest ih =>
      obtain ⟨p, old⟩ := entry
      by_cases here : p = path
      · subst here
        simp [put, paths]
      · have skipped : (p == path) = false := by simpa using here
        by_cases later : path ∈ paths rest
        · simp_all [put, paths]
        · simp_all [put, paths, Ne.symm here]

theorem filed_put {table : List (Name × TypeDescriptor)} (filed : Filed table) {path : Name}
    {d : TypeDescriptor} (own : d.path = path) : Filed (put table path d) := by
  induction table with
  | nil => simpa [put, Filed] using own
  | cons entry rest ih =>
      obtain ⟨p, old⟩ := entry
      have restFiled : Filed rest := fun e mem => filed e (List.mem_cons_of_mem _ mem)
      by_cases here : p = path
      · subst here
        intro e mem
        simp only [put, beq_self_eq_true, ↓reduceIte, List.mem_cons] at mem
        rcases mem with rfl | later
        · exact own
        · exact restFiled e later
      · have skipped : (p == path) = false := by simpa using here
        intro e mem
        simp only [put, skipped, Bool.false_eq_true, ↓reduceIte, List.mem_cons] at mem
        rcases mem with rfl | later
        · exact filed _ List.mem_cons_self
        · exact ih restFiled e later

/-- A descriptor found for a path is filed under it. -/
theorem path_of_find? {table : List (Name × TypeDescriptor)} (filed : Filed table)
    {path : Name} {d : TypeDescriptor} (found : find? table path = some d) :
    d.path = path ∧ path ∈ paths table := by
  simp only [find?, Option.map_eq_some_iff] at found
  obtain ⟨entry, first, rfl⟩ := found
  have same : entry.1 = path := by simpa using List.find?_some first
  have mem := List.mem_of_find?_eq_some first
  exact ⟨(filed entry mem).trans same, same ▸ List.mem_map_of_mem mem⟩

theorem absorb_path (d : TypeDescriptor) (key : String) (value : RecordValue) :
    (d.absorb key value).path = d.path := by
  unfold TypeDescriptor.absorb
  split <;> rfl

/-- Sorting one record keeps the table's paths, files each descriptor under its path, may add a leaf. -/
theorem sortRecord_spec (delimiter : Delimiter)
    (acc : List (Name × TypeDescriptor) × List (Name × RecordValue))
    (entry : String × RecordValue) (filed : Filed acc.1) :
    paths (sortRecord delimiter acc entry).1 = paths acc.1 ∧
      Filed (sortRecord delimiter acc entry).1 ∧
      ((sortRecord delimiter acc entry).2 = acc.2 ∨
        (sortRecord delimiter acc entry).2 =
          acc.2 ++ [(Name.parse entry.1 delimiter, entry.2)]) := by
  obtain ⟨table, leaves⟩ := acc
  obtain ⟨key, value⟩ := entry
  simp only [sortRecord]
  have kept : ∀ path d', (∃ d, find? table path = some d ∧ d'.path = path) →
      paths (put table path d') = paths table ∧ Filed (put table path d') := by
    rintro path d' ⟨d, found, own⟩
    rw [paths_put, if_pos (path_of_find? filed found).2]
    exact ⟨rfl, filed_put filed own⟩
  split
  · exact ⟨rfl, filed, .inl rfl⟩
  · cases found : find? table (Name.parse key delimiter) with
    | some d =>
        obtain ⟨same, filedAfter⟩ := kept _ { d with value := some value }
          ⟨d, found, (path_of_find? filed found).1⟩
        exact ⟨same, filedAfter, .inl rfl⟩
    | none =>
        simp only
        split
        · rename_i d last parentFound _
          have parentFound' : find? table (Name.parse key delimiter).parent = some d := by
            split at parentFound
            · exact parentFound
            · cases parentFound
          obtain ⟨same, filedAfter⟩ := kept _ (d.absorb last value)
            ⟨d, parentFound',
              (absorb_path d last value).trans (path_of_find? filed parentFound').1⟩
          exact ⟨same, filedAfter, .inl rfl⟩
        · exact ⟨rfl, filed, .inr rfl⟩

/-- Filing a descriptor per declaring entry keeps the declared paths, each once, in first order. -/
theorem foldl_declares {delimiter : Delimiter}
    (step : List (Name × TypeDescriptor) → String × RecordValue →
      List (Name × TypeDescriptor))
    (steps : ∀ table entry, (typedPath? delimiter entry.1 = none ∧ step table entry = table) ∨
      ∃ path, typedPath? delimiter entry.1 = some path ∧
        step table entry = put table path (TypeDescriptor.new path entry.2.first))
    (entries : List (String × RecordValue)) (read : List Name)
    (table : List (Name × TypeDescriptor)) (same : paths table = read.eraseDups)
    (filed : Filed table) :
    paths (entries.foldl step table) =
        (read ++ entries.filterMap fun entry => typedPath? delimiter entry.1).eraseDups ∧
      Filed (entries.foldl step table) := by
  induction entries generalizing read table with
  | nil => simpa using ⟨same, filed⟩
  | cons entry rest ih =>
      rw [List.foldl_cons, List.filterMap_cons]
      rcases steps table entry with ⟨none_declared, kept⟩ | ⟨path, declares, filing⟩
      · simp only [none_declared, kept]
        exact ih read table same filed
      · simp only [declares, filing]
        have appended := ih (read ++ [path])
          (put table path (TypeDescriptor.new path entry.2.first))
          (by rw [paths_put, eraseDups_concat, same]; simp only [List.mem_eraseDups])
          (filed_put filed rfl)
        simpa using appended

/-- The declared descriptors hold each declared path once, in the order of its first type key. -/
theorem declared_spec (records : Records) (delimiter : Delimiter) :
    paths (declared records delimiter) = records.typedPaths delimiter ∧
      Filed (declared records delimiter) := by
  unfold declared Records.typedPaths
  refine foldl_declares _ (fun table entry => ?_) records.entries [] [] rfl
    (fun _ mem => by cases mem)
  obtain ⟨key, value⟩ := entry
  by_cases typed : ((Name.parse key delimiter).last? == some typeKey &&
      decide ((Name.parse key delimiter).length > 1)) = true
  · refine .inr ⟨(Name.parse key delimiter).parent, ?_, ?_⟩
    · simp only [typedPath?, typed, if_true]
    · simp only [typed, if_true]
  · refine .inl ⟨?_, ?_⟩
    · simp only [typedPath?, typed]
      rfl
    · simp only [typed]
      rfl

end Classification

/-- Typed entries come one per declared path, in the order of the path's first type key. -/
theorem classify_descriptor_paths {records : Records} {delimiter : Delimiter}
    (whole : Classification.namespaceType? records delimiter = none) :
    (classify records delimiter).descriptors.map (·.path) = records.typedPaths delimiter := by
  obtain ⟨declaredPaths, declaredFiled⟩ := Classification.declared_spec records delimiter
  have sorted : ∀ (entries : List (String × RecordValue))
      (acc : List (Name × TypeDescriptor) × List (Name × RecordValue)),
      Classification.Filed acc.1 →
      Classification.paths (entries.foldl (Classification.sortRecord delimiter) acc).1 =
          Classification.paths acc.1 ∧
        Classification.Filed (entries.foldl (Classification.sortRecord delimiter) acc).1 := by
    intro entries
    induction entries with
    | nil => intro acc filed; exact ⟨rfl, filed⟩
    | cons entry rest ih =>
        intro acc filed
        obtain ⟨same, filedAfter, _⟩ := Classification.sortRecord_spec delimiter acc entry filed
        rw [List.foldl_cons]
        obtain ⟨same', filed'⟩ := ih _ filedAfter
        exact ⟨same'.trans same, filed'⟩
  obtain ⟨same, filed⟩ := sorted records.entries (Classification.declared records delimiter, [])
    declaredFiled
  simp only [classify, whole, List.map_map]
  rw [← declaredPaths, ← same]
  exact List.map_congr_left fun entry mem => filed entry mem

/-- Plain leaves come in the order of their keys. -/
theorem classify_leaves_sublist (records : Records) (delimiter : Delimiter) :
    (classify records delimiter).leaves.Sublist
      (records.entries.map fun entry => (Name.parse entry.1 delimiter, entry.2)) := by
  have sorted : ∀ (entries : List (String × RecordValue))
      (acc : List (Name × TypeDescriptor) × List (Name × RecordValue))
      (before : List (Name × RecordValue)), Classification.Filed acc.1 → acc.2.Sublist before →
      (entries.foldl (Classification.sortRecord delimiter) acc).2.Sublist
        (before ++ entries.map fun entry => (Name.parse entry.1 delimiter, entry.2)) := by
    intro entries
    induction entries with
    | nil => intro acc before _ within; simpa using within
    | cons entry rest ih =>
        intro acc before filed within
        obtain ⟨_, filedAfter, leaves⟩ :=
          Classification.sortRecord_spec delimiter acc entry filed
        rw [List.foldl_cons, List.map_cons, ← List.singleton_append, ← List.append_assoc]
        apply ih _ _ filedAfter
        rcases leaves with same | added
        · rw [same]
          exact within.trans (List.sublist_append_left _ _)
        · rw [added]
          exact within.append (List.Sublist.refl _)
  unfold classify
  split
  · exact List.nil_sublist _
  · simpa using sorted records.entries (Classification.declared records delimiter, []) []
      (Classification.declared_spec records delimiter).2 (List.nil_sublist _)

end NamingDirectory
