import Mathlib
import NamingDirectory.Proofs.Loading.Steps
import NamingDirectory.Proofs.Path.RoundTrip
import NamingDirectory.Proofs.Tree.ClosedNode

/-!
Each key of a classified record set fills one role (`Records.roleOf`) unless two keys are cut
into one name (`classify_places_every_key`).
-/

namespace NamingDirectory

/-- The role a key fills in a record set where no key is the type key alone. -/
inductive KeyRole where
  /-- The type key of the entry at a path. -/
  | declares (path : Name)
  /-- The raw text of the entry at a path. -/
  | raw (path : Name)
  /-- The converter of the entry at a path. -/
  | chooses (path : Name)
  /-- An attribute of the entry at a path. -/
  | attributeOf (path : Name) (name : String)
  /-- A plain leaf. -/
  | leaf
  deriving DecidableEq

/-- The name of the one key that can fill a role; leaves have no such name. -/
def KeyRole.keyName? : KeyRole → Option Name
  | .declares path => some (path.child typeKey)
  | .raw path => some path
  | .chooses path => some (path.child converterKey)
  | .attributeOf path name => some (path.child name)
  | .leaf => none

/-- The path of the entry whose part a role fills; a leaf belongs to no entry. -/
def KeyRole.path? : KeyRole → Option Name
  | .declares path | .raw path | .chooses path | .attributeOf path _ => some path
  | .leaf => none

/-- A classification holds a value in a role: in the descriptor at the role's path, or as a leaf. -/
def Classification.Fills (sorted : Classification) (name : Name) (value : RecordValue) :
    KeyRole → Prop
  | .declares path => ∃ d ∈ sorted.descriptors, d.path = path ∧ d.typeName = value.first
  | .raw path => ∃ d ∈ sorted.descriptors, d.path = path ∧ d.value = some value
  | .chooses path => ∃ d ∈ sorted.descriptors, d.path = path ∧ d.converter = some value.first
  | .attributeOf path field =>
    ∃ d ∈ sorted.descriptors, d.path = path ∧ d.attributes.get? field = some value
  | .leaf => (name, value) ∈ sorted.leaves

/-- A name with a last segment is that segment below its parent. -/
theorem Name.eq_child_of_last? {name : Name} {segment : String} (last : name.last? = some segment) :
    name = name.parent.child segment := by
  obtain ⟨segments⟩ := name
  simpa [Name.child] using Name.segments_of_last? last

namespace Records

variable (records : Records) (delimiter : Delimiter)

/-- A key declares a path, gives a declared path's raw text, converter or attribute, or is a leaf. -/
def roleOf (key : String) : KeyRole :=
  match typedPath? delimiter key with
  | some path => .declares path
  | none =>
    let name := Name.parse key delimiter
    if name ∈ records.typedPaths delimiter then .raw name
    else
      match name.last? with
      | some last =>
        if name.length > 1 ∧ name.parent ∈ records.typedPaths delimiter then
          if last = converterKey then .chooses name.parent else .attributeOf name.parent last
        else .leaf
      | none => .leaf

/-- The text of the first of some records that fills a role. -/
def fillingIn (seen : List (String × RecordValue)) (role : KeyRole) : Option RecordValue :=
  (seen.find? fun entry => records.roleOf delimiter entry.1 = role).map (·.2)

/-- The attributes of a path that some records fill, each under its name, in order. -/
def attributesIn (seen : List (String × RecordValue)) (path : Name) :
    List (String × RecordValue) :=
  seen.filterMap fun entry =>
    match records.roleOf delimiter entry.1 with
    | .attributeOf p name => if p = path then some (name, entry.2) else none
    | _ => none

/-- The entry at a declared path as some records fill its roles. -/
def gatheredFrom (seen : List (String × RecordValue)) (path : Name) : TypeDescriptor where
  path := path
  typeName :=
    ((records.fillingIn delimiter records.entries (.declares path)).map RecordValue.first).getD ""
  converter := (records.fillingIn delimiter seen (.chooses path)).map RecordValue.first
  value := records.fillingIn delimiter seen (.raw path)
  attributes := ⟨records.attributesIn delimiter seen path⟩

/-- The plain leaves among some records, cut into names, in order. -/
def leavesIn (seen : List (String × RecordValue)) : List (Name × RecordValue) :=
  seen.filterMap fun entry =>
    if records.roleOf delimiter entry.1 = .leaf then some (Name.parse entry.1 delimiter, entry.2)
    else none

/-- The descriptor of a whole record set: every other key, uncut, as an attribute, and the converter. -/
def wholeFrom (typeName : String) : TypeDescriptor where
  path := Name.empty
  typeName := typeName
  converter := (records.get? converterKey).map RecordValue.first
  attributes := ⟨records.entries.filter fun entry => entry.1 ≠ typeKey ∧ entry.1 ≠ converterKey⟩

/-- A table with one descriptor for each declared path, in order. -/
def tableOf (describe : Name → TypeDescriptor) : List (Name × TypeDescriptor) :=
  (records.typedPaths delimiter).map fun path => (path, describe path)

variable {records delimiter}

/-- A key that fills a role other than a leaf's is the key of that role's name. -/
theorem keyName?_roleOf (key : String) :
    (records.roleOf delimiter key).keyName? = none ∨
      (records.roleOf delimiter key).keyName? = some (Name.parse key delimiter) := by
  unfold roleOf
  split
  · next path typed =>
    simp only [typedPath?] at typed
    split at typed
    · next declares =>
      cases typed
      simp only [Bool.and_eq_true, beq_iff_eq] at declares
      simp [KeyRole.keyName?, ← Name.eq_child_of_last? declares.1]
    · cases typed
  · dsimp only
    split
    · simp [KeyRole.keyName?]
    · split
      · next last lastIs =>
        split
        · split
          · next converter =>
            subst converter
            simp [KeyRole.keyName?, ← Name.eq_child_of_last? lastIs]
          · simp [KeyRole.keyName?, ← Name.eq_child_of_last? lastIs]
        · simp [KeyRole.keyName?]
      · simp [KeyRole.keyName?]

/-- Keys that are cut into distinct names fill distinct roles, leaves apart. -/
theorem eq_of_roleOf_eq {seen : List (String × RecordValue)}
    (distinct : (seen.map fun entry => Name.parse entry.1 delimiter).Nodup)
    {entry other : String × RecordValue} (mem : entry ∈ seen) (otherMem : other ∈ seen)
    (same : records.roleOf delimiter other.1 = records.roleOf delimiter entry.1)
    (notLeaf : records.roleOf delimiter entry.1 ≠ .leaf) : other = entry := by
  have named : ∀ role : KeyRole, role ≠ .leaf → role.keyName? ≠ none := by
    intro role notLeaf
    cases role <;> simp_all [KeyRole.keyName?]
  have nameOf := (keyName?_roleOf entry.1).resolve_left (named _ notLeaf)
  have otherName : (records.roleOf delimiter other.1).keyName? = some (Name.parse other.1 delimiter) :=
    (keyName?_roleOf other.1).resolve_left (same ▸ named _ notLeaf)
  rw [same, nameOf, Option.some.injEq] at otherName
  exact List.inj_on_of_nodup_map distinct otherMem mem otherName.symm

/-- Among keys cut into distinct names, a role other than a leaf is filled by that key's text. -/
theorem fillingIn_roleOf {seen : List (String × RecordValue)}
    (distinct : (seen.map fun entry => Name.parse entry.1 delimiter).Nodup)
    {entry : String × RecordValue} (mem : entry ∈ seen)
    (notLeaf : records.roleOf delimiter entry.1 ≠ .leaf) :
    records.fillingIn delimiter seen (records.roleOf delimiter entry.1) = some entry.2 := by
  obtain ⟨first, found⟩ : ∃ first, (seen.find? fun e =>
      records.roleOf delimiter e.1 = records.roleOf delimiter entry.1) = some first :=
    Option.isSome_iff_exists.mp (List.find?_isSome.mpr ⟨entry, mem, by simp⟩)
  have same : records.roleOf delimiter first.1 = records.roleOf delimiter entry.1 := by
    simpa using List.find?_some found
  rw [fillingIn, found, eq_of_roleOf_eq distinct mem (List.mem_of_find?_eq_some found) same notLeaf]
  rfl

/-- Searching a table of the declared paths finds the descriptor of a declared path. -/
theorem find?_tableOf (describe : Name → TypeDescriptor) (path : Name) :
    Classification.find? (records.tableOf delimiter describe) path =
      if path ∈ records.typedPaths delimiter then some (describe path) else none := by
  rw [Classification.find?, tableOf, List.find?_map]
  have search := find?_beq_eq (records.typedPaths delimiter) path
  by_cases declared : path ∈ records.typedPaths delimiter
  · simp only [declared, if_true] at search ⊢
    simp [search]
  · simp only [declared, if_false] at search ⊢
    simp [search]

/-- Filing a descriptor under a path of a table with distinct paths replaces it in place. -/
theorem put_map {paths : List Name} (distinct : paths.Nodup) {path : Name} (mem : path ∈ paths)
    (describe : Name → TypeDescriptor) (d : TypeDescriptor) :
    Classification.put (paths.map fun p => (p, describe p)) path d =
      paths.map fun p => (p, Function.update describe path d p) := by
  induction paths with
  | nil => simp at mem
  | cons p rest ih =>
    obtain ⟨fresh, distinct⟩ := List.nodup_cons.mp distinct
    by_cases here : p = path
    · subst here
      have untouched : ∀ q ∈ rest, Function.update describe p d q = describe q :=
        fun q mem => Function.update_of_ne (fun same : q = p => fresh (same ▸ mem)) _ _
      simp only [List.map_cons, Classification.put, beq_self_eq_true, ↓reduceIte,
        Function.update_self, List.cons.injEq, true_and]
      exact (List.map_congr_left fun q mem => by rw [untouched q mem]).symm
    · have later : path ∈ rest := by simpa [Ne.symm here] using mem
      simp [Classification.put, here, ih distinct later]

theorem put_tableOf (describe : Name → TypeDescriptor) {path : Name}
    (declared : path ∈ records.typedPaths delimiter) (d : TypeDescriptor) :
    Classification.put (records.tableOf delimiter describe) path d =
      records.tableOf delimiter (Function.update describe path d) :=
  put_map (eraseDups_nodup _) declared describe d

/-- Sorting one record follows its role: into the descriptor of its path, or the leaves. -/
theorem sortRecord_by_role (describe : Name → TypeDescriptor) (leaves : List (Name × RecordValue))
    (key : String) (value : RecordValue) :
    Classification.sortRecord delimiter (records.tableOf delimiter describe, leaves) (key, value) =
      match records.roleOf delimiter key with
      | .declares _ => (records.tableOf delimiter describe, leaves)
      | .raw path =>
        (records.tableOf delimiter
          (Function.update describe path { describe path with value := some value }), leaves)
      | .chooses path =>
        (records.tableOf delimiter
          (Function.update describe path { describe path with converter := some value.first }),
          leaves)
      | .attributeOf path name =>
        (records.tableOf delimiter (Function.update describe path
          { describe path with attributes := (describe path).attributes.insert name value }),
          leaves)
      | .leaf => (records.tableOf delimiter describe, leaves ++ [(Name.parse key delimiter, value)]) := by
  unfold Classification.sortRecord roleOf typedPath?
  dsimp only
  by_cases typed : (Name.parse key delimiter).last? = some typeKey ∧
      (Name.parse key delimiter).length > 1
  · simp [typed]
  · have notTyped : ((Name.parse key delimiter).last? == some typeKey &&
        decide ((Name.parse key delimiter).length > 1)) = false := by
      simpa using typed
    have notTyped' : (decide ((Name.parse key delimiter).length > 1) &&
        (Name.parse key delimiter).last? == some typeKey) = false := by
      rw [Bool.and_comm]
      exact notTyped
    simp only [notTyped, notTyped', Bool.false_eq_true, ↓reduceIte, find?_tableOf]
    by_cases declared : Name.parse key delimiter ∈ records.typedPaths delimiter
    · simp only [declared, ↓reduceIte, put_tableOf _ declared]
    · simp only [declared, ↓reduceIte]
      cases lastIs : (Name.parse key delimiter).last? with
      | none =>
        split <;> simp_all
      | some last =>
        by_cases below : (Name.parse key delimiter).length > 1 ∧
            (Name.parse key delimiter).parent ∈ records.typedPaths delimiter
        · simp only [below, and_self, ↓reduceIte, put_tableOf _ below.2, TypeDescriptor.absorb]
          by_cases converter : last = converterKey
          · simp [converter]
          · simp [converter]
        · simp only [below, ↓reduceIte]
          by_cases longer : (Name.parse key delimiter).length > 1
          · simp_all
          · simp [longer]

theorem fillingIn_concat (seen : List (String × RecordValue)) (key : String) (value : RecordValue)
    (role : KeyRole) :
    records.fillingIn delimiter (seen ++ [(key, value)]) role =
      (records.fillingIn delimiter seen role).or
        (if records.roleOf delimiter key = role then some value else none) := by
  unfold fillingIn
  rw [List.find?_append]
  cases seen.find? (fun entry => records.roleOf delimiter entry.1 = role) with
  | none => by_cases same : records.roleOf delimiter key = role <;> simp [same]
  | some entry => simp

theorem fillingIn_eq_none {seen : List (String × RecordValue)} {role : KeyRole}
    (unfilled : ∀ entry ∈ seen, records.roleOf delimiter entry.1 ≠ role) :
    records.fillingIn delimiter seen role = none := by
  simpa [fillingIn] using unfilled

/-- An attribute gathered for a path comes from a record that fills that attribute. -/
theorem roleOf_of_mem_attributesIn {seen : List (String × RecordValue)} {path : Name}
    {name : String} {value : RecordValue}
    (mem : (name, value) ∈ records.attributesIn delimiter seen path) :
    ∃ entry ∈ seen, records.roleOf delimiter entry.1 = .attributeOf path name := by
  obtain ⟨entry, listed, made⟩ := List.mem_filterMap.mp mem
  refine ⟨entry, listed, ?_⟩
  split at made
  · next p other role =>
    split at made
    · next here =>
      cases made
      rw [role, here]
    · cases made
  · cases made

/-- The leaves after one more record: it joins them when it is a leaf. -/
theorem leavesIn_concat (seen : List (String × RecordValue)) (key : String) (value : RecordValue) :
    records.leavesIn delimiter (seen ++ [(key, value)]) =
      records.leavesIn delimiter seen ++
        if records.roleOf delimiter key = .leaf then [(Name.parse key delimiter, value)] else [] := by
  by_cases leaf : records.roleOf delimiter key = .leaf <;> simp [leavesIn, leaf]

/-- One more record changes the gathering only at the path of the entry whose part it fills. -/
theorem gatheredFrom_concat {seen : List (String × RecordValue)} {key : String}
    {value : RecordValue} {path : Name} (owner : (records.roleOf delimiter key).path? = some path) :
    records.gatheredFrom delimiter (seen ++ [(key, value)]) =
      Function.update (records.gatheredFrom delimiter seen) path
        (records.gatheredFrom delimiter (seen ++ [(key, value)]) path) := by
  funext q
  by_cases here : q = path
  · subst here
    rw [Function.update_self]
  · rw [Function.update_of_ne here]
    cases role : records.roleOf delimiter key <;>
      simp_all [KeyRole.path?, gatheredFrom, fillingIn_concat, attributesIn, Ne.symm here]

/-- A record that first fills its role fills it in the gathering and, sorted, in the table. -/
theorem sortRecord_step {seen : List (String × RecordValue)} {key : String} {value : RecordValue}
    (fresh : ∀ entry ∈ seen, records.roleOf delimiter entry.1 = records.roleOf delimiter key →
      records.roleOf delimiter key = .leaf) :
    Classification.sortRecord delimiter
        (records.tableOf delimiter (records.gatheredFrom delimiter seen),
          records.leavesIn delimiter seen) (key, value) =
      (records.tableOf delimiter (records.gatheredFrom delimiter (seen ++ [(key, value)])),
        records.leavesIn delimiter (seen ++ [(key, value)])) := by
  have unfilled : ∀ role, records.roleOf delimiter key = role → role ≠ .leaf →
      records.fillingIn delimiter seen role = none := by
    rintro role rfl notLeaf
    exact fillingIn_eq_none fun entry mem same => notLeaf (fresh entry mem same)
  rw [sortRecord_by_role, leavesIn_concat]
  cases role : records.roleOf delimiter key with
  | declares path =>
    have same : records.gatheredFrom delimiter (seen ++ [(key, value)]) =
        records.gatheredFrom delimiter seen := by
      funext q
      simp [gatheredFrom, fillingIn_concat, role, attributesIn]
    simp [same]
  | raw path =>
    have filled := unfilled _ role (by simp)
    rw [gatheredFrom_concat (by rw [role]; rfl)]
    simp [gatheredFrom, fillingIn_concat, role, attributesIn, filled]
  | chooses path =>
    have filled := unfilled _ role (by simp)
    rw [gatheredFrom_concat (by rw [role]; rfl)]
    simp [gatheredFrom, fillingIn_concat, role, attributesIn, filled]
  | attributeOf path name =>
    have absent : (records.gatheredFrom delimiter seen path).attributes.contains name = false := by
      simp only [gatheredFrom, OrderedMap.contains, List.any_eq_false, beq_iff_eq]
      rintro ⟨other, text⟩ mem same
      obtain ⟨entry, listed, filling⟩ := roleOf_of_mem_attributesIn mem
      rw [show other = name from same, ← role] at filling
      cases role ▸ fresh entry listed filling
    have inserted : (records.gatheredFrom delimiter seen path).attributes.insert name value =
        ⟨(records.gatheredFrom delimiter seen path).attributes.entries ++ [(name, value)]⟩ := by
      rw [← OrderedMap.entries_insert_of_not_contains _ _ value absent]
    dsimp only
    rw [gatheredFrom_concat (by rw [role]; rfl), inserted]
    simp [gatheredFrom, fillingIn_concat, role, attributesIn]
  | leaf =>
    have same : records.gatheredFrom delimiter (seen ++ [(key, value)]) =
        records.gatheredFrom delimiter seen := by
      funext q
      simp [gatheredFrom, fillingIn_concat, role, attributesIn]
    simp [same]

/-- Sorting the records after a gathered prefix gathers them all, no two being cut alike. -/
theorem foldl_sortRecord
    (distinct : (records.entries.map fun entry => Name.parse entry.1 delimiter).Nodup) :
    ∀ (rest seen : List (String × RecordValue)), seen ++ rest = records.entries →
      rest.foldl (Classification.sortRecord delimiter)
          (records.tableOf delimiter (records.gatheredFrom delimiter seen),
            records.leavesIn delimiter seen) =
        (records.tableOf delimiter (records.gatheredFrom delimiter records.entries),
          records.leavesIn delimiter records.entries)
  | [], seen, whole => by
    rw [List.append_nil] at whole
    rw [whole]
    rfl
  | (key, value) :: rest, seen, whole => by
    have fresh : ∀ entry ∈ seen, records.roleOf delimiter entry.1 = records.roleOf delimiter key →
        records.roleOf delimiter key = .leaf := by
      intro entry mem same
      by_contra notLeaf
      have listed : entry ∈ records.entries := whole ▸ List.mem_append_left _ mem
      have here : (key, value) ∈ records.entries :=
        whole ▸ List.mem_append_right _ List.mem_cons_self
      have equal : entry = (key, value) := eq_of_roleOf_eq distinct here listed same notLeaf
      rw [← whole, List.map_append, List.map_cons] at distinct
      exact List.disjoint_of_nodup_append distinct
        (List.mem_map_of_mem (f := fun entry => Name.parse entry.1 delimiter) (equal ▸ mem))
        List.mem_cons_self
    rw [List.foldl_cons, sortRecord_step fresh]
    exact foldl_sortRecord distinct rest (seen ++ [(key, value)]) (by simpa using whole)

theorem mem_put {table : List (Name × TypeDescriptor)} {path : Name} {d : TypeDescriptor}
    {entry : Name × TypeDescriptor} (mem : entry ∈ Classification.put table path d) :
    entry ∈ table ∨ entry = (path, d) := by
  induction table with
  | nil => simpa [Classification.put] using mem
  | cons first rest ih =>
    obtain ⟨p, old⟩ := first
    unfold Classification.put at mem
    split at mem
    · rcases List.mem_cons.mp mem with rfl | later
      · exact .inr (by simp_all)
      · exact .inl (List.mem_cons_of_mem _ later)
    · rcases List.mem_cons.mp mem with rfl | later
      · exact .inl List.mem_cons_self
      · exact (ih later).imp_left (List.mem_cons_of_mem _)

/-- A type key at the end files a fresh descriptor for its path. -/
theorem declared_concat (entries : List (String × RecordValue)) (key : String)
    (value : RecordValue) :
    Classification.declared ⟨entries ++ [(key, value)]⟩ delimiter =
      match typedPath? delimiter key with
      | some path => Classification.put (Classification.declared ⟨entries⟩ delimiter) path
          (TypeDescriptor.new path value.first)
      | none => Classification.declared ⟨entries⟩ delimiter := by
  simp only [Classification.declared, List.foldl_append, List.foldl_cons, List.foldl_nil,
    typedPath?]
  split <;> simp_all

/-- Every declared descriptor is the fresh descriptor of a type key of its path. -/
theorem declared_of_typeKey (entries : List (String × RecordValue)) :
    ∀ entry ∈ Classification.declared ⟨entries⟩ delimiter, ∃ typed ∈ entries,
      typedPath? delimiter typed.1 = some entry.1 ∧
        entry.2 = TypeDescriptor.new entry.1 typed.2.first := by
  induction entries using List.reverseRecOn with
  | nil => simp [Classification.declared]
  | append_singleton init last ih =>
    obtain ⟨key, value⟩ := last
    intro entry mem
    rw [declared_concat] at mem
    split at mem
    · next path typed =>
      rcases mem_put mem with earlier | rfl
      · obtain ⟨source, listed, declares, same⟩ := ih entry earlier
        exact ⟨source, List.mem_append_left _ listed, declares, same⟩
      · exact ⟨(key, value), List.mem_append_right _ List.mem_cons_self, typed, rfl⟩
    · obtain ⟨source, listed, declares, same⟩ := ih entry mem
      exact ⟨source, List.mem_append_left _ listed, declares, same⟩

/-- The declared descriptors are the gathering from no records. -/
theorem declared_eq_tableOf
    (distinct : (records.entries.map fun entry => Name.parse entry.1 delimiter).Nodup) :
    Classification.declared records delimiter =
      records.tableOf delimiter (records.gatheredFrom delimiter []) := by
  have described : ∀ entry ∈ Classification.declared records delimiter,
      entry.2 = records.gatheredFrom delimiter [] entry.1 := by
    intro entry mem
    obtain ⟨typed, listed, declares, same⟩ := declared_of_typeKey records.entries entry mem
    have role : records.roleOf delimiter typed.1 = .declares entry.1 := by
      simp [roleOf, declares]
    have filled : records.fillingIn delimiter records.entries (.declares entry.1) = some typed.2 :=
      role ▸ fillingIn_roleOf distinct listed (by simp [role])
    rw [same, gatheredFrom, filled]
    simp [TypeDescriptor.new, fillingIn, attributesIn, OrderedMap.empty]
  calc Classification.declared records delimiter
      = (Classification.declared records delimiter).map fun entry => (entry.1, entry.2) := by
        simp
    _ = (Classification.declared records delimiter).map
          fun entry => (entry.1, records.gatheredFrom delimiter [] entry.1) :=
        List.map_congr_left fun entry mem => by rw [described entry mem]
    _ = records.tableOf delimiter (records.gatheredFrom delimiter []) := by
        rw [tableOf, ← (Classification.declared_spec records delimiter).1, Classification.paths,
          List.map_map]
        rfl

/-- A literal or flat delimiter cuts distinct keys into distinct names. -/
theorem names_nodup_of_keys_nodup
    (notPattern : ∀ compiled separator, delimiter ≠ .pattern compiled separator)
    (keysDistinct : records.keys.Nodup) :
    (records.entries.map fun entry => Name.parse entry.1 delimiter).Nodup := by
  have names : (records.entries.map fun entry => Name.parse entry.1 delimiter) =
      records.keys.map fun key => Name.parse key delimiter := by
    simp [Records.keys, Function.comp_def]
  rw [names]
  exact keysDistinct.map (Name.parse_injective notPattern)

/-- With no whole-set key and no two keys cut alike, classifying gathers each declared path's entry. -/
theorem classify_eq_gathered
    (distinct : (records.entries.map fun entry => Name.parse entry.1 delimiter).Nodup)
    (untyped : ∀ entry ∈ records.entries, (Name.parse entry.1 delimiter).segments ≠ [typeKey]) :
    classify records delimiter =
      { leaves := records.leavesIn delimiter records.entries
        descriptors := (records.typedPaths delimiter).map
          (records.gatheredFrom delimiter records.entries) } := by
  have sorted := foldl_sortRecord distinct records.entries [] rfl
  rw [← declared_eq_tableOf distinct] at sorted
  simp only [classify, Loader.namespaceType?_eq_none untyped]
  rw [show records.leavesIn delimiter [] = [] from rfl] at sorted
  rw [sorted]
  simp [tableOf]

/-- A role that belongs to an entry belongs to a declared path. -/
theorem path?_roleOf_mem {entry : String × RecordValue} (mem : entry ∈ records.entries)
    {path : Name} (owned : (records.roleOf delimiter entry.1).path? = some path) :
    path ∈ records.typedPaths delimiter := by
  unfold roleOf at owned
  split at owned
  · next declared typed =>
    cases owned
    exact List.mem_eraseDups.mpr (List.mem_filterMap.mpr ⟨entry, mem, typed⟩)
  · dsimp only at owned
    split at owned
    · cases owned
      assumption
    · split at owned
      · split at owned
        · next below =>
          split at owned <;> (cases owned; exact below.2)
        · cases owned
      · cases owned

/-- The attributes records fill for a path are found by name as each is first filled. -/
theorem get?_attributesIn (seen : List (String × RecordValue)) (path : Name) (field : String) :
    (⟨records.attributesIn delimiter seen path⟩ : OrderedMap RecordValue).get? field =
      records.fillingIn delimiter seen (.attributeOf path field) := by
  induction seen with
  | nil => rfl
  | cons entry rest ih =>
    simp only [OrderedMap.get?, attributesIn, fillingIn] at ih ⊢
    by_cases here : records.roleOf delimiter entry.1 = .attributeOf path field
    · simp [here]
    have skipped : ¬decide (records.roleOf delimiter entry.1 = .attributeOf path field) = true := by
      simpa using here
    rw [@List.find?_cons_of_neg _ _ entry rest skipped, ← ih, List.filterMap_cons]
    cases role : records.roleOf delimiter entry.1 with
    | attributeOf p name =>
      by_cases samePath : p = path
      · have other : ¬(name == field) = true := by
          subst samePath
          simpa [role] using here
        simp only [samePath, ↓reduceIte]
        rw [@List.find?_cons_of_neg _ (fun e => e.1 == field) (name, entry.2) _ other]
      · simp [samePath]
    | _ => rfl

/-- With no whole-set key and no two keys cut alike, each key's value stands in its role. -/
theorem classify_fills_roleOf
    (distinct : (records.entries.map fun entry => Name.parse entry.1 delimiter).Nodup)
    (untyped : ∀ entry ∈ records.entries, (Name.parse entry.1 delimiter).segments ≠ [typeKey])
    {entry : String × RecordValue} (mem : entry ∈ records.entries) :
    (classify records delimiter).Fills (Name.parse entry.1 delimiter) entry.2
      (records.roleOf delimiter entry.1) := by
  rw [classify_eq_gathered distinct untyped]
  obtain ⟨role, assigned⟩ : ∃ role, records.roleOf delimiter entry.1 = role := ⟨_, rfl⟩
  have filled : role ≠ .leaf → records.fillingIn delimiter records.entries role = some entry.2 :=
    fun notLeaf => assigned ▸ fillingIn_roleOf distinct mem (assigned ▸ notLeaf)
  have gathered : ∀ path, role.path? = some path →
      records.gatheredFrom delimiter records.entries path ∈
        (records.typedPaths delimiter).map (records.gatheredFrom delimiter records.entries) :=
    fun path owned => List.mem_map_of_mem (path?_roleOf_mem mem (assigned ▸ owned))
  rw [assigned]
  cases role with
  | declares path =>
    exact ⟨_, gathered path rfl, rfl, by simp [gatheredFrom, filled]⟩
  | raw path => exact ⟨_, gathered path rfl, rfl, filled (by simp)⟩
  | chooses path => exact ⟨_, gathered path rfl, rfl, by simp [gatheredFrom, filled]⟩
  | attributeOf path field =>
    exact ⟨_, gathered path rfl, rfl, (get?_attributesIn _ path field).trans (filled (by simp))⟩
  | leaf => exact List.mem_filterMap.mpr ⟨entry, mem, by simp [assigned]⟩

/-- Absorbing records of distinct keys into a fresh whole-set descriptor gives the whole descriptor. -/
theorem foldl_absorb (step : TypeDescriptor → String × RecordValue → TypeDescriptor)
    (steps : ∀ d key value, step d (key, value) = if key == typeKey then d else d.absorb key value)
    (typeName : String) (entries : List (String × RecordValue))
    (distinct : (entries.map (·.1)).Nodup) :
    entries.foldl step (TypeDescriptor.new Name.empty typeName) =
      (⟨entries⟩ : Records).wholeFrom typeName := by
  induction entries using List.reverseRecOn with
  | nil => rfl
  | append_singleton init last ih =>
    obtain ⟨key, value⟩ := last
    rw [List.map_append, List.nodup_append] at distinct
    have fresh : ∀ entry ∈ init, entry.1 ≠ key := fun entry mem =>
      distinct.2.2 _ (List.mem_map_of_mem mem) _ List.mem_cons_self
    rw [List.foldl_append, List.foldl_cons, List.foldl_nil, ih distinct.1, steps]
    by_cases typed : key = typeKey
    · subst typed
      simp [wholeFrom, Records.get?, List.find?_append, typeKey, converterKey]
    · by_cases chosen : key = converterKey
      · subst chosen
        have unchosen : init.find? (·.1 == converterKey) = none :=
          List.find?_eq_none.mpr fun entry mem => by simpa using fresh entry mem
        simp [wholeFrom, TypeDescriptor.absorb, Records.get?, List.find?_append, unchosen, typed]
      · -- a new attribute goes after the others
        have absent : (OrderedMap.mk (init.filter fun entry =>
            entry.1 ≠ typeKey ∧ entry.1 ≠ converterKey)).contains key = false := by
          simpa [OrderedMap.contains] using fun name value mem _ _ => fresh (name, value) mem
        have inserted := OrderedMap.entries_insert_of_not_contains _ key value absent
        have kept : [(key, value)].filter (fun entry : String × RecordValue =>
            entry.1 ≠ typeKey ∧ entry.1 ≠ converterKey) = [(key, value)] := by
          simp [typed, chosen]
        have unchosen : [(key, value)].find? (·.1 == converterKey) = none := by simp [chosen]
        simp only [beq_iff_eq, typed, ↓reduceIte, TypeDescriptor.absorb, chosen]
        simp only [wholeFrom, Records.get?, List.find?_append, List.filter_append, kept, unchosen,
          Option.or_none, OrderedMap.insert, ← inserted]

/-- A record set in which some key is the type key alone has a type for the whole set. -/
theorem namespaceType?_isSome {entries : List (String × RecordValue)}
    (typed : ∃ entry ∈ entries, (Name.parse entry.1 delimiter).segments = [typeKey]) :
    ∃ typeName, Classification.namespaceType? ⟨entries⟩ delimiter = some typeName := by
  induction entries using List.reverseRecOn with
  | nil => simp at typed
  | append_singleton init last ih =>
    simp only [Classification.namespaceType?, List.foldl_append, List.foldl_cons,
      List.foldl_nil] at ih ⊢
    by_cases here : (Name.parse last.1 delimiter).segments = [typeKey]
    · exact ⟨last.2.first, by simp [here]⟩
    · obtain ⟨typeName, found⟩ := ih (by simpa [here] using typed)
      have skipped : ¬((Name.parse last.1 delimiter).segments == [typeKey]) = true := by
        simpa using here
      exact ⟨typeName, by rw [if_neg skipped]; exact found⟩

/-- Where a key is the type key alone, the record set is one descriptor holding every other key. -/
theorem classify_whole_set (distinct : records.keys.Nodup) {typeName : String}
    (found : Classification.namespaceType? records delimiter = some typeName) :
    classify records delimiter = { whole := some (records.wholeFrom typeName) } := by
  simp only [classify, found]
  rw [foldl_absorb _ (fun _ _ _ => rfl) typeName records.entries distinct]

/-- Classifying loses and duplicates nothing: with no whole-set key and no two keys cut alike each
key's value stands in its own role, and a whole-set key makes one descriptor of all. -/
theorem classify_places_every_key (records : Records) (delimiter : Delimiter) :
    ((records.entries.map fun entry => Name.parse entry.1 delimiter).Nodup →
      (∀ entry ∈ records.entries, (Name.parse entry.1 delimiter).segments ≠ [typeKey]) →
      (∀ entry ∈ records.entries, ∀ other ∈ records.entries,
        records.roleOf delimiter other.1 = records.roleOf delimiter entry.1 →
          records.roleOf delimiter entry.1 ≠ .leaf → other = entry) ∧
      classify records delimiter =
          { leaves := records.leavesIn delimiter records.entries
            descriptors := (records.typedPaths delimiter).map
              (records.gatheredFrom delimiter records.entries) } ∧
        ∀ entry ∈ records.entries, (classify records delimiter).Fills
          (Name.parse entry.1 delimiter) entry.2 (records.roleOf delimiter entry.1)) ∧
    (records.keys.Nodup →
      (∃ entry ∈ records.entries, (Name.parse entry.1 delimiter).segments = [typeKey]) →
      ∃ typeName, classify records delimiter = { whole := some (records.wholeFrom typeName) }) := by
  refine ⟨fun distinct untyped => ⟨?_, classify_eq_gathered distinct untyped,
    fun entry mem => classify_fills_roleOf distinct untyped mem⟩, fun distinct typed => ?_⟩
  · intro entry mem other otherMem same notLeaf
    exact eq_of_roleOf_eq distinct mem otherMem same notLeaf
  · obtain ⟨typeName, found⟩ := namespaceType?_isSome typed
    exact ⟨typeName, classify_whole_set distinct found⟩

/-- A typed entry with its raw text, converter and one attribute, beside a plain leaf. -/
def sampleTyped : Records :=
  ⟨[("a.type", .single "bean"), ("a", .single "raw"), ("a.converter", .single "upper"),
    ("a.x", .single "1"), ("b", .single "2")]⟩

/-- A whole record set typed by its bare type key. -/
def sampleWhole : Records :=
  ⟨[("type", .single "bean"), ("x", .single "1"), ("converter", .single "upper")]⟩

theorem sample_records_fill_their_roles :
    (∀ entry ∈ sampleTyped.entries, (classify sampleTyped .default).Fills
      (Name.parse entry.1 .default) entry.2 (sampleTyped.roleOf .default entry.1)) ∧
    ∃ typeName, classify sampleWhole .default =
      { whole := some (sampleWhole.wholeFrom typeName) } :=
  ⟨((classify_places_every_key sampleTyped .default).1 (by decide +kernel)
      (by decide +kernel)).2.2,
    (classify_places_every_key sampleWhole .default).2 (by decide +kernel) (by decide +kernel)⟩

/-- Two attribute keys of one entry, cut alike by a pattern that splits at `.` and at `/`. -/
def dotAndSlash : Records :=
  ⟨[("a.type", .single "bean"), ("a.x", .single "1"), ("a/x", .single "2")]⟩

/-- Under `[./]` the keys `a.x` and `a/x` are one attribute of `a`, the later text replacing the earlier. -/
theorem pattern_delimiter_overwrites_attribute :
    ∃ delimiter, Delimiter.parse "[./]" = .ok delimiter ∧
      (classify dotAndSlash delimiter).leaves = [] ∧
      (classify dotAndSlash delimiter).descriptors.map (fun d => (d.path, d.attributes.entries)) =
        [(⟨["a"]⟩, [("x", .single "2")])] := by
  -- Each part is evaluated on its own: the whole parse at once is several times slower.
  have evaluated : (match Pattern.Compiled.ofString "[./]" with
      | .ok c => Delimiter.splitsExactly c "." && c.split "a.type" == ["a", "type"] &&
          c.split "a.x" == ["a", "x"] && c.split "a/x" == ["a", "x"]
      | .error _ => false) = true := by
    cbv
  have separator : Delimiter.primarySeparator "[./]" = "." := by cbv
  cases compiled : Pattern.Compiled.ofString "[./]" with
  | error e =>
    rw [compiled] at evaluated
    cases evaluated
  | ok c =>
    rw [compiled] at evaluated
    obtain ⟨⟨⟨splitsAlone, typed⟩, dotted⟩, slashed⟩ :
        ((Delimiter.splitsExactly c "." = true ∧ c.split "a.type" = ["a", "type"]) ∧
          c.split "a.x" = ["a", "x"]) ∧ c.split "a/x" = ["a", "x"] := by
      simpa using evaluated
    have parsed := Delimiter.parse_pattern (by decide) (by decide) (by decide) compiled
      (by rw [separator]; decide) (by rw [separator]; exact splitsAlone)
    rw [separator] at parsed
    refine ⟨.pattern c ".", parsed, ?_⟩
    have cut : ∀ key, key.isEmpty = false → Name.parse key (.pattern c ".") = ⟨c.split key⟩ :=
      fun key filled => by simp [Name.parse, Delimiter.split, filled]
    simp [classify, dotAndSlash, Classification.namespaceType?, Classification.declared,
      Classification.sortRecord, cut _ (by decide : "a.type".isEmpty = false),
      cut _ (by decide : "a.x".isEmpty = false), cut _ (by decide : "a/x".isEmpty = false),
      typed, dotted, slashed, Classification.put, Classification.find?, Name.last?, Name.length,
      Name.parent, Name.take, TypeDescriptor.new, TypeDescriptor.absorb, typeKey, converterKey,
      OrderedMap.insert, OrderedMap.insertEntries, OrderedMap.empty]

end Records

end NamingDirectory
