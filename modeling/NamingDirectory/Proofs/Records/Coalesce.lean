import Mathlib
import NamingDirectory.Records

/-!
Records as the ordered multimap of their insertions (`ofList_is_ordered_multimap`).
-/

namespace NamingDirectory

/-- A value joins a list without repeats at its end, unless it is there already. -/
theorem eraseDups_concat {α : Type} [BEq α] [LawfulBEq α] (xs : List α) (x : α) :
    (xs ++ [x]).eraseDups = if x ∈ xs then xs.eraseDups else xs.eraseDups ++ [x] := by
  rw [List.eraseDups_append]
  by_cases present : x ∈ xs
  · simp [List.removeAll, present]
  · simp [List.removeAll, present, List.eraseDups_cons]

theorem eraseDups_nodup {α : Type} [BEq α] [LawfulBEq α] (xs : List α) : xs.eraseDups.Nodup := by
  match xs with
  | [] => exact List.nodup_nil
  | x :: rest =>
    rw [List.eraseDups_cons, List.nodup_cons]
    refine ⟨fun mem => ?_, eraseDups_nodup _⟩
    simpa using List.mem_eraseDups.mp mem
termination_by xs.length
decreasing_by exact Nat.lt_succ_of_le (List.length_filter_le _ _)

/-- Dropping repeats commutes with keeping the members that pass a test. -/
theorem eraseDups_filter {α : Type} [BEq α] [LawfulBEq α] (p : α → Bool) (xs : List α) :
    (xs.filter p).eraseDups = xs.eraseDups.filter p := by
  match xs with
  | [] => rfl
  | x :: rest =>
    have shorter := eraseDups_filter p (rest.filter fun y => !y == x)
    rw [List.eraseDups_cons]
    by_cases keep : p x
    · rw [List.filter_cons_of_pos keep, List.eraseDups_cons, List.filter_cons_of_pos keep,
        List.filter_comm, shorter]
    · rw [List.filter_cons_of_neg keep, List.filter_cons_of_neg keep, ← shorter]
      congr 1
      rw [List.filter_filter]
      refine List.filter_congr fun y _ => ?_
      by_cases same : y = x
      · simp [same, keep]
      · simp [same]
termination_by xs.length
decreasing_by exact Nat.lt_succ_of_le (List.length_filter_le _ _)

/-- The first member equal to a value is the value itself, when it is there. -/
theorem find?_beq_eq {α : Type} [BEq α] [LawfulBEq α] (xs : List α) (x : α) :
    xs.find? (· == x) = if x ∈ xs then some x else none := by
  by_cases present : x ∈ xs
  · obtain ⟨y, found⟩ : ∃ y, xs.find? (· == x) = some y :=
      Option.isSome_iff_exists.mp (List.find?_isSome.mpr ⟨x, present, by simp⟩)
    have same : y = x := by simpa using List.find?_some found
    rw [found, same, if_pos present]
  · rw [if_neg present, List.find?_eq_none]
    intro y mem same
    exact present (beq_iff_eq.mp same ▸ mem)

namespace RecordValue

/-- The value of a key with these texts: one text alone, or the list of them. -/
def ofTexts : List String → RecordValue
  | [text] => .single text
  | texts => .multi texts

@[simp] theorem values_ofTexts (texts : List String) : (ofTexts texts).values = texts := by
  match texts with
  | [_] => rfl
  | [] | _ :: _ :: _ => rfl

theorem push_ofTexts {texts : List String} (some : texts ≠ []) (text : String) :
    (ofTexts texts).push text = ofTexts (texts ++ [text]) := by
  match texts, some with
  | [_], _ => rfl
  | _ :: _ :: _, _ => rfl

/-- Texts make a list only when there are two of them at least. -/
theorem two_le_of_ofTexts_eq_multi {texts listed : List String} (some : texts ≠ [])
    (made : ofTexts texts = .multi listed) : 2 ≤ listed.length := by
  match texts, some, made with
  | [_], _, made => cases made
  | _ :: _ :: _, _, made =>
    cases made
    simp

end RecordValue

namespace Records

/-- The keys of pairs, each once, in the order of their first pair. -/
def firstKeys (pairs : List (String × String)) : List String := (pairs.map Prod.fst).eraseDups

/-- The texts paired with a key, in order. -/
def textsOf (pairs : List (String × String)) (key : String) : List String :=
  (pairs.filter (·.1 == key)).map Prod.snd

theorem firstKeys_nodup (pairs : List (String × String)) : (firstKeys pairs).Nodup :=
  eraseDups_nodup _

theorem mem_firstKeys {pairs : List (String × String)} {key : String} :
    key ∈ firstKeys pairs ↔ textsOf pairs key ≠ [] := by
  simp [firstKeys, textsOf, List.mem_eraseDups, List.filter_eq_nil_iff]

@[simp] theorem textsOf_append (first second : List (String × String)) (key : String) :
    textsOf (first ++ second) key = textsOf first key ++ textsOf second key := by
  simp [textsOf]

/-- A later list of pairs adds to the first keys only the keys the earlier one lacks. -/
theorem firstKeys_append (first second : List (String × String)) :
    firstKeys (first ++ second) =
      firstKeys first ++ (firstKeys second).removeAll (first.map Prod.fst) := by
  rw [firstKeys, List.map_append, List.eraseDups_append, List.removeAll, eraseDups_filter]
  rfl

theorem firstKeys_concat (pairs : List (String × String)) (key text : String) :
    firstKeys (pairs ++ [(key, text)]) =
      if key ∈ firstKeys pairs then firstKeys pairs else firstKeys pairs ++ [key] := by
  simp only [firstKeys, List.map_append, List.map_cons, List.map_nil, eraseDups_concat,
    List.mem_eraseDups]

/-- Inserting under a present key of distinct keys appends to its texts in place. -/
theorem insertEntries_of_mem {keys : List String} (distinct : keys.Nodup) {key : String}
    (present : key ∈ keys) (valueOf : String → RecordValue) (text : String) :
    insertEntries key text (keys.map fun k => (k, valueOf k)) =
      keys.map fun k => (k, if k = key then (valueOf k).push text else valueOf k) := by
  induction keys with
  | nil => simp at present
  | cons k rest ih =>
    obtain ⟨fresh, distinct⟩ := List.nodup_cons.mp distinct
    by_cases here : k = key
    · subst here
      have untouched : ∀ k' ∈ rest, k' ≠ k := fun k' mem same => fresh (same ▸ mem)
      simp only [List.map_cons, insertEntries, beq_self_eq_true, ↓reduceIte, List.cons.injEq,
        true_and]
      exact List.map_congr_left fun k' mem => by simp [untouched k' mem]
    · have later : key ∈ rest := by simpa [Ne.symm here] using present
      simp [insertEntries, here, ih distinct later]

/-- Inserting under an absent key adds it last with a single text. -/
theorem insertEntries_of_not_mem {keys : List String} {key : String} (absent : key ∉ keys)
    (valueOf : String → RecordValue) (text : String) :
    insertEntries key text (keys.map fun k => (k, valueOf k)) =
      keys.map (fun k => (k, valueOf k)) ++ [(key, .single text)] := by
  induction keys with
  | nil => rfl
  | cons k rest ih =>
    have other : k ≠ key := fun same => absent (same ▸ List.mem_cons_self)
    simp [insertEntries, other, ih (fun mem => absent (List.mem_cons_of_mem _ mem))]

theorem ofList_append (first second : List (String × String)) :
    ofList (first ++ second) = (ofList first).insertAll second := by
  simp [ofList, insertAll]

/-- Records of a pair list: each key once, in the order of its first pair, with its texts. -/
theorem entries_ofList (pairs : List (String × String)) :
    (ofList pairs).entries =
      (firstKeys pairs).map fun key => (key, RecordValue.ofTexts (textsOf pairs key)) := by
  induction pairs using List.reverseRecOn with
  | nil => rfl
  | append_singleton init pair ih =>
    obtain ⟨key, text⟩ := pair
    have inserted : ofList (init ++ [(key, text)]) = (ofList init).insert key text := by
      simp [ofList_append, insertAll]
    have textsAfter : ∀ k, textsOf (init ++ [(key, text)]) k =
        textsOf init k ++ (if key = k then [text] else []) := by
      intro k
      by_cases same : key = k <;> simp [textsOf, same]
    rw [inserted, insert, ih, firstKeys_concat]
    dsimp only
    by_cases present : key ∈ firstKeys init
    · rw [insertEntries_of_mem (firstKeys_nodup init) present, if_pos present]
      refine List.map_congr_left fun k _ => ?_
      by_cases same : k = key
      · subst same
        rw [if_pos rfl, textsAfter, if_pos rfl,
          RecordValue.push_ofTexts (mem_firstKeys.mp present)]
      · simp [textsAfter, same, Ne.symm same]
    · rw [insertEntries_of_not_mem present, if_neg present, List.map_append]
      have before : textsOf init key = [] := by simpa [mem_firstKeys] using present
      congr 1
      · refine List.map_congr_left fun k mem => ?_
        have other : key ≠ k := fun same => present (same ▸ mem)
        simp [textsAfter, other]
      · simp [textsAfter, before, RecordValue.ofTexts]

/-- Two pair lists with the same first keys and the same texts per key give the same records. -/
theorem ofList_eq_of_same_texts {pairs others : List (String × String)}
    (keys : firstKeys pairs = firstKeys others) (texts : ∀ key, textsOf pairs key = textsOf others key) :
    ofList pairs = ofList others := by
  have entries := entries_ofList pairs
  rw [keys, funext texts, ← entries_ofList others] at entries
  cases h : ofList pairs
  cases h' : ofList others
  simp_all

theorem get?_ofList (pairs : List (String × String)) (key : String) :
    (ofList pairs).get? key =
      if key ∈ firstKeys pairs then some (RecordValue.ofTexts (textsOf pairs key)) else none := by
  rw [get?, entries_ofList, List.find?_map, Option.map_map]
  have search := find?_beq_eq (firstKeys pairs) key
  by_cases present : key ∈ firstKeys pairs
  · simp only [present, if_true] at search
    simp [Function.comp_def, search, present]
  · simp only [present, if_false] at search
    simp [Function.comp_def, search, present]

theorem keys_ofList (pairs : List (String × String)) : (ofList pairs).keys = firstKeys pairs := by
  simp [keys, entries_ofList, Function.comp_def]

/-- A key of records built from pairs holds its one text, or the list of its texts. -/
theorem get?_ofList_of_texts (pairs : List (String × String)) (key : String) :
    (ofList pairs).get? key =
      match textsOf pairs key with
      | [] => none
      | [text] => some (.single text)
      | texts => some (.multi texts) := by
  rw [get?_ofList]
  match texts : textsOf pairs key with
  | [] => simp [mem_firstKeys, texts]
  | [text] => simp [mem_firstKeys, texts, RecordValue.ofTexts]
  | _ :: _ :: _ => simp [mem_firstKeys, texts, RecordValue.ofTexts]

/-- The texts under a key in order, none when the key is absent. -/
def valuesAt (records : Records) (key : String) : List String :=
  ((records.get? key).map RecordValue.values).getD []

/-- Records built from pairs hold under each key exactly the texts paired with it. -/
theorem valuesAt_ofList (pairs : List (String × String)) (key : String) :
    (ofList pairs).valuesAt key = textsOf pairs key := by
  rw [valuesAt, get?_ofList]
  split
  · simp
  · next absent => simpa [mem_firstKeys] using absent

/-- A list of texts in records built from pairs has two texts at least. -/
theorem two_le_of_get?_ofList {pairs : List (String × String)} {key : String}
    {texts : List String} (found : (ofList pairs).get? key = some (.multi texts)) :
    2 ≤ texts.length := by
  rw [get?_ofList] at found
  split at found
  · next present =>
    exact RecordValue.two_le_of_ofTexts_eq_multi (mem_firstKeys.mp present) (Option.some.inj found)
  · cases found

/-- The pairs of records built from a pair list are its pairs grouped by key. -/
theorem toPairs_ofList (pairs : List (String × String)) :
    (ofList pairs).toPairs =
      (firstKeys pairs).flatMap fun key => (textsOf pairs key).map (key, ·) := by
  simp [toPairs, entries_ofList, List.flatMap_map]

/-- Grouping a pair list by distinct keys keeps the texts of each key. -/
theorem textsOf_grouped {keys : List String} (distinct : keys.Nodup)
    (textsAt : String → List String) (key : String) :
    textsOf (keys.flatMap fun k => (textsAt k).map (k, ·)) key =
      if key ∈ keys then textsAt key else [] := by
  induction keys with
  | nil => simp [textsOf]
  | cons k rest ih =>
    obtain ⟨fresh, distinct⟩ := List.nodup_cons.mp distinct
    have own : textsOf ((textsAt k).map (k, ·)) key = if k = key then textsAt k else [] := by
      by_cases same : k = key
      · subst same
        simp [textsOf, List.filter_map, Function.comp_def]
      · simp [textsOf, same]
    rw [List.flatMap_cons, textsOf_append, own, ih distinct]
    by_cases same : k = key
    · subst same
      simp [fresh]
    · simp [same, Ne.symm same]

/-- Grouping a pair list by distinct keys, each with some text, keeps the keys in order. -/
theorem firstKeys_grouped {keys : List String} (distinct : keys.Nodup)
    (textsAt : String → List String) (some : ∀ k ∈ keys, textsAt k ≠ []) :
    firstKeys (keys.flatMap fun k => (textsAt k).map (k, ·)) = keys := by
  induction keys with
  | nil => rfl
  | cons k rest ih =>
    obtain ⟨fresh, distinct⟩ := List.nodup_cons.mp distinct
    obtain ⟨text, more, split⟩ := List.ne_nil_iff_exists_cons.mp (some k List.mem_cons_self)
    have own : firstKeys ((textsAt k).map (k, ·)) = [k] := by
      simp [firstKeys, split, List.eraseDups_cons, Function.comp_def]
    rw [List.flatMap_cons, firstKeys_append, own,
      ih distinct fun k' mem => some k' (List.mem_cons_of_mem _ mem)]
    have kept : rest.removeAll ((textsAt k).map (k, ·) |>.map Prod.fst) = rest := by
      refine List.filter_eq_self.mpr fun k' mem => ?_
      have other : k' ≠ k := fun same => fresh (same ▸ mem)
      simp [Function.comp_def, other]
    rw [kept, List.singleton_append]

/-- Extending records by others is inserting the pairs of both lists in turn. -/
theorem extend_ofList (first second : List (String × String)) :
    (ofList first).extend (ofList second) = ofList (first ++ second) := by
  have grouped : ∀ k ∈ firstKeys second, textsOf second k ≠ [] := fun _ => mem_firstKeys.mp
  rw [extend, ← ofList_append, toPairs_ofList]
  apply ofList_eq_of_same_texts
  · rw [firstKeys_append, firstKeys_append,
      firstKeys_grouped (firstKeys_nodup second) _ grouped]
  · intro key
    rw [textsOf_append, textsOf_append, textsOf_grouped (firstKeys_nodup second)]
    by_cases present : key ∈ firstKeys second
    · rw [if_pos present]
    · have none : textsOf second key = [] := by simpa [mem_firstKeys] using present
      rw [if_neg present, none]

/-- Records built from pairs are their ordered multimap, a list only for two texts or more, and
extending records inserts the two pair lists one after the other. -/
theorem ofList_is_ordered_multimap (pairs more : List (String × String)) :
    (ofList pairs).keys = (pairs.map Prod.fst).eraseDups ∧
    (∀ key, (ofList pairs).get? key =
      match textsOf pairs key with
      | [] => none
      | [text] => some (.single text)
      | texts => some (.multi texts)) ∧
    (∀ key texts, (ofList pairs).get? key = some (.multi texts) → 2 ≤ texts.length) ∧
    (ofList pairs).extend (ofList more) = ofList (pairs ++ more) :=
  ⟨keys_ofList pairs, get?_ofList_of_texts pairs, fun _ _ found => two_le_of_get?_ofList found,
    extend_ofList pairs more⟩

end Records

end NamingDirectory
