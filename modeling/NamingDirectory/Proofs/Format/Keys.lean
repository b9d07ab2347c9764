import Mathlib
import NamingDirectory.Format.Read
import NamingDirectory.Proofs.Records.Coalesce

/-!
Which readers record the empty key: only YAML, when the document has a text at its top
(`read_empty_key_iff_text_at_top`).
-/

namespace NamingDirectory

theorem Records.mem_keys_insert (records : Records) (key text probe : String) :
    probe ∈ (records.insert key text).keys ↔ probe ∈ records.keys ∨ probe = key := by
  obtain ⟨entries⟩ := records
  simp only [insert, keys]
  induction entries with
  | nil => simp [insertEntries]
  | cons entry rest ih =>
    obtain ⟨k, v⟩ := entry
    by_cases same : k = key
    · subst same
      simp only [insertEntries, beq_self_eq_true, ↓reduceIte, List.map_cons, List.mem_cons]
      exact ⟨.inl, fun found => found.elim id .inl⟩
    · simp only [insertEntries, beq_iff_eq, same, ↓reduceIte, List.map_cons, List.mem_cons, ih]
      rw [or_assoc]

/-- Inserting under a key that is not empty keeps the empty key out. -/
theorem Records.empty_not_mem_keys_insert {records : Records} (absent : "" ∉ records.keys)
    {key : String} (filled : key ≠ "") (text : String) : "" ∉ (records.insert key text).keys := by
  rw [mem_keys_insert]
  rintro (present | same)
  · exact absent present
  · exact filled same.symm

/-- Two parts join into the empty key only when both are empty. -/
theorem Delimiter.eq_empty_of_join_pair {delimiter : Delimiter} {first second : String}
    (empty : delimiter.join [first, second] = "") : first = "" ∧ second = "" := by
  rw [join, String.intercalate_cons_cons, String.intercalate_singleton] at empty
  simp only [String.append_eq_empty_iff] at empty
  exact ⟨empty.1.1, empty.2⟩

namespace Properties

/-- A line gives an entry only for a key that is not empty. -/
theorem key_ne_of_entry? {line key value : String} (found : entry? line = some (key, value)) :
    key ≠ "" := by
  unfold entry? at found
  dsimp only at found
  split at found
  · cases found
  · split at found
    · cases found
    · next filled =>
      rw [← (Prod.mk.inj (Option.some.inj found)).1]
      exact fun empty => filled (String.isEmpty_iff.mpr empty)

theorem empty_not_mem_keys_read (content : String) : "" ∉ (read content).keys := by
  rw [read, Records.keys_ofList, Records.firstKeys, List.mem_eraseDups]
  simp only [List.mem_map, List.mem_filterMap, not_exists, not_and]
  rintro ⟨key, value⟩ ⟨line, -, found⟩ empty
  exact key_ne_of_entry? found empty

end Properties

namespace Ini

/-- Reading lines into records that lack the empty key gives records that lack it. -/
theorem empty_not_mem_keys_readLines {commentChar : Char} {delimiter : Delimiter}
    {lines : List (Nat × String)} :
    ∀ {block : Option String} {records result : Records},
      readLines commentChar delimiter block records lines = .ok result →
      "" ∉ records.keys → "" ∉ result.keys := by
  induction lines with
  | nil =>
    intro block records result read absent
    cases read
    exact absent
  | cons line rest ih =>
    intro block records result read absent
    obtain ⟨number, raw⟩ := line
    -- `eq_def` opens the definition without an equation per pattern of the line.
    rw [readLines.eq_def] at read
    dsimp only at read
    split at read
    · exact ih read absent
    · split at read
      · -- a block header: an error or a change of block
        split at read
        · cases read
        · exact ih read absent
      · -- a key line: skipped when the key is empty, else inserted under a key that is not
        split at read
        · exact ih read absent
        · next filled =>
          refine ih read (Records.empty_not_mem_keys_insert absent ?_ _)
          split
          · intro joined
            exact (String.isEmpty_eq_false_iff.mp (Bool.eq_false_iff.mpr filled))
              (Delimiter.eq_empty_of_join_pair joined).2
          · exact String.isEmpty_eq_false_iff.mp (Bool.eq_false_iff.mpr filled)

theorem empty_not_mem_keys_read {commentChar : Char} {content : String} {delimiter : Delimiter}
    {records : Records} (read : Ini.read commentChar content delimiter = .ok records) :
    "" ∉ records.keys :=
  empty_not_mem_keys_readLines read (by simp [Records.empty, Records.keys])

end Ini

namespace Xml

/-- The attributes of a start or empty tag have names that are not empty. -/
def Event.NamesFilled : Event → Prop
  | .start _ attributes => ∀ pair ∈ attributes, pair.1 ≠ []
  | .empty _ attributes => ∀ pair ∈ attributes, pair.1 ≠ []
  | _ => True

/-- Each attribute read is named from its first character that is not blank, so no name is empty. -/
theorem names_ne_nil_of_readAttributes :
    ∀ {fuel : Nat} {text : List Char} {seen : List (List Char)}
      {attributes : List (List Char × List Char)},
      readAttributes fuel text seen = some attributes → ∀ pair ∈ attributes, pair.1 ≠ []
  | 0, _, _, _, read => by
    cases read
    simp
  | fuel + 1, text, seen, attributes, read => by
    simp only [readAttributes] at read
    split at read
    · cases read
      simp
    · next first more _ =>
      obtain ⟨v, -, read⟩ := Option.bind_eq_some_iff.mp read
      split at read
      · cases read
      · split at read
        · split at read
          · split at read
            · cases read
            · obtain ⟨value, -, read⟩ := Option.bind_eq_some_iff.mp read
              obtain ⟨rest, later, rfl⟩ := Option.map_eq_some_iff.mp read
              intro pair mem
              rcases List.mem_cons.mp mem with rfl | mem
              · simp
              · exact names_ne_nil_of_readAttributes later pair mem
          · cases read
        · cases read

theorem namesFilled_of_tag {content : List Char} {event : Event} (read : tag content = some event) :
    event.NamesFilled := by
  unfold tag at read
  split at read
  · obtain ⟨attributes, found, rfl⟩ := Option.map_eq_some_iff.mp read
    exact names_ne_nil_of_readAttributes found
  · obtain ⟨attributes, found, rfl⟩ := Option.map_eq_some_iff.mp read
    exact names_ne_nil_of_readAttributes found

/-- What follows `<!` is skipped or is character data: it is never a tag. -/
theorem namesFilled_of_bang {chunk rest : List Char} {event : Event}
    (read : bang chunk = some (event, rest)) : event.NamesFilled := by
  unfold bang at read
  split at read <;>
    simp only [Option.bind_eq_bind, Option.bind_some, Option.bind_none, reduceCtorEq,
      Option.bind_eq_some_iff] at read
  all_goals
    obtain ⟨⟨buf, after⟩, -, read⟩ := read
    dsimp only at read
    split at read
    · cases read
      trivial
    · cases read

theorem namesFilled_of_markup {input rest : List Char} {event : Event}
    (read : markup input = some (some (event, rest))) : event.NamesFilled := by
  unfold markup at read
  split at read
  · cases read
  · obtain ⟨found, bang, same⟩ := Option.map_eq_some_iff.mp read
    cases same
    exact namesFilled_of_bang bang
  · cases read
    trivial
  · dsimp only at read
    split at read
    · cases read
      trivial
    · cases read
  · obtain ⟨⟨content, after⟩, -, read⟩ := Option.bind_eq_some_iff.mp read
    obtain ⟨e, tagged, same⟩ := Option.map_eq_some_iff.mp read
    cases same
    exact namesFilled_of_tag tagged

theorem namesFilled_of_next {input rest : List Char} {event : Event}
    (read : next input = some (some (event, rest))) : event.NamesFilled := by
  unfold next at read
  split at read
  · cases read
  · exact namesFilled_of_markup read
  · obtain ⟨text, -, same⟩ := Option.map_eq_some_iff.mp read
    cases same
    trivial

theorem empty_not_mem_keys_recordText {delimiter : Delimiter} {opened : List String}
    {records : Records} (absent : "" ∉ records.keys) (text : List Char) :
    "" ∉ (recordText delimiter opened records text).keys := by
  unfold recordText
  dsimp only
  split
  · exact absent
  · next filled =>
    simp only [Bool.or_eq_true, not_or] at filled
    exact Records.empty_not_mem_keys_insert absent
      (fun empty => filled.2 (String.isEmpty_iff.mpr empty)) _

/-- Attributes with names record under keys that are not empty. -/
theorem empty_not_mem_keys_recordAttributes {delimiter : Delimiter} {opened : List String}
    {attributes : List (List Char × List Char)} (named : ∀ pair ∈ attributes, pair.1 ≠ []) :
    ∀ {records : Records}, "" ∉ records.keys →
      "" ∉ (recordAttributes delimiter opened records attributes).keys := by
  induction attributes with
  | nil => exact fun absent => absent
  | cons pair rest ih =>
    intro records absent
    obtain ⟨name, value⟩ := pair
    have filled : name ≠ [] := named (name, value) List.mem_cons_self
    simp only [recordAttributes, List.foldl_cons] at ih ⊢
    refine ih (fun a mem => named a (List.mem_cons_of_mem _ mem))
      (Records.empty_not_mem_keys_insert absent ?_ _)
    split
    · exact fun empty => filled (String.ofList_eq_empty_iff.mp empty)
    · next base =>
      exact fun empty => base (String.isEmpty_iff.mpr (Delimiter.eq_empty_of_join_pair empty).1)

/-- Reading events into records that lack the empty key gives records that lack it. -/
theorem empty_not_mem_keys_readAll {delimiter : Delimiter} :
    ∀ {fuel : Nat} {input : List Char} {opened : List String} {records result : Records},
      readAll delimiter fuel input opened records = .ok result →
      "" ∉ records.keys → "" ∉ result.keys
  | 0, _, _, _, _, read, absent => by
    cases read
    exact absent
  | fuel + 1, input, opened, records, result, read, absent => by
    simp only [readAll] at read
    split at read
    · cases read
    · split at read
      · cases read
        exact absent
      · cases read
    · next event rest found =>
      have named := namesFilled_of_next found
      split at read
      · exact empty_not_mem_keys_readAll read (empty_not_mem_keys_recordAttributes named absent)
      · exact empty_not_mem_keys_readAll read (empty_not_mem_keys_recordAttributes named absent)
      · split at read
        · split at read
          · exact empty_not_mem_keys_readAll read absent
          · cases read
        · cases read
      · exact empty_not_mem_keys_readAll read (empty_not_mem_keys_recordText absent _)
      · exact empty_not_mem_keys_readAll read (empty_not_mem_keys_recordText absent _)
      · exact empty_not_mem_keys_readAll read absent

theorem empty_not_mem_keys_read {content : String} {delimiter : Delimiter} {records : Records}
    (read : Xml.read content delimiter = .ok records) : "" ∉ records.keys :=
  empty_not_mem_keys_readAll read (by simp [Records.empty, Records.keys])

end Xml

namespace Yaml

/-- The texts a node records at the empty key, in document order. -/
def Node.textsAtTop : Node → List String
  | .mapping entries => entriesAtTop entries
  | .sequence items => itemsAtTop items
  | .tagged _ node => node.textsAtTop
  | node => node.scalarText?.toList
where
  entriesAtTop : List (Node × Node) → List String
    | [] => []
    | (k, v) :: rest => (if k.scalarText? = some "" then v.textsAtTop else []) ++ entriesAtTop rest
  itemsAtTop : List Node → List String
    | [] => []
    | item :: rest => item.textsAtTop ++ itemsAtTop rest

/-- A scalar records its text under the key it is read at. -/
theorem Node.flatten_of_scalarText? {node : Node} {text : String} (scalar : node.scalarText? = some text)
    (delimiter : Delimiter) (key : String) (records : Records) :
    node.flatten delimiter key records = records.insert key text ∧ node.textsAtTop = [text] := by
  cases node <;> simp_all [Node.scalarText?, Node.flatten, Node.textsAtTop]

/-- The key below a key is empty only when both are empty. -/
theorem joinedKey_eq_empty_iff {delimiter : Delimiter} {key name : String} :
    (if key.isEmpty then name else delimiter.join [key, name]) = "" ↔ key = "" ∧ name = "" := by
  by_cases top : key = ""
  · simp [top]
  · have filled : key.isEmpty = false := String.isEmpty_eq_false_iff.mpr top
    simp only [filled, Bool.false_eq_true, ↓reduceIte, top, false_and, iff_false]
    exact fun joined => top (Delimiter.eq_empty_of_join_pair joined).1

/-- An entry with a scalar key reads its value at the joined key, empty only when both parts are. -/
theorem empty_mem_keys_entry {delimiter : Delimiter} {v : Node} {key name : String}
    {records : Records}
    (value : "" ∈ (v.flatten delimiter (if key.isEmpty then name else delimiter.join [key, name])
        records).keys ↔ "" ∈ records.keys ∨
      ((if key.isEmpty then name else delimiter.join [key, name]) = "" ∧ v.textsAtTop ≠ [])) :
    "" ∈ (v.flatten delimiter (if key.isEmpty then name else delimiter.join [key, name])
        records).keys ↔
      "" ∈ records.keys ∨ (key = "" ∧ (if some name = some "" then v.textsAtTop else []) ≠ []) := by
  rw [value, joinedKey_eq_empty_iff]
  by_cases empty : name = ""
  · simp [empty]
  · simp [empty]

/-- A node read at a key records the empty key when it was there, or at the empty key from a text. -/
theorem empty_mem_keys_flatten (delimiter : Delimiter) (node : Node) (key : String)
    (records : Records) :
    "" ∈ (node.flatten delimiter key records).keys ↔
      "" ∈ records.keys ∨ (key = "" ∧ node.textsAtTop ≠ []) := by
  -- One motive for each of the three functions that read mappings, nodes and sequences.
  refine Node.flatten.induct delimiter
    (fun entries key records => "" ∈ (Node.flatten.flattenEntries delimiter entries key records).keys ↔
      "" ∈ records.keys ∨ (key = "" ∧ Node.textsAtTop.entriesAtTop entries ≠ []))
    (fun node key records => "" ∈ (node.flatten delimiter key records).keys ↔
      "" ∈ records.keys ∨ (key = "" ∧ node.textsAtTop ≠ []))
    (fun items key records => "" ∈ (Node.flatten.flattenItems delimiter items key records).keys ↔
      "" ∈ records.keys ∨ (key = "" ∧ Node.textsAtTop.itemsAtTop items ≠ []))
    ?mapping ?sequence ?nullTop ?nullKey ?tagged ?scalar ?other ?itemsNil ?itemsCons ?entriesNil
    ?entriesCons node key records
  case mapping =>
    intro entries key records ih
    simpa only [Node.flatten, Node.textsAtTop] using ih
  case sequence =>
    intro items key records ih
    simpa only [Node.flatten, Node.textsAtTop] using ih
  case nullTop =>
    intro key records top
    simp [Node.flatten, Node.textsAtTop, Node.scalarText?, top]
  case nullKey =>
    intro key records filled
    have other : "" ≠ key := fun same => filled (String.isEmpty_iff.mpr same.symm)
    simp [Node.flatten, Node.textsAtTop, Node.scalarText?, filled, Records.mem_keys_insert, other]
  case tagged =>
    intro tag node key records ih
    simpa only [Node.flatten, Node.textsAtTop] using ih
  case scalar =>
    intro node key records _ _ _ _ text scalar
    obtain ⟨flat, top⟩ := Node.flatten_of_scalarText? scalar delimiter key records
    rw [flat, top, Records.mem_keys_insert]
    simp [eq_comm]
  case other =>
    intro node key records notMapping notSequence notNull notTagged none
    cases node <;> simp_all [Node.scalarText?]
  case itemsNil =>
    intro key records
    simp [Node.flatten.flattenItems, Node.textsAtTop.itemsAtTop]
  case itemsCons =>
    intro item rest key records ihItem ihRest
    simp only [Node.flatten.flattenItems, Node.textsAtTop.itemsAtTop, ihRest, ihItem]
    simp only [ne_eq, List.append_eq_nil_iff, not_and_or]
    rw [and_or_left, or_assoc]
  case entriesNil =>
    intro key records
    simp [Node.flatten.flattenEntries, Node.textsAtTop.entriesAtTop]
  case entriesCons =>
    intro k v rest key records entryRecords ihValue ihRest
    simp only [Node.flatten.flattenEntries, Node.textsAtTop.entriesAtTop]
    show "" ∈ (Node.flatten.flattenEntries delimiter rest key entryRecords).keys ↔ _
    rw [ihRest]
    have entry : "" ∈ entryRecords.keys ↔ "" ∈ records.keys ∨
        (key = "" ∧ (if k.scalarText? = some "" then v.textsAtTop else []) ≠ []) := by
      cases k with
      | string _ | integer _ | float _ | bool _ => exact empty_mem_keys_entry ihValue
      | null | sequence _ | mapping _ | tagged _ _ => simp [entryRecords, Node.scalarText?]
    rw [entry]
    simp only [ne_eq, List.append_eq_nil_iff, not_and_or]
    rw [and_or_left, or_assoc]

theorem empty_mem_keys_read {content : String} {delimiter : Delimiter} {records : Records}
    (read : Yaml.read content delimiter = .ok records) :
    "" ∈ records.keys ↔ ∃ node, readDocument content = .ok node ∧ node.textsAtTop ≠ [] := by
  unfold Yaml.read at read
  split at read
  · next node document =>
    cases read
    rw [empty_mem_keys_flatten]
    simp [document, Records.empty, Records.keys]
  · cases read

/-- A plain scalar document is read as one record under the empty key. -/
theorem read_scalar_document :
    RecordFormat.yaml.read '#' "hello" .default = .ok ⟨[("", .single "hello")]⟩ := by
  have evaluated : (match RecordFormat.yaml.read '#' "hello" .default with
      | .ok records => records == ⟨[("", .single "hello")]⟩
      | .error _ => false) = true := by
    decide +kernel
  cases read : RecordFormat.yaml.read '#' "hello" .default with
  | error e =>
    rw [read] at evaluated
    cases evaluated
  | ok records =>
    rw [read] at evaluated
    rw [eq_of_beq evaluated]

end Yaml

/-- Flat `key=value` text, block-structured text and XML never record the empty key, and YAML
records it exactly when the document has a text at its top. -/
theorem read_empty_key_iff_text_at_top (format : RecordFormat) (commentChar : Char)
    (content : String) (delimiter : Delimiter) (records : Records)
    (read : format.read commentChar content delimiter = .ok records) :
    "" ∈ records.keys ↔
      format = .yaml ∧ ∃ node, Yaml.readDocument content = .ok node ∧ node.textsAtTop ≠ [] := by
  cases format with
  | properties =>
    have same : Properties.read content = records := Except.ok.inj read
    subst same
    simpa using Properties.empty_not_mem_keys_read content
  | ini => simpa using Ini.empty_not_mem_keys_read read
  | xml => simpa using Xml.empty_not_mem_keys_read read
  | yaml => simpa using Yaml.empty_mem_keys_read read

theorem scalar_document_records_text_at_top :
    RecordFormat.yaml.read '#' "hello" .default = .ok ⟨[("", .single "hello")]⟩ ∧
      ("" ∈ (⟨[("", .single "hello")]⟩ : Records).keys ↔
        RecordFormat.yaml = .yaml ∧
          ∃ node, Yaml.readDocument "hello" = .ok node ∧ node.textsAtTop ≠ []) :=
  ⟨Yaml.read_scalar_document,
    read_empty_key_iff_text_at_top .yaml '#' "hello" .default _ Yaml.read_scalar_document⟩

/-- A plain scalar YAML document gives a record with the empty key. -/
theorem scalar_yaml_document_records_empty_key :
    ∃ records, RecordFormat.yaml.read '#' "hello" .default = .ok records ∧ "" ∈ records.keys :=
  ⟨_, Yaml.read_scalar_document, by simp [Records.keys]⟩

end NamingDirectory
