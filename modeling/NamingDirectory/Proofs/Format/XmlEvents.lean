import Mathlib
import NamingDirectory.Format.Xml
import NamingDirectory.Proofs.Records.Coalesce

/-!
XML records as a fold over the document's events
(`xml_values_come_from_attributes_and_text_events`).
-/

namespace NamingDirectory

namespace Xml

section Progress

theorem tagBody_rest_lt : ∀ {s : List Char} {quote : Option Char} {acc content after : List Char},
    tagBody s quote acc = some (content, after) → after.length < s.length
  | [], _, _, _, _, read => by simp [tagBody] at read
  | c :: rest, none, acc, content, after, read => by
    simp only [tagBody] at read
    split at read
    · obtain ⟨-, rfl⟩ := Prod.mk.inj (Option.some.inj read)
      simp
    · split at read
      · exact (tagBody_rest_lt read).trans (by simp)
      · exact (tagBody_rest_lt read).trans (by simp)
  | c :: rest, some q, acc, content, after, read => by
    simp only [tagBody] at read
    split at read
    · exact (tagBody_rest_lt read).trans (by simp)
    · exact (tagBody_rest_lt read).trans (by simp)

theorem bangEnd_rest_lt {kind : BangKind} :
    ∀ {before s buf rest : List Char}, bangEnd kind before s = some (buf, rest) →
      rest.length < s.length
  | _, [], _, _, read => by simp [bangEnd] at read
  | before, c :: more, buf, rest, read => by
    simp only [bangEnd] at read
    split at read
    · obtain ⟨-, rfl⟩ := Prod.mk.inj (Option.some.inj read)
      simp
    · exact (bangEnd_rest_lt read).trans (by simp)

/-- Every construct after `<!` ends at a `>` that `bangEnd` finds, and the reader goes on after it. -/
theorem bang_rest_lt {chunk rest : List Char} {event : Event}
    (read : bang chunk = some (event, rest)) : rest.length < chunk.length := by
  unfold bang at read
  dsimp only at read
  split at read <;> simp only [Option.bind_eq_bind, Option.bind_some, Option.bind_none,
    reduceCtorEq] at read
  all_goals
    obtain ⟨⟨buf, after⟩, ended, finished⟩ := Option.bind_eq_some_iff.mp read
    dsimp only at finished
    split at finished <;> cases finished
    exact bangEnd_rest_lt ended

theorem untilClose_rest_le (s : List Char) : (untilClose s).2.length ≤ s.length := by
  simp only [untilClose, List.span_eq_takeWhile_dropWhile, List.length_drop]
  have := (List.dropWhile_suffix (· != '>') (l := s)).length_le
  omega

theorem markup_rest_lt {input after : List Char} {event : Event}
    (read : markup input = some (some (event, after))) : after.length < input.length := by
  unfold markup at read
  split at read
  · cases read
  · obtain ⟨⟨e, rest⟩, found, same⟩ := Option.map_eq_some_iff.mp read
    cases same
    exact bang_rest_lt found
  · next rest =>
    obtain ⟨-, rfl⟩ := Prod.mk.inj (Option.some.inj (Option.some.inj read))
    exact (untilClose_rest_le rest).trans_lt (by simp)
  · next rest =>
    have bounded := untilClose_rest_le rest
    split at read
    next body rest' parts =>
    rw [parts] at bounded
    dsimp only at read
    split at read
    · obtain ⟨-, rfl⟩ := Prod.mk.inj (Option.some.inj (Option.some.inj read))
      exact bounded.trans_lt (by simp)
    · cases read
  · obtain ⟨⟨content, rest⟩, body, read⟩ := Option.bind_eq_some_iff.mp read
    obtain ⟨e, -, same⟩ := Option.map_eq_some_iff.mp read
    cases same
    exact tagBody_rest_lt body

/-- Each event the reader takes uses a character at least. -/
theorem next_rest_length_lt {input after : List Char} {event : Event}
    (read : next input = some (some (event, after))) : after.length < input.length := by
  have skipped := (List.dropWhile_suffix isBlank (l := input)).length_le
  unfold next at read
  split at read
  · cases read
  · next rest blanks =>
    have shorter := markup_rest_lt read
    rw [blanks] at skipped
    simp only [List.length_cons] at skipped
    omega
  · next notEmpty notOpen =>
    obtain ⟨t, -, same⟩ := Option.map_eq_some_iff.mp read
    obtain ⟨-, rfl⟩ := Prod.mk.inj (Option.some.inj same)
    change ((input.dropWhile isBlank).span (· != '<')).2.length < input.length
    rw [List.span_eq_takeWhile_dropWhile]
    cases other : input.dropWhile isBlank with
    | nil => exact absurd other notEmpty
    | cons x xs =>
      have plain : (x != '<') = true := by
        rw [bne_iff_ne]
        rintro rfl
        exact notOpen xs other
      have dropped := (List.dropWhile_suffix (· != '<') (l := xs)).length_le
      rw [other] at skipped
      simp only [List.dropWhile_cons, plain, if_true, List.length_cons] at dropped skipped ⊢
      omega

end Progress

section Events

/-- The events of a text, read until it ends; `none` at malformed markup. -/
def eventsWith : Nat → List Char → Option (List Event)
  | 0, _ => some []
  | fuel + 1, input =>
    match next input with
    | none => none
    | some none => some []
    | some (some (event, rest)) => (eventsWith fuel rest).map (event :: ·)

/-- The characters of a document after a leading byte order mark. -/
def documentInput (content : String) : List Char :=
  match content.toList with
  | '\uFEFF' :: rest => rest
  | chars => chars

/-- The events of a document, read with one unit of fuel per character and one more. -/
def documentEvents (content : String) : Option (List Event) :=
  eventsWith ((documentInput content).length + 1) (documentInput content)

theorem read_eq_readAll (content : String) (delimiter : Delimiter) :
    read content delimiter =
      readAll delimiter ((documentInput content).length + 1) (documentInput content) []
        Records.empty := rfl

theorem eventsWith_of_event {fuel : Nat} {input rest : List Char} {event : Event}
    {events : List Event} (read : next input = some (some (event, rest)))
    (found : eventsWith (fuel + 1) input = some events) :
    ∃ later, eventsWith fuel rest = some later ∧ events = event :: later := by
  simp only [eventsWith, read] at found
  obtain ⟨later, readLater, rfl⟩ := Option.map_eq_some_iff.mp found
  exact ⟨later, readLater, rfl⟩

end Events

section Fold

/-- What one event does to the open element names, innermost first, and the records. -/
def handle (delimiter : Delimiter) : List String × Records → Event →
    Except NamingError (List String × Records)
  | (opened, records), .start name attributes =>
    let opened := String.ofList name :: opened
    .ok (opened, recordAttributes delimiter opened records attributes)
  | (opened, records), .empty name attributes =>
    .ok (opened, recordAttributes delimiter (String.ofList name :: opened) records attributes)
  | (top :: outer, records), .close name =>
    if top == String.ofList name then .ok (outer, records) else .error readerFailure
  | ([], _), .close _ => .error readerFailure
  | (opened, records), .text content => .ok (opened, recordText delimiter opened records content)
  | (opened, records), .cdata content => .ok (opened, recordText delimiter opened records content)
  | state, .skipped => .ok state

/-- The end of a document: its records, unless an element is still open. -/
def finish : List String × Records → Except NamingError Records
  | ([], records) => .ok records
  | (name :: _, _) => .error (.parse ("Unclosed element <" ++ name ++ "> at end of document"))

theorem readAll_of_ended {delimiter : Delimiter} {fuel : Nat} {input : List Char}
    {opened : List String} {records : Records} (ended : next input = some none) :
    readAll delimiter (fuel + 1) input opened records = finish (opened, records) := by
  cases opened <;> simp [readAll, ended, finish]

theorem readAll_of_event {delimiter : Delimiter} {fuel : Nat} {input rest : List Char}
    {opened : List String} {records : Records} {event : Event}
    (read : next input = some (some (event, rest))) :
    readAll delimiter (fuel + 1) input opened records =
      (handle delimiter (opened, records) event).bind fun state =>
        readAll delimiter fuel rest state.1 state.2 := by
  cases event with
  | close name =>
    cases opened with
    | nil => simp [readAll, read, handle, Except.bind]
    | cons top outer =>
      by_cases same : top = String.ofList name <;> simp [readAll, read, handle, same, Except.bind]
  | _ => simp [readAll, read, handle, Except.bind]

/-- Reading a text whose events are read without error folds `handle` over them. -/
theorem readAll_of_eventsWith (delimiter : Delimiter) :
    ∀ {fuel : Nat} {input : List Char} {events : List Event}, input.length < fuel →
      eventsWith fuel input = some events → ∀ opened records,
        readAll delimiter fuel input opened records =
          (events.foldlM (handle delimiter) (opened, records)).bind finish
  | 0, _, _, enough, _, _, _ => absurd enough (Nat.not_lt_zero _)
  | fuel + 1, input, events, enough, found, opened, records => by
    match read : next input with
    | none => simp [eventsWith, read] at found
    | some none =>
      simp only [eventsWith, read, Option.some.injEq] at found
      subst found
      rw [readAll_of_ended read]
      rfl
    | some (some (event, rest)) =>
      obtain ⟨later, readLater, rfl⟩ := eventsWith_of_event read found
      have shorter := next_rest_length_lt read
      rw [readAll_of_event read, List.foldlM_cons]
      cases handle delimiter (opened, records) event with
      | error e => rfl
      | ok state => exact readAll_of_eventsWith delimiter (by omega) readLater state.1 state.2

end Fold

section Items

/-- A value an event adds to the records, with its key: an attribute's, or a text's. -/
inductive Item where
  | attribute (key value : String)
  | text (key value : String)
  deriving Repr, DecidableEq

namespace Item

def key : Item → String
  | .attribute key _ | .text key _ => key

def value : Item → String
  | .attribute _ value | .text _ value => value

def isText : Item → Bool
  | .attribute .. => false
  | .text .. => true

/-- The record an item makes. -/
def pair (item : Item) : String × String := (item.key, item.value)

end Item

/-- The key of an attribute of the innermost element: its name after the element's path. -/
def attributeKey (delimiter : Delimiter) (opened : List String) (name : String) : String :=
  let base := pathKey delimiter opened
  if base.isEmpty then name else delimiter.join [base, name]

/-- The attributes of the innermost element of `opened`, in the order of the tag. -/
def attributeItems (delimiter : Delimiter) (opened : List String)
    (attributes : List (List Char × List Char)) : List Item :=
  attributes.map fun (name, value) =>
    .attribute (attributeKey delimiter opened (String.ofList name)) (String.ofList value)

/-- A trimmed text inside the innermost element; nothing when it is blank or has no path. -/
def textItems (delimiter : Delimiter) (opened : List String) (content : List Char) : List Item :=
  let text := Unicode.trim (String.ofList content)
  let key := pathKey delimiter opened
  if text.isEmpty || key.isEmpty then [] else [.text key text]

/-- What an event adds inside the open elements: attributes, and a text or CDATA section's text. -/
def Event.items (delimiter : Delimiter) (opened : List String) : Event → List Item
  | .start name attributes | .empty name attributes =>
    attributeItems delimiter (String.ofList name :: opened) attributes
  | .text content | .cdata content => textItems delimiter opened content
  | .close _ | .skipped => []

/-- The open elements after an event, an end tag closing the innermost one. -/
def Event.openedAfter (opened : List String) : Event → List String
  | .start name _ => String.ofList name :: opened
  | .close _ => opened.tail
  | _ => opened

/-- Whether an event keeps elements nested: an end tag must name the innermost open element. -/
def Event.closesInnermost (opened : List String) : Event → Bool
  | .close name => opened.head? == some (String.ofList name)
  | _ => true

/-- The elements left open by events; `none` when an end tag does not close the innermost one. -/
def openAfter : List String → List Event → Option (List String)
  | opened, [] => some opened
  | opened, event :: events =>
    if event.closesInnermost opened then openAfter (event.openedAfter opened) events else none

/-- What a list of events adds, in order, starting inside the open elements `opened`. -/
def itemsOf (delimiter : Delimiter) : List String → List Event → List Item
  | _, [] => []
  | opened, event :: events =>
    event.items delimiter opened ++ itemsOf delimiter (event.openedAfter opened) events

@[simp] theorem insertAll_append (records : Records) (first second : List (String × String)) :
    records.insertAll (first ++ second) = (records.insertAll first).insertAll second := by
  simp [Records.insertAll]

theorem recordAttributes_eq (delimiter : Delimiter) (opened : List String) (records : Records)
    (attributes : List (List Char × List Char)) :
    recordAttributes delimiter opened records attributes =
      records.insertAll ((attributeItems delimiter opened attributes).map Item.pair) := by
  simp only [recordAttributes, attributeItems, Records.insertAll, List.map_map, List.foldl_map]
  rfl

theorem recordText_eq (delimiter : Delimiter) (opened : List String) (records : Records)
    (content : List Char) :
    recordText delimiter opened records content =
      records.insertAll ((textItems delimiter opened content).map Item.pair) := by
  simp only [recordText, textItems]
  split <;> rfl

/-- One event that keeps elements nested records what it adds. -/
theorem handle_of_closesInnermost {delimiter : Delimiter} {opened : List String}
    {records : Records} {event : Event} (nested : event.closesInnermost opened = true) :
    handle delimiter (opened, records) event =
      .ok (event.openedAfter opened,
        records.insertAll ((event.items delimiter opened).map Item.pair)) := by
  cases event with
  | close name =>
    cases opened with
    | nil => simp [Event.closesInnermost] at nested
    | cons top outer =>
      simp only [Event.closesInnermost, List.head?_cons, beq_iff_eq, Option.some.injEq] at nested
      simp [handle, nested, Event.openedAfter, Event.items, Records.insertAll]
  | start name attributes => simp [handle, recordAttributes_eq, Event.openedAfter, Event.items]
  | empty name attributes => simp [handle, recordAttributes_eq, Event.openedAfter, Event.items]
  | text content => simp [handle, recordText_eq, Event.openedAfter, Event.items]
  | cdata content => simp [handle, recordText_eq, Event.openedAfter, Event.items]
  | skipped => simp [handle, Event.openedAfter, Event.items, Records.insertAll]

/-- Events that keep elements nested leave `openAfter` open and record what they add, in order. -/
theorem foldlM_handle (delimiter : Delimiter) :
    ∀ {opened final : List String} {events : List Event} (records : Records),
      openAfter opened events = some final →
        events.foldlM (handle delimiter) (opened, records) =
          .ok (final, records.insertAll ((itemsOf delimiter opened events).map Item.pair))
  | opened, final, [], records, nested => by
    simp only [openAfter, Option.some.injEq] at nested
    subst nested
    rfl
  | opened, final, event :: events, records, nested => by
    simp only [openAfter] at nested
    split at nested
    · next keeps =>
      rw [List.foldlM_cons, handle_of_closesInnermost keeps]
      simp only [itemsOf, List.map_append, insertAll_append]
      exact foldlM_handle delimiter _ nested
    · cases nested

end Items

section Values

theorem textsOf_map_pair (items : List Item) (key : String) :
    Records.textsOf (items.map Item.pair) key = (items.filter (·.key == key)).map Item.value := by
  simp [Records.textsOf, List.filter_map, Function.comp_def, Item.pair]

/-- The items under a key are its attributes and its texts. -/
theorem length_filter_key (items : List Item) (key : String) :
    (items.filter (·.key == key)).length =
      (items.filter fun item => !item.isText && item.key == key).length +
        (items.filter fun item => item.isText && item.key == key).length := by
  rw [List.length_eq_length_filter_add Item.isText, List.filter_filter, List.filter_filter,
    Nat.add_comm]

/-- Reading a well-nested document fails exactly when an element is left open, and otherwise records
one value per attribute and per non-blank text or CDATA event below the document element. -/
theorem xml_values_come_from_attributes_and_text_events (content : String) (delimiter : Delimiter)
    {events : List Event} {final : List String}
    (readable : documentEvents content = some events) (nested : openAfter [] events = some final) :
    (∀ name outer, final = name :: outer →
      read content delimiter =
        .error (.parse ("Unclosed element <" ++ name ++ "> at end of document"))) ∧
    (final = [] →
      read content delimiter = .ok (Records.ofList ((itemsOf delimiter [] events).map Item.pair)) ∧
      ∀ key, (Records.ofList ((itemsOf delimiter [] events).map Item.pair)).valuesAt key =
          ((itemsOf delimiter [] events).filter (·.key == key)).map Item.value ∧
        ((Records.ofList ((itemsOf delimiter [] events).map Item.pair)).valuesAt key).length =
          ((itemsOf delimiter [] events).filter fun item => !item.isText && item.key == key).length +
            ((itemsOf delimiter [] events).filter fun item => item.isText && item.key == key).length) := by
  have folded := readAll_of_eventsWith delimiter (Nat.lt_succ_self _) readable [] Records.empty
  rw [foldlM_handle delimiter Records.empty nested, ← read_eq_readAll] at folded
  have values : ∀ key, (Records.ofList ((itemsOf delimiter [] events).map Item.pair)).valuesAt key =
      ((itemsOf delimiter [] events).filter (·.key == key)).map Item.value := fun key => by
    rw [Records.valuesAt_ofList, textsOf_map_pair]
  refine ⟨fun name outer unclosed => ?_, fun closed => ⟨?_, fun key => ⟨values key, ?_⟩⟩⟩
  · rw [folded, unclosed]
    rfl
  · rw [folded, closed]
    rfl
  · rw [values, List.length_map, length_filter_key]

end Values

/-- A document element with an attribute, holding one element with an attribute and a text. -/
def sampleDocument : String := "<r id=\"1\"><a k=\"v\">t</a></r>"

/-- The events of `sampleDocument`. -/
def sampleEvents : List Event :=
  [.start ['r'] [(['i', 'd'], ['1'])], .start ['a'] [(['k'], ['v'])], .text ['t'], .close ['a'],
    .close ['r']]

theorem sample_document_records_its_items :
    documentEvents sampleDocument = some sampleEvents ∧ openAfter [] sampleEvents = some [] ∧
      read sampleDocument .default =
        .ok (Records.ofList ((itemsOf .default [] sampleEvents).map Item.pair)) :=
  have readable : documentEvents sampleDocument = some sampleEvents := rfl
  have nested : openAfter [] sampleEvents = some [] := rfl
  ⟨readable, nested,
    ((xml_values_come_from_attributes_and_text_events sampleDocument .default readable nested).2
      rfl).1⟩

/-
Attributes of the document element are keyed by name; those within, by the path to them.
-/
example : itemsOf .default [] sampleEvents =
    [.attribute "id" "1", .attribute "a.k" "v", .text "a" "t"] := by decide

/-- A comment inside an element's text cuts it in two, and the element records both pieces. -/
theorem split_text_records_two_values :
    (read "<r><a>x<!--c-->y</a></r>" .default).toOption.map (·.valuesAt "a") =
      some ["x", "y"] := by
  decide


end Xml

end NamingDirectory
