/-!
Records: flat keys to texts, in first-insertion order; inserting a present key appends a text.
-/

namespace NamingDirectory

/-- The texts of one key: one, or several in insertion order. -/
inductive RecordValue where
  | single (text : String)
  | multi (texts : List String)
  deriving Repr, Inhabited, DecidableEq

namespace RecordValue

/-- The first text, or the empty text for an empty list. -/
def first : RecordValue → String
  | .single text => text
  | .multi texts => texts.headD ""

/-- All texts in order. -/
def values : RecordValue → List String
  | .single text => [text]
  | .multi texts => texts

/-- True for several texts. -/
def isMulti : RecordValue → Bool
  | .single _ => false
  | .multi _ => true

/-- Appends a text: one text becomes a list of two. -/
def push (value : RecordValue) (text : String) : RecordValue :=
  match value with
  | .single existing => .multi [existing, text]
  | .multi texts => .multi (texts ++ [text])

end RecordValue

/-- An insertion-ordered map from keys to texts. -/
structure Records where
  entries : List (String × RecordValue)
  deriving Repr, Inhabited, DecidableEq

namespace Records

/-- No records. -/
def empty : Records := ⟨[]⟩

/-- Adds a text under a key: a new key goes last, a present key gains the text. -/
def insertEntries (key text : String) : List (String × RecordValue) → List (String × RecordValue)
  | [] => [(key, .single text)]
  | (k, v) :: rest =>
    if k == key then (k, v.push text) :: rest else (k, v) :: insertEntries key text rest

/-- Adds a text under a key. -/
def insert (records : Records) (key text : String) : Records :=
  ⟨insertEntries key text records.entries⟩

/-- The texts of a key. -/
def get? (records : Records) (key : String) : Option RecordValue :=
  (records.entries.find? (·.1 == key)).map (·.2)

/-- True when the key is present. -/
def contains (records : Records) (key : String) : Bool :=
  records.entries.any (·.1 == key)

/-- The keys in order of first insertion. -/
def keys (records : Records) : List String := records.entries.map (·.1)

/-- The number of keys. -/
def size (records : Records) : Nat := records.entries.length

/-- True when there is no key. -/
def isEmpty (records : Records) : Bool := records.entries.isEmpty

/-- Inserts every pair in order. -/
def insertAll (records : Records) (pairs : List (String × String)) : Records :=
  pairs.foldl (fun acc pair => acc.insert pair.1 pair.2) records

/-- The records of a list of pairs inserted in order. -/
def ofList (pairs : List (String × String)) : Records := empty.insertAll pairs

/-- The pairs a record set holds, each text of a key in turn, keys in order. -/
def toPairs (records : Records) : List (String × String) :=
  records.entries.flatMap fun entry => entry.2.values.map (entry.1, ·)

/-- Inserts every text of `other`, key by key, in its order. -/
def extend (records other : Records) : Records := records.insertAll other.toPairs

end Records

end NamingDirectory
