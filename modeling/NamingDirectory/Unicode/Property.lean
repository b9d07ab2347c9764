import NamingDirectory.Unicode.Age
import NamingDirectory.Unicode.BinaryProperty
import NamingDirectory.Unicode.GeneralCategory
import NamingDirectory.Unicode.Script
import NamingDirectory.Unicode.ScriptExtensions
import NamingDirectory.Unicode.TextBreak

/-!
Classes of characters named by Unicode properties, names compared in loose form.
-/

namespace NamingDirectory.Unicode

/-- The loose form of a property name or value; `isc` keeps its `is`, so it is not the category `c`. -/
def looseName (name : String) : String :=
  let chars := name.toList
  let (prefixed, rest) :=
    match chars with
    | a :: b :: rest =>
      if a.toLower == 'i' && b.toLower == 's' then (true, rest) else (false, chars)
    | _ => (false, chars)
  let kept := rest.filterMap fun c =>
    if c == ' ' || c == '_' || c == '-' || c.toNat ≥ 0x80 then none else some c.toLower
  if prefixed && kept == ['c'] then "isc" else String.ofList kept

/-- How a pattern names a class by a property. -/
inductive PropertyQuery where
  /-- A name of one letter, written without braces. -/
  | letter (c : Char)
  /-- A name alone. -/
  | named (name : String)
  /-- A property and one of its values. -/
  | valued (property value : String)
  deriving Inhabited

/-- The set listed under a name in a table of range text. -/
def tableSet? (table : List (String × List String)) (name : String) : Option CharRanges :=
  (table.lookup name).map CharRanges.ofHexLines

/-- The categories that make up each group of general categories. -/
def generalCategoryGroups : List (String × List String) :=
  [("Cased_Letter", ["Lowercase_Letter", "Titlecase_Letter", "Uppercase_Letter"]),
   ("Letter", ["Lowercase_Letter", "Modifier_Letter", "Other_Letter", "Titlecase_Letter",
     "Uppercase_Letter"]),
   ("Mark", ["Enclosing_Mark", "Nonspacing_Mark", "Spacing_Mark"]),
   ("Number", ["Decimal_Number", "Letter_Number", "Other_Number"]),
   ("Other", ["Control", "Format", "Private_Use", "Surrogate", "Unassigned"]),
   ("Punctuation", ["Close_Punctuation", "Connector_Punctuation", "Dash_Punctuation",
     "Final_Punctuation", "Initial_Punctuation", "Open_Punctuation", "Other_Punctuation"]),
   ("Separator", ["Line_Separator", "Paragraph_Separator", "Space_Separator"]),
   ("Symbol", ["Currency_Symbol", "Math_Symbol", "Modifier_Symbol", "Other_Symbol"])]

/-- The code points of a general category or group of categories, by long name. -/
def generalCategorySet? (name : String) : Option CharRanges :=
  match generalCategoryGroups.lookup name with
  | some members =>
    some (CharRanges.unionAll (members.filterMap (tableSet? generalCategoryRanges)))
  | none => tableSet? generalCategoryRanges name

/-- The class of a general category by a loose name; also `any`, `ascii` and `assigned`. -/
def generalCategoryClass? (loose : String) : Option CharRanges :=
  match loose with
  | "any" => some CharRanges.full
  | "ascii" => some ⟨[(0, 0x7F)]⟩
  | "assigned" => (generalCategorySet? "Unassigned").map CharRanges.complement
  | _ => (generalCategoryNames.lookup loose).bind generalCategorySet?

/-- The class of a script by a name in loose form. -/
def scriptClass? (loose : String) : Option CharRanges :=
  (scriptNames.lookup loose).bind (tableSet? scriptRanges)

/-- The code points used with a script, by a name of the script in loose form. -/
def scriptExtensionClass? (loose : String) : Option CharRanges :=
  (scriptNames.lookup loose).bind (tableSet? scriptExtensionRanges)

/-- The code points assigned up to a version of Unicode, named in loose form. -/
def ageClass? (loose : String) : Option CharRanges := do
  let version ← ageNames.lookup loose
  let count ← ageRanges.findIdx? (·.1 == version)
  return CharRanges.unionAll ((ageRanges.take (count + 1)).map (CharRanges.ofHexLines ·.2))

/-- The class of a name alone: a binary property, else a general category, else a script. -/
def namedClass? (name : String) : Option CharRanges :=
  let loose := looseName name
  match binaryPropertyNames.lookup loose with
  | some property => tableSet? binaryPropertyRanges property
  | none =>
    match generalCategoryClass? loose with
    | some set => some set
    | none => scriptClass? loose

/-- The class of a property and one of its values. -/
def valuedClass? (property value : String) : Option CharRanges :=
  let value := looseName value
  match looseName property with
  | "gc" | "generalcategory" => generalCategoryClass? value
  | "sc" | "script" => scriptClass? value
  | "scx" | "scriptextensions" => scriptExtensionClass? value
  | "age" => ageClass? value
  | "gcb" | "graphemeclusterbreak" =>
    (graphemeClusterBreakNames.lookup value).bind (tableSet? graphemeClusterBreakRanges)
  | "wb" | "wordbreak" => (wordBreakNames.lookup value).bind (tableSet? wordBreakRanges)
  | "sb" | "sentencebreak" =>
    (sentenceBreakNames.lookup value).bind (tableSet? sentenceBreakRanges)
  | _ => none

/-- The class a query names, if it names one. -/
def PropertyQuery.class? : PropertyQuery → Option CharRanges
  | .letter c => namedClass? (String.singleton c)
  | .named name => namedClass? name
  | .valued property value => valuedClass? property value

end NamingDirectory.Unicode
