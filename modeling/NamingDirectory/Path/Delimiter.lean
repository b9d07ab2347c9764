import NamingDirectory.Error
import NamingDirectory.Pattern.Search
import NamingDirectory.Unicode.WhiteSpace

/-!
Delimiters cut a flat key into segments and join segments back: literal, pattern or `flat`.
-/

namespace NamingDirectory

open NamingDirectory.Pattern
open NamingDirectory.Unicode

/-- How keys are cut into segments and joined back. -/
inductive Delimiter where
  /-- Cut at each occurrence of a non-empty separator. -/
  | literal (separator : String)
  /-- Cut at each match of a pattern; join with the derived separator. -/
  | pattern (compiled : Compiled) (separator : String)
  /-- Never cut; join with `/`. -/
  | flat
  deriving Inhabited

namespace Delimiter

/-- The characters whose presence makes a specification a regular expression. -/
def metaCharacters : List Char :=
  ['\\', '|', '[', ']', '(', ')', '\x7b', '\x7d', '*', '+', '?', '^', '$']

/-- The separator that joins segments. -/
def separator : Delimiter → String
  | .literal sep => sep
  | .pattern _ sep => sep
  | .flat => "/"

/-- The name of the kind of delimiter. -/
def kindName : Delimiter → String
  | .literal _ => "literal"
  | .pattern .. => "pattern"
  | .flat => "flat"

/-- Cuts a character list at each occurrence of `sep` from the left, keeping empty pieces. -/
def cutAt (sep : List Char) (text : List Char) : List (List Char) :=
  go text []
where
  /-- `piece` holds the current piece reversed. -/
  go : List Char → List Char → List (List Char)
    | [], piece => [piece.reverse]
    | c :: rest, piece =>
      if sep ≠ [] ∧ sep.isPrefixOf (c :: rest) then
        piece.reverse :: go ((c :: rest).drop sep.length) []
      else go rest (c :: piece)
  termination_by text => text.length
  decreasing_by
    all_goals simp_wf
    · rename_i h
      have hpos : 0 < sep.length := List.length_pos_iff.mpr h.1
      omega

/-- Cuts a key into segments. The empty key has no segments. -/
def split (delimiter : Delimiter) (key : String) : List String :=
  if key.isEmpty then []
  else
    match delimiter with
    | .literal sep => (cutAt sep.toList key.toList).map String.ofList
    | .pattern compiled _ => compiled.split key
    | .flat => [key]

/-- Joins segments with the separator. -/
def join (delimiter : Delimiter) (segments : List String) : String :=
  String.intercalate delimiter.separator segments

/-- Reads an unsigned decimal with an optional `+`, as a count; `none` for anything else. -/
def countOf? (text : List Char) : Option Nat :=
  let digits := match text with
    | '+' :: rest => rest
    | _ => text
  if digits.isEmpty || !digits.all Char.isDigit then none
  else
    let value := digits.foldl (fun acc c => acc * 10 + (c.toNat - '0'.toNat)) 0
    if value < Nat.pow 2 64 then some value else none

/-- Removes White_Space characters from both ends. -/
def trimBlank (text : List Char) : List Char :=
  ((text.dropWhile isWhiteSpace).reverse.dropWhile isWhiteSpace).reverse

/-- The characters after the closing `]` of a class, honouring escapes. -/
def skipClass : List Char → Bool → List Char
  | [], _ => []
  | c :: rest, escaped =>
    if escaped then skipClass rest false
    else if c == '\\' then skipClass rest true
    else if c == ']' then rest
    else skipClass rest false

theorem skipClass_length_le : ∀ (text : List Char) (escaped : Bool),
    (skipClass text escaped).length ≤ text.length
  | [], _ => by simp [skipClass]
  | c :: rest, escaped => by
    have := skipClass_length_le rest false
    have := skipClass_length_le rest true
    unfold skipClass
    split <;> (try split) <;> (try split) <;> simp <;> omega

/-- The separator read off a pattern text: its first alternative as literal text; empty for none. -/
def primarySeparator (pattern : String) : String :=
  String.ofList (go pattern.toList [] |>.getD []).reverse
where
  /-- `out` holds the separator so far, reversed; `none` means no separator. -/
  go : List Char → List Char → Option (List Char)
    | [], out => some out
    | '\\' :: rest, out =>
      match rest with
      | [] => some out
      | c :: more => go more (c :: out)
    | '|' :: _, out => some out
    | '[' :: rest, out =>
      match rest with
      | [] => none
      | '^' :: _ => none
      | ']' :: _ => none
      | '\\' :: more =>
        match more with
        | [] => go (skipClass [] false) out
        | c :: after => go (skipClass after false) (c :: out)
      | c :: more => go (skipClass more false) (c :: out)
    | '\x7b' :: rest, out =>
      let bounds := rest.takeWhile (· != '\x7d')
      let after := (rest.dropWhile (· != '\x7d')).drop 1
      let firstPart := bounds.takeWhile (· != ',')
      let count := (countOf? (trimBlank firstPart)).getD 1
      match out with
      | [] => none
      | last :: earlier => go after (List.replicate count last ++ earlier)
    | '*' :: rest, out => go rest out.tail
    | '?' :: rest, out => go rest out.tail
    | c :: rest, out =>
      if c == '(' || c == ')' || c == ']' || c == '^' || c == '$' || c == '+' then go rest out
      else go rest (c :: out)
  termination_by text => text.length
  decreasing_by
    all_goals simp_wf
    all_goals first
      | omega
      | (have hlen := skipClass_length_le more false; omega)
      | (have hlen := skipClass_length_le after false; omega)
      | (have hlen := skipClass_length_le ([] : List Char) false; simp_all; done)
      | (have h1 : (rest.dropWhile (· != '\x7d')).length ≤ rest.length :=
           (List.dropWhile_suffix _).length_le
         omega)

/-- Whether a pattern matches no empty text and cuts `join` into exactly two empty pieces. -/
def splitsExactly (compiled : Compiled) (join : String) : Bool :=
  !compiled.isMatch "" && compiled.split join == ["", ""]

/-- Reads a delimiter specification. -/
def parse (text : String) : Except NamingError Delimiter :=
  if text.isEmpty then .error (.config "delimiter must not be empty")
  else if text == "flat" then .ok .flat
  else if !text.toList.any metaCharacters.contains then .ok (.literal text)
  else
    match Compiled.ofString text with
    | .error _ => .error (.config ("invalid delimiter pattern '" ++ text ++ "'"))
    | .ok compiled =>
      let join := primarySeparator text
      if join.isEmpty || !splitsExactly compiled join then
        .error (.config ("delimiter pattern '" ++ text ++ "' has no literal separator"))
      else .ok (.pattern compiled join)

/-- The default delimiter, a full stop. -/
def default : Delimiter := .literal "."

end Delimiter

end NamingDirectory
