import Mathlib
import NamingDirectory.Format.Properties

/-!
Flat `key=value` text reads back the pairs a writer lays out (`read_render`).
-/

namespace NamingDirectory

section Lines

/-- A line without the carriage return at its end, if it has one. -/
def dropReturn (line : String) : String :=
  if line.toList.getLast? = some '\r' then String.ofList line.toList.dropLast else line

/-- The lines the reader sees: a line a feed ends loses its carriage return, an empty last line goes. -/
def linesOf : List String → List String
  | [] => []
  | [line] => if line = "" then [] else [line]
  | line :: next :: more => dropReturn line :: linesOf (next :: more)

/-- The pieces of a text between feeds, less an empty last one. -/
def linePieces (chars : List Char) : List (List Char) :=
  if (chars.splitOn '\n').getLast? == some [] then (chars.splitOn '\n').dropLast
  else chars.splitOn '\n'

theorem endsWith_feed_iff (text : String) :
    text.endsWith "\n" = true ↔ text.toList.getLast? = some '\n' := by
  rw [String.endsWith_eq_endsWith_toSlice, String.Slice.endsWith_string_iff,
    List.getLast?_eq_some_iff]
  simp [List.IsSuffix, eq_comm]

theorem endsWith_feed_append_feed (a b : String) :
    (a ++ "\n" ++ b).endsWith "\n" = (b.isEmpty || b.endsWith "\n") := by
  apply Bool.eq_iff_iff.mpr
  rw [Bool.or_eq_true, endsWith_feed_iff, endsWith_feed_iff, String.isEmpty_iff]
  cases chars : b.toList with
  | nil => simp [String.toList_eq_nil_iff.mp chars]
  | cons c rest =>
    have filled : b ≠ "" := fun empty => by simp [empty] at chars
    simp [chars, filled, List.getLast?_append]

/-- Only the empty text has no pieces. -/
theorem linePieces_eq_nil_iff (chars : List Char) : linePieces chars = [] ↔ chars = [] := by
  constructor
  · intro none
    have whole : ['\n'].intercalate (chars.splitOn '\n') = chars := List.intercalate_splitOn '\n'
    have nonempty := List.splitOn_ne_nil '\n' chars
    simp only [linePieces] at none
    split at none
    · next last =>
      obtain ⟨init, split⟩ : ∃ init, chars.splitOn '\n' = init ++ [[]] := by
        simpa [List.getLast?_eq_some_iff] using last
      rw [split, List.dropLast_concat] at none
      rw [split, none] at whole
      simpa using whole.symm
    · exact absurd none nonempty
  · rintro rfl
    simp [linePieces, List.splitOn_nil]

theorem linePieces_append_feed {a : List Char} (line : '\n' ∉ a) (b : List Char) :
    linePieces (a ++ '\n' :: b) = a :: linePieces b := by
  have split := List.splitOn_append_cons_self_of_not_mem line b
  have nonempty := List.splitOn_ne_nil '\n' b
  simp only [linePieces, split, List.getLast?_cons_of_ne_nil nonempty,
    List.dropLast_cons_of_ne_nil nonempty]
  split <;> rfl

/-- A first line without a feed is cut off whole, its carriage return dropped. -/
theorem lines_append_feed {a : String} (line : '\n' ∉ a.toList) (b : String) :
    lines (a ++ "\n" ++ b) = dropReturn a :: lines b := by
  have chars : (a ++ "\n" ++ b).toList = a.toList ++ '\n' :: b.toList := by simp
  have cut := linePieces_append_feed line b.toList
  have rest := linePieces_eq_nil_iff b.toList
  simp only [linePieces] at cut rest
  unfold lines
  dsimp only
  rw [chars, cut, endsWith_feed_append_feed, List.zipIdx_cons, List.zipIdx_succ, List.map_cons,
    List.map_map, List.map_cons]
  generalize (if ((List.splitOn '\n' b.toList).getLast? == some []) = true then
    (List.splitOn '\n' b.toList).dropLast else List.splitOn '\n' b.toList) = later at rest ⊢
  have ended : (decide (0 + 1 < (a.toList :: later).length) || (b.isEmpty || b.endsWith "\n")) =
      true := by
    by_cases empty : b = ""
    · simp [empty]
    · have more : later ≠ [] := fun none => empty (String.toList_eq_nil_iff.mp (rest.mp none))
      simp [List.length_pos_iff.mpr more]
  congr 1
  · simp only [ended, if_true, dropReturn, beq_iff_eq]
    split <;> simp
  · congr 1
    apply List.map_congr_left
    rintro ⟨piece, index⟩ mem
    have filled : b.isEmpty = false := by
      rw [String.isEmpty_eq_false_iff]
      intro empty
      rw [rest.mpr (by simp [empty])] at mem
      cases mem
    simp [filled]

/-- A text without a feed is one line, or none when it is empty. -/
theorem lines_of_feed_free {line : String} (free : '\n' ∉ line.toList) :
    lines line = if line = "" then [] else [line] := by
  have single : line.toList.splitOn '\n' = [line.toList] := List.splitOn_eq_singleton free
  have unended : line.endsWith "\n" = false := by
    rw [Bool.eq_false_iff, ne_eq, endsWith_feed_iff]
    exact fun last => free (List.mem_of_getLast? last)
  unfold lines
  dsimp only
  rw [single, unended]
  by_cases empty : line = ""
  · subst empty
    simp
  · have chars : line.toList ≠ [] := fun none => empty (String.toList_eq_nil_iff.mp none)
    simp [chars, empty]

/-- Lines joined by feeds are read back as `linesOf` sees them. -/
theorem lines_intercalate : ∀ (ls : List String), (∀ l ∈ ls, '\n' ∉ l.toList) →
    lines ("\n".intercalate ls) = linesOf ls
  | [], _ => by
    rw [String.intercalate_nil, lines_of_feed_free (by simp)]
    simp [linesOf]
  | [line], free => by
    rw [String.intercalate_singleton, lines_of_feed_free (free line (by simp)), linesOf]
  | line :: next :: more, free => by
    rw [String.intercalate_cons_cons, lines_append_feed (free line (by simp)),
      lines_intercalate (next :: more) fun l mem => free l (List.mem_cons_of_mem _ mem), linesOf]

theorem linesOf_cons {more : List String} (filled : more ≠ []) (line : String) :
    linesOf (line :: more) = dropReturn line :: linesOf more := by
  obtain ⟨next, more, rfl⟩ := List.exists_cons_of_ne_nil filled
  rfl

/-- Lines followed by more lines all lose their carriage returns. -/
theorem linesOf_append (ls : List String) {more : List String} (filled : more ≠ []) :
    linesOf (ls ++ more) = ls.map dropReturn ++ linesOf more := by
  induction ls with
  | nil => rfl
  | cons line ls ih =>
    rw [List.cons_append, linesOf_cons (by simp [filled]), ih, List.map_cons, List.cons_append]

end Lines

namespace Properties

open Unicode

section Blanks

/-- Blanks within a line: White_Space other than the feed. -/
def Blank (text : String) : Prop := ∀ c ∈ text.toList, isWhiteSpace c = true ∧ c ≠ '\n'

instance : DecidablePred Blank := fun text =>
  decidable_of_iff (text.toList.all fun c => isWhiteSpace c && c != '\n') (by simp [Blank])

/-- Blanks before a piece that starts with no blank are what trimming the start removes. -/
theorem trimStart_append {indent piece : String}
    (blank : ∀ c ∈ indent.toList, isWhiteSpace c = true)
    (unindented : ∀ c ∈ piece.toList.head?, isWhiteSpace c = false) :
    trimStart (indent ++ piece) = piece := by
  have kept : piece.toList.dropWhile isWhiteSpace = piece.toList := by
    cases chars : piece.toList with
    | nil => rfl
    | cons c rest => exact List.dropWhile_cons_of_neg (by simp [unindented c (by simp [chars])])
  rw [trimStart, String.toList_append, List.dropWhile_append_of_pos blank, kept,
    String.ofList_toList]

/-- Blanks trim at the start to nothing. -/
theorem trimStart_of_blanks {text : String} (blank : ∀ c ∈ text.toList, isWhiteSpace c = true) :
    trimStart text = "" := by
  have whole : trimStart (text ++ "") = "" := trimStart_append blank (by simp)
  rwa [String.append_empty] at whole

theorem toList_trim (s : String) :
    (trim s).toList =
      ((s.toList.dropWhile isWhiteSpace).reverse.dropWhile isWhiteSpace).reverse := by
  simp [trim, trimStart, trimEnd]

/-- A trimmed text starts and ends with no White_Space. -/
theorem trim_ends (s : String) :
    (∀ c ∈ (trim s).toList.head?, isWhiteSpace c = false) ∧
      ∀ c ∈ (trim s).toList.getLast?, isWhiteSpace c = false := by
  rw [toList_trim]
  set front := s.toList.dropWhile isWhiteSpace
  set kept := front.reverse.dropWhile isWhiteSpace
  constructor
  · -- what is kept is a prefix of `front`, whose first character is no blank
    intro c first
    rw [List.head?_reverse, Option.mem_def, List.getLast?_eq_some_iff] at first
    obtain ⟨init, whole⟩ := first
    have prefix_ : kept.reverse <+: front := by
      have suffix : kept <:+ front.reverse := List.dropWhile_suffix isWhiteSpace
      simpa using suffix.reverse
    have filled : kept.reverse ≠ [] := by simp [whole]
    have same := prefix_.head filled
    have head : kept.reverse.head filled = c := by simp [whole]
    rw [head] at same
    rw [same]
    exact List.head_dropWhile_not isWhiteSpace _
  · intro c last
    rw [List.getLast?_reverse] at last
    have ended := List.head?_dropWhile_not isWhiteSpace front.reverse
    rw [Option.mem_def] at last
    simp only [kept] at last
    rw [last] at ended
    exact ended

/-- A text is its own trim exactly when it starts and ends with no White_Space. -/
theorem trim_eq_self_iff (s : String) :
    trim s = s ↔ (∀ c ∈ s.toList.head?, isWhiteSpace c = false) ∧
      ∀ c ∈ s.toList.getLast?, isWhiteSpace c = false := by
  constructor
  · intro same
    rw [← same]
    exact trim_ends s
  · rintro ⟨front, back⟩
    have start : s.toList.dropWhile isWhiteSpace = s.toList := by
      cases chars : s.toList with
      | nil => rfl
      | cons c rest => exact List.dropWhile_cons_of_neg (by simp [front c (by simp [chars])])
    have finish : s.toList.reverse.dropWhile isWhiteSpace = s.toList.reverse := by
      cases chars : s.toList.reverse with
      | nil => rfl
      | cons c rest =>
        have last : c ∈ s.toList.getLast? := by simp [← List.head?_reverse, chars]
        exact List.dropWhile_cons_of_neg (by simp [back c last])
    apply String.toList_injective
    rw [toList_trim, start, finish, List.reverse_reverse]

/-- Blanks trim to nothing. -/
theorem trim_of_blank {text : String} (blank : ∀ c ∈ text.toList, isWhiteSpace c = true) :
    trim text = "" := by
  apply String.toList_injective
  rw [toList_trim, List.dropWhile_eq_nil_iff.mpr blank]
  rfl

/-- Blanks at the end do not change the trim. -/
theorem trim_append_blanks (s : String) {blanks : String}
    (blank : ∀ c ∈ blanks.toList, isWhiteSpace c = true) : trim (s ++ blanks) = trim s := by
  apply String.toList_injective
  rw [toList_trim, toList_trim, String.toList_append, List.dropWhile_append]
  split
  · next gone =>
    rw [List.dropWhile_eq_nil_iff.mpr blank, List.isEmpty_iff.mp gone]
  · rw [List.reverse_append, List.dropWhile_append_of_pos (by simpa using blank)]

end Blanks

section Backslashes

/-- Text before a character that is no backslash does not count for going on. -/
theorem continues_append {a : String} (ended : a.toList.getLast? ≠ some '\\') (b : String) :
    continues (a ++ b) = continues b := by
  have none : a.toList.reverse.takeWhile (· == '\\') = [] := by
    cases chars : a.toList.reverse with
    | nil => rfl
    | cons c rest =>
      have last : a.toList.getLast? = some c := by simp [← List.head?_reverse, chars]
      have other : c ≠ '\\' := fun same => ended (same ▸ last)
      simp [other]
  unfold continues
  rw [String.toList_append, List.reverse_append, List.takeWhile_append, none, List.append_nil]
  split
  · next whole => rw [whole]
  · rfl

theorem continues_of_getLast {s : String} (ended : s.toList.getLast? ≠ some '\\') :
    continues s = false := by
  have whole := continues_append ended ""
  rw [String.append_empty] at whole
  rw [whole]
  rfl

/-- A backslash more turns the parity. -/
theorem continues_append_backslash (s : String) : continues (s ++ "\\") = !continues s := by
  unfold continues
  have chars : (s ++ "\\").toList.reverse = '\\' :: s.toList.reverse := by simp
  rw [chars, List.takeWhile_cons_of_pos (by decide), List.length_cons]
  rcases Nat.mod_two_eq_zero_or_one (s.toList.reverse.takeWhile (· == '\\')).length with even | odd
  · simp [Nat.add_mod, even]
  · simp [Nat.add_mod, odd]

/-- The backslash that makes a line go on is dropped from it. -/
theorem chop_append_backslash (line : String) :
    String.ofList (line ++ "\\").toList.dropLast = line := by
  simp

/-- A line of blanks does not go on. -/
theorem continues_of_blanks {text : String} (blank : ∀ c ∈ text.toList, isWhiteSpace c = true) :
    continues text = false := by
  apply continues_of_getLast
  intro last
  have backslash := blank '\\' (List.mem_of_getLast? last)
  exact absurd backslash (by decide)

end Backslashes

section Returns

/-- A line ends in no carriage return when its end holds none. -/
theorem getLast?_append_ne_return {a b : String} (plain : '\r' ∉ b.toList)
    (ended : b = "" → a.toList.getLast? ≠ some '\r') :
    (a ++ b).toList.getLast? ≠ some '\r' := by
  rcases List.eq_nil_or_concat b.toList with empty | ⟨init, c, chars⟩
  · simpa [empty] using ended (String.toList_eq_nil_iff.mp empty)
  · have other : c ≠ '\r' := fun same => plain (by simp [chars, same])
    simp [chars, other]

theorem dropReturn_of_getLast {line : String} (ended : line.toList.getLast? ≠ some '\r') :
    dropReturn line = line := by
  simp [dropReturn, ended]

theorem dropReturn_append_backslash (line : String) : dropReturn (line ++ "\\") = line ++ "\\" :=
  dropReturn_of_getLast (by simp)

theorem mem_of_mem_dropReturn {line : String} {c : Char} (mem : c ∈ (dropReturn line).toList) :
    c ∈ line.toList := by
  unfold dropReturn at mem
  split at mem
  · simp only [String.toList_ofList] at mem
    exact List.mem_of_mem_dropLast mem
  · exact mem

theorem blanks_dropReturn {text : String} (blank : ∀ c ∈ text.toList, isWhiteSpace c = true) :
    ∀ c ∈ (dropReturn text).toList, isWhiteSpace c = true :=
  fun c inside => blank c (mem_of_mem_dropReturn inside)

/-- The last line of a value reads as its piece, with or without its carriage return. -/
theorem trimStart_dropReturn {indent piece : String}
    (blank : ∀ c ∈ indent.toList, isWhiteSpace c = true)
    (unindented : ∀ c ∈ piece.toList.head?, isWhiteSpace c = false)
    (unreturned : '\r' ∉ piece.toList) : trimStart (dropReturn (indent ++ piece)) = piece := by
  by_cases empty : piece = ""
  · subst empty
    rw [String.append_empty, trimStart_of_blanks (blanks_dropReturn blank)]
  · rw [dropReturn_of_getLast (getLast?_append_ne_return unreturned (absurd · empty)),
      trimStart_append blank unindented]

theorem trim_dropReturn (text : String) : trim (dropReturn text) = trim text := by
  unfold dropReturn
  split
  · next last =>
    obtain ⟨init, chars⟩ := List.getLast?_eq_some_iff.mp last
    have whole : text = String.ofList text.toList.dropLast ++ "\r" := by
      apply String.toList_injective
      simp [chars]
    conv => rhs; rw [whole]
    rw [trim_append_blanks _ (by simp; decide)]
  · rfl

end Returns

section Joining

/-- A line that does not go on is a logical line of its own. -/
theorem logicalLines_of_ends {line : String} (ends : continues line = false) (rest : List String) :
    logicalLines none (line :: rest) = line :: logicalLines none rest := by
  rw [logicalLines]
  simp [ends]

/-- A line that goes on leaves its text, less the backslash, pending. -/
theorem logicalLines_of_goesOn {line : String} (goesOn : continues line = true)
    (rest : List String) :
    logicalLines none (line :: rest) =
      logicalLines (some (String.ofList line.toList.dropLast)) rest := by
  rw [logicalLines]
  simp [goesOn]

/-- A continuation line that does not go on ends the pending line with its trimmed text. -/
theorem logicalLines_pending_of_ends {acc raw : String} (ends : continues (trimStart raw) = false)
    (rest : List String) :
    logicalLines (some acc) (raw :: rest) = (acc ++ trimStart raw) :: logicalLines none rest := by
  rw [logicalLines]
  simp [ends]

/-- A continuation line that goes on adds its trimmed text, less the backslash. -/
theorem logicalLines_pending_of_goesOn {acc raw : String}
    (goesOn : continues (trimStart raw) = true) (rest : List String) :
    logicalLines (some acc) (raw :: rest) =
      logicalLines (some (acc ++ String.ofList (trimStart raw).toList.dropLast)) rest := by
  rw [logicalLines]
  simp [goesOn]

end Joining

section Entries

/-- A blank logical line gives no entry. -/
theorem entry?_of_blank {text : String} (blank : ∀ c ∈ text.toList, isWhiteSpace c = true) :
    entry? text = none := by
  unfold entry?
  simp [trim_of_blank blank]

/-- A comment gives no entry. -/
theorem entry?_of_comment {text : String}
    (marked : (trim text).startsWith "#" ∨ (trim text).startsWith "!") : entry? text = none := by
  unfold entry?
  rcases marked with hash | bang <;> simp [*]

/-- A text that does not start with a mark no longer than it does not once more text follows. -/
theorem startsWith_append_of_not {key mark : String}
    (fits : mark.toList.length ≤ key.toList.length) (unmarked : ¬ key.startsWith mark)
    (more : String) :
    (key ++ more).startsWith mark = false := by
  rw [String.startsWith_string_iff] at unmarked
  rw [String.startsWith_string_eq_false_iff, String.toList_append]
  exact fun marked =>
    unmarked (List.prefix_of_prefix_length_le marked (List.prefix_append _ _) fits)

/-- A plain key, `=` and a trimmed value give that key and value. -/
theorem entry?_key_value {key value : String} (filled : key ≠ "") (keyTrimmed : trim key = key)
    (plain : ∀ c ∈ key.toList, c ≠ '=' ∧ c ≠ ':')
    (unmarked : ¬ key.startsWith "#" ∧ ¬ key.startsWith "!")
    (valueTrimmed : trim value = value) :
    entry? (key ++ "=" ++ value) = some (key, value) := by
  obtain ⟨k, ks, chars⟩ := List.exists_cons_of_ne_nil (mt String.toList_eq_nil_iff.mp filled)
  have keyEnds := (trim_eq_self_iff key).mp keyTrimmed
  have valueEnds := (trim_eq_self_iff value).mp valueTrimmed
  have line : trim (key ++ "=" ++ value) = key ++ "=" ++ value := by
    rw [trim_eq_self_iff]
    constructor
    · intro c first
      simp only [String.toList_append, chars, List.cons_append, List.head?_cons,
        Option.mem_def, Option.some.injEq] at first
      exact first ▸ keyEnds.1 k (by simp [chars])
    · intro c last
      rw [Option.mem_def, String.toList_append, List.getLast?_append] at last
      cases ending : value.toList.getLast? with
      | none =>
        simp [ending] at last
        exact last ▸ rfl
      | some v =>
        rw [ending, Option.some_or, Option.some.injEq] at last
        exact last ▸ valueEnds.2 v ending
  have span : (key ++ "=" ++ value).toList.span (fun c => c != '=' && c != ':') =
      (key.toList, '=' :: value.toList) := by
    have passes : ∀ c ∈ key.toList, (c != '=' && c != ':') = true := fun c mem => by
      simp [(plain c mem).1, (plain c mem).2]
    rw [List.span_eq_takeWhile_dropWhile, String.toList_append, String.toList_append,
      List.append_assoc, List.takeWhile_append_of_pos passes, List.dropWhile_append_of_pos passes]
    simp
  have fits (mark : String) (single : mark.toList.length = 1) :
      mark.toList.length ≤ key.toList.length := by
    simp [single, chars]
  have unhashed := startsWith_append_of_not (fits "#" rfl) unmarked.1 ("=" ++ value)
  have unbanged := startsWith_append_of_not (fits "!" rfl) unmarked.2 ("=" ++ value)
  rw [← String.append_assoc] at unhashed unbanged
  unfold entry?
  dsimp only
  rw [line, span]
  simp [unhashed, unbanged, keyTrimmed, valueTrimmed, filled]

end Entries

section Ending

/-- A line of blanks at the end of a text gives no entry. -/
theorem filterMap_logicalLines_append_blank (pending : Option String) (ls : List String)
    {w : String} (blank : ∀ c ∈ w.toList, isWhiteSpace c = true) :
    (logicalLines pending (ls ++ [w])).filterMap entry? =
      (logicalLines pending ls).filterMap entry? := by
  have trimmed := trimStart_of_blanks blank
  induction ls generalizing pending with
  | nil =>
    cases pending with
    | none =>
      rw [List.nil_append, logicalLines_of_ends (continues_of_blanks blank)]
      simp [entry?_of_blank blank, logicalLines]
    | some acc =>
      rw [List.nil_append, logicalLines_pending_of_ends (by rw [trimmed]; rfl), trimmed]
      simp [logicalLines]
  | cons x ls ih =>
    rw [List.cons_append]
    cases pending with
    | none =>
      cases ends : continues x
      · rw [logicalLines_of_ends ends, logicalLines_of_ends ends]
        simp only [List.filterMap_cons, ih]
      · rw [logicalLines_of_goesOn ends, logicalLines_of_goesOn ends]
        exact ih _
    | some acc =>
      cases ends : continues (trimStart x)
      · rw [logicalLines_pending_of_ends ends, logicalLines_pending_of_ends ends]
        simp only [List.filterMap_cons, ih]
      · rw [logicalLines_pending_of_goesOn ends, logicalLines_pending_of_goesOn ends]
        exact ih _

/-- Dropping a carriage return or an empty last line keeps the entries when that line is plain. -/
theorem filterMap_logicalLines_linesOf {ls : List String}
    (final : ∀ last ∈ ls.getLast?,
      (dropReturn last = last ∧ last ≠ "") ∨ ∀ c ∈ last.toList, isWhiteSpace c = true) :
    (logicalLines none (linesOf ls)).filterMap entry? =
      (logicalLines none (ls.map dropReturn)).filterMap entry? := by
  rcases List.eq_nil_or_concat ls with empty | ⟨init, last, whole⟩
  · subst empty
    rfl
  · rw [List.concat_eq_append] at whole
    subst whole
    rw [linesOf_append init (List.cons_ne_nil last []), List.map_append, List.map_singleton]
    rcases final last (by simp) with ⟨kept, filled⟩ | blank
    · rw [linesOf, if_neg filled, kept]
    · rw [filterMap_logicalLines_append_blank none _ (blanks_dropReturn blank), linesOf]
      split
      · rw [List.append_nil]
      · rw [filterMap_logicalLines_append_blank none _ blank]

end Ending

section Layout

/-- Lines that go on: every line but the last gets a backslash, later lines their indentation. -/
def continued (line : String) : List (String × String) → List String
  | [] => [line]
  | next :: more => (line ++ "\\") :: continued (next.1 ++ next.2) more

/-- A pair as a writer lays it out: the key, the first piece of the value, and the later pieces. -/
structure Entry where
  key : String
  first : String
  later : List (String × String)
  deriving Repr, DecidableEq

namespace Entry

/-- The value the pieces make. -/
def value (e : Entry) : String := e.first ++ String.join (e.later.map Prod.snd)

/-- The pieces of the value in order. -/
def pieces (e : Entry) : List String := e.first :: e.later.map Prod.snd

/-- The physical lines of the pair. -/
def lines (e : Entry) : List String := continued (e.key ++ "=" ++ e.first) e.later

/-- What a writer may write: plain trimmed key and value, and cuts the reader joins back. -/
structure Valid (e : Entry) : Prop where
  key_filled : e.key ≠ ""
  key_trimmed : trim e.key = e.key
  key_plain : ∀ c ∈ e.key.toList, c ≠ '=' ∧ c ≠ ':' ∧ c ≠ '\n' ∧ c ≠ '\r'
  key_unmarked : ¬ e.key.startsWith "#" ∧ ¬ e.key.startsWith "!"
  value_trimmed : trim e.value = e.value
  value_plain : ∀ c ∈ e.value.toList, c ≠ '\n' ∧ c ≠ '\r'
  value_even : continues e.value = false
  cuts : ∀ piece ∈ e.pieces.dropLast, piece.toList.getLast? ≠ some '\\'
  indented : ∀ next ∈ e.later, Blank next.1
  unindented : ∀ next ∈ e.later, ∀ c ∈ next.2.toList.head?, isWhiteSpace c = false

/-- Validity as a check that evaluates. -/
def isValid (e : Entry) : Bool :=
  e.key != "" && trim e.key == e.key &&
    (e.key.toList.all fun c => c != '=' && c != ':' && c != '\n' && c != '\r') &&
    !"#".toList.isPrefixOf e.key.toList && !"!".toList.isPrefixOf e.key.toList &&
    trim e.value == e.value && (e.value.toList.all fun c => c != '\n' && c != '\r') &&
    !continues e.value && (e.pieces.dropLast.all fun piece => piece.toList.getLast? != some '\\') &&
    (e.later.all fun next => next.1.toList.all fun c => isWhiteSpace c && c != '\n') &&
    e.later.all fun next => next.2.toList.head?.all fun c => !isWhiteSpace c

theorem isValid_iff (e : Entry) : e.isValid = true ↔ e.Valid := by
  have unmarked (mark : String) :
      (!mark.toList.isPrefixOf e.key.toList) = true ↔ ¬ e.key.startsWith mark := by
    rw [String.startsWith_string_iff, ← List.isPrefixOf_iff_prefix]
    cases mark.toList.isPrefixOf e.key.toList <;> simp
  simp only [isValid, Bool.and_eq_true, unmarked, bne_iff_ne, ne_eq, beq_iff_eq, List.all_eq_true,
    Bool.not_eq_true', Option.all_eq_true, and_assoc]
  exact ⟨fun ⟨a, b, c, d, d', f, g, h, i, j, k⟩ =>
      ⟨a, b, c, ⟨d, d'⟩, f, g, h, i, j, k⟩,
    fun v => ⟨v.1, v.2, v.3, v.4.1, v.4.2, v.5, v.6, v.7, v.8, v.9, v.10⟩⟩

instance (e : Entry) : Decidable e.Valid := decidable_of_iff _ e.isValid_iff

end Entry

/-- A line of a properties text as a writer lays it out: a pair, a blank line, or a comment line. -/
inductive Block where
  | entry (e : Entry)
  | blank (text : String)
  | comment (text : String)
  deriving Repr, DecidableEq

namespace Block

/-- The physical lines of a block. -/
def lines : Block → List String
  | .entry e => e.lines
  | .blank text => [text]
  | .comment text => [text]

/-- The pair a block writes, if any. -/
def pair? : Block → Option (String × String)
  | .entry e => some (e.key, e.value)
  | .blank _ => none
  | .comment _ => none

/-- What a writer may write; a comment must not go on once its carriage return is dropped. -/
def Valid : Block → Prop
  | .entry e => e.Valid
  | .blank text => Blank text
  | .comment text => '\n' ∉ text.toList ∧
      ((trim text).startsWith "#" ∨ (trim text).startsWith "!") ∧
      continues (dropReturn text) = false

instance : DecidablePred Valid
  | .entry e => inferInstanceAs (Decidable e.Valid)
  | .blank text => inferInstanceAs (Decidable (Blank text))
  | .comment text => decidable_of_iff ('\n' ∉ text.toList ∧
      ("#".toList <+: (trim text).toList ∨ "!".toList <+: (trim text).toList) ∧
      continues (dropReturn text) = false) <| by
    simp only [Valid, String.startsWith_string_iff]

end Block

/-- The text of a layout: its lines joined by feeds. -/
def render (blocks : List Block) : String := "\n".intercalate (blocks.flatMap Block.lines)

end Layout

section Reading

/-- Later pieces of a value: blank indentation, no leading blank, only the last without a backslash. -/
structure LaterCuts (later : List (String × String)) : Prop where
  indented : ∀ next ∈ later, ∀ c ∈ next.1.toList, isWhiteSpace c = true
  unindented : ∀ next ∈ later, ∀ c ∈ next.2.toList.head?, isWhiteSpace c = false
  unreturned : ∀ next ∈ later, '\r' ∉ next.2.toList
  cut : ∀ next ∈ later.dropLast, next.2.toList.getLast? ≠ some '\\'

theorem LaterCuts.tail {next second : String × String} {more : List (String × String)}
    (cuts : LaterCuts (next :: second :: more)) : LaterCuts (second :: more) where
  indented x mem := cuts.indented x (List.mem_cons_of_mem _ mem)
  unindented x mem := cuts.unindented x (List.mem_cons_of_mem _ mem)
  unreturned x mem := cuts.unreturned x (List.mem_cons_of_mem _ mem)
  cut x mem := cuts.cut x (by simp only [List.dropLast_cons_cons]; exact List.mem_cons_of_mem _ mem)

/-- A value's later lines join onto the pending line, each adding its piece less the backslash. -/
theorem logicalLines_continued (acc indent piece : String) (more : List (String × String))
    (rest : List String) (cuts : LaterCuts ((indent, piece) :: more))
    (even : continues (piece ++ String.join (more.map Prod.snd)) = false) :
    logicalLines (some acc) ((continued (indent ++ piece) more).map dropReturn ++ rest) =
      (acc ++ piece ++ String.join (more.map Prod.snd)) :: logicalLines none rest := by
  have blank := cuts.indented (indent, piece) List.mem_cons_self
  have unindented := cuts.unindented (indent, piece) List.mem_cons_self
  induction more generalizing acc indent piece with
  | nil =>
    have read := trimStart_dropReturn blank unindented (cuts.unreturned _ List.mem_cons_self)
    simp only [List.map_nil, String.join_nil, String.append_empty] at even ⊢
    rw [continued, List.map_cons, List.map_nil, List.cons_append, List.nil_append,
      logicalLines_pending_of_ends (by rw [read]; exact even), read]
  | cons next more ih =>
    have ended := cuts.cut (indent, piece) (by simp)
    have read : trimStart (indent ++ piece ++ "\\") = piece ++ "\\" := by
      rw [String.append_assoc, trimStart_append blank]
      intro c first
      cases chars : piece.toList with
      | nil => simp [chars] at first; exact first ▸ rfl
      | cons d ds => exact unindented c (by simp_all)
    have goesOn : continues (trimStart (indent ++ piece ++ "\\")) = true := by
      rw [read, continues_append_backslash, continues_of_getLast ended]
      rfl
    simp only [List.map_cons, String.join_cons] at even ⊢
    rw [continues_append ended] at even
    rw [continued, List.map_cons, dropReturn_append_backslash, List.cons_append,
      logicalLines_pending_of_goesOn goesOn, read]
    rw [chop_append_backslash, ih (acc ++ piece) next.1 next.2 cuts.tail even
      (cuts.tail.indented next List.mem_cons_self) (cuts.tail.unindented next List.mem_cons_self)]
    simp only [String.append_assoc]

theorem Entry.mem_value_of_first {e : Entry} {c : Char} (inside : c ∈ e.first.toList) :
    c ∈ e.value.toList := by
  simp [Entry.value, inside]

theorem Entry.mem_value_of_later {e : Entry} {next : String × String} (mem : next ∈ e.later)
    {c : Char} (inside : c ∈ next.2.toList) : c ∈ e.value.toList := by
  simp only [Entry.value, String.toList_append, String.toList_join, List.mem_append,
    List.mem_flatMap, List.mem_map]
  exact .inr ⟨next.2, ⟨next, mem, rfl⟩, inside⟩

theorem Entry.Valid.laterCuts {e : Entry} (valid : e.Valid) : LaterCuts e.later where
  indented next mem c inside := (valid.indented next mem c inside).1
  unindented := valid.unindented
  unreturned next mem inside := (valid.value_plain '\r' (Entry.mem_value_of_later mem inside)).2 rfl
  cut next mem := by
    apply valid.cuts next.2
    cases later : e.later with
    | nil => simp [later] at mem
    | cons first more =>
      rw [later] at mem
      simp only [Entry.pieces, later, List.map_cons, List.dropLast_cons_cons]
      apply List.mem_cons_of_mem
      rw [← List.map_cons, ← List.map_dropLast]
      exact List.mem_map_of_mem mem

/-- A pair's lines, with or without their carriage returns, join into `key=value`. -/
theorem logicalLines_entry {e : Entry} (valid : e.Valid) (rest : List String) :
    logicalLines none (e.lines.map dropReturn ++ rest) =
      (e.key ++ "=" ++ e.value) :: logicalLines none rest := by
  have cuts := valid.laterCuts
  obtain ⟨key, first, later⟩ := e
  have marked : (key ++ "=").toList.getLast? ≠ some '\\' := by simp
  cases later with
  | nil =>
    have whole : Entry.value ⟨key, first, []⟩ = first := by simp [Entry.value]
    have ended : (key ++ "=" ++ first).toList.getLast? ≠ some '\r' :=
      getLast?_append_ne_return
        (fun held => (valid.value_plain _ (Entry.mem_value_of_first held)).2 rfl) (by simp)
    have ends : continues (key ++ "=" ++ first) = false := by
      rw [continues_append marked, ← whole]
      exact valid.value_even
    simp only [Entry.lines, continued, List.map_cons, List.map_nil, List.cons_append,
      List.nil_append, dropReturn_of_getLast ended, logicalLines_of_ends ends, whole]
  | cons next more =>
    have firstEnded : first.toList.getLast? ≠ some '\\' :=
      valid.cuts first (by simp [Entry.pieces])
    have goesOn : continues (key ++ "=" ++ first ++ "\\") = true := by
      rw [continues_append_backslash, continues_append marked, continues_of_getLast firstEnded]
      rfl
    have even : continues (next.2 ++ String.join (more.map Prod.snd)) = false := by
      have whole := valid.value_even
      simp only [Entry.value, List.map_cons, String.join_cons] at whole
      rwa [continues_append firstEnded] at whole
    simp only [Entry.lines, continued, List.map_cons, List.cons_append,
      dropReturn_append_backslash]
    rw [logicalLines_of_goesOn goesOn, chop_append_backslash,
      logicalLines_continued _ next.1 next.2 more rest cuts even]
    simp [Entry.value, String.append_assoc]

/-- Every character of continued lines is a backslash or comes from a line or a piece. -/
theorem mem_continued {line l : String} {more : List (String × String)}
    (mem : l ∈ continued line more) {c : Char} (inside : c ∈ l.toList) :
    c = '\\' ∨ c ∈ line.toList ∨
      ∃ next ∈ more, c ∈ next.1.toList ∨ c ∈ next.2.toList := by
  induction more generalizing line with
  | nil =>
    rw [continued, List.mem_singleton] at mem
    exact .inr (.inl (mem ▸ inside))
  | cons next more ih =>
    rw [continued, List.mem_cons] at mem
    rcases mem with first | later
    · subst first
      simp only [String.toList_append, List.mem_append] at inside
      rcases inside with held | backslash
      · exact .inr (.inl held)
      · exact .inl (by simpa using backslash)
    · rcases ih later with backslash | held | ⟨other, mem, held⟩
      · exact .inl backslash
      · simp only [String.toList_append, List.mem_append] at held
        exact .inr (.inr ⟨next, List.mem_cons_self, held⟩)
      · exact .inr (.inr ⟨other, List.mem_cons_of_mem _ mem, held⟩)

/-- A valid block's lines hold no feed. -/
theorem Block.feed_free {b : Block} (valid : b.Valid) : ∀ l ∈ b.lines, '\n' ∉ l.toList := by
  cases b with
  | entry e =>
    intro l mem held
    rcases mem_continued mem held with backslash | first | ⟨next, later, indent | piece⟩
    · cases backslash
    · simp only [String.toList_append, List.mem_append] at first
      rcases first with (key | equals) | first
      · exact (valid.key_plain '\n' key).2.2.1 rfl
      · simp at equals
      · exact (valid.value_plain '\n' (Entry.mem_value_of_first first)).1 rfl
    · exact (valid.indented next later '\n' indent).2 rfl
    · exact (valid.value_plain '\n' (Entry.mem_value_of_later later piece)).1 rfl
  | blank text =>
    intro l mem held
    rw [lines, List.mem_singleton] at mem
    exact (valid '\n' (mem ▸ held)).2 rfl
  | comment text =>
    intro l mem
    rw [lines, List.mem_singleton] at mem
    exact mem ▸ valid.1

theorem Block.lines_ne_nil (b : Block) : b.lines ≠ [] := by
  cases b with
  | entry e =>
    rw [lines, Entry.lines]
    cases e.later <;> simp [continued]
  | blank text => simp [lines]
  | comment text => simp [lines]

/-- A valid block's lines, each with its carriage return dropped, give the block's pair. -/
theorem Block.filterMap_logicalLines_append {b : Block} (valid : b.Valid) (rest : List String) :
    (logicalLines none (b.lines.map dropReturn ++ rest)).filterMap entry? =
      b.pair?.toList ++ (logicalLines none rest).filterMap entry? := by
  cases b with
  | entry e =>
    have plainKey (c : Char) (held : c ∈ e.key.toList) : c ≠ '=' ∧ c ≠ ':' :=
      ⟨(valid.key_plain c held).1, (valid.key_plain c held).2.1⟩
    rw [lines, logicalLines_entry valid, List.filterMap_cons,
      entry?_key_value valid.key_filled valid.key_trimmed plainKey valid.key_unmarked
        valid.value_trimmed]
    rfl
  | blank text =>
    have blanks := blanks_dropReturn fun c held => (valid c held).1
    rw [lines, List.map_singleton, List.cons_append, List.nil_append,
      logicalLines_of_ends (continues_of_blanks blanks), List.filterMap_cons,
      entry?_of_blank blanks]
    rfl
  | comment text =>
    rw [lines, List.map_singleton, List.cons_append, List.nil_append,
      logicalLines_of_ends valid.2.2, List.filterMap_cons,
      entry?_of_comment (by rw [trim_dropReturn]; exact valid.2.1)]
    rfl

theorem getLast?_continued (line : String) (more : List (String × String)) :
    (continued line more).getLast? =
      some ((more.getLast?.map fun next => next.1 ++ next.2).getD line) := by
  induction more generalizing line with
  | nil => rfl
  | cons next more ih =>
    rw [continued, List.getLast?_cons, ih]
    cases more <;> simp [List.getLast?_cons]

/-- The last line of a pair ends in no carriage return, or is blank. -/
theorem Entry.Valid.lastLine {e : Entry} (valid : e.Valid) :
    ∀ last ∈ e.lines.getLast?,
      (dropReturn last = last ∧ last ≠ "") ∨
        ∀ c ∈ last.toList, isWhiteSpace c = true := by
  intro last found
  rw [Entry.lines, getLast?_continued, Option.mem_def, Option.some.injEq] at found
  cases ending : e.later.getLast? with
  | none =>
    rw [ending, Option.map_none, Option.getD_none] at found
    subst found
    refine .inl ⟨dropReturn_of_getLast (getLast?_append_ne_return ?_ (by simp)), by simp⟩
    exact fun held => (valid.value_plain _ (Entry.mem_value_of_first held)).2 rfl
  | some next =>
    rw [ending, Option.map_some, Option.getD_some] at found
    subst found
    have mem := List.mem_of_getLast? ending
    by_cases empty : next.2 = ""
    · exact .inr fun c held => (valid.indented next mem c (by simpa [empty] using held)).1
    · refine .inl ⟨dropReturn_of_getLast (getLast?_append_ne_return ?_ (absurd · empty)), ?_⟩
      · exact fun held => (valid.value_plain _ (Entry.mem_value_of_later mem held)).2 rfl
      · simp [empty]

/-- A valid block at the end of the text gives the block's pair. -/
theorem Block.filterMap_logicalLines_at_end {b : Block} (valid : b.Valid) :
    (logicalLines none (linesOf b.lines)).filterMap entry? = b.pair?.toList := by
  cases b with
  | entry e =>
    rw [lines, filterMap_logicalLines_linesOf (Entry.Valid.lastLine valid),
      ← List.append_nil (e.lines.map dropReturn)]
    have whole := Block.filterMap_logicalLines_append (b := .entry e) valid []
    rw [lines] at whole
    rw [whole]
    rfl
  | blank text =>
    rw [lines, linesOf]
    split
    · rfl
    · have blanks : ∀ c ∈ text.toList, isWhiteSpace c = true := fun c held => (valid c held).1
      rw [logicalLines_of_ends (continues_of_blanks blanks), List.filterMap_cons,
        entry?_of_blank blanks]
      rfl
  | comment text =>
    have filled : text ≠ "" := by
      rintro rfl
      have marked := valid.2.1
      rw [trim_of_blank (by simp)] at marked
      simp at marked
    have ends : continues text = false := by
      by_cases returned : text.toList.getLast? = some '\r'
      · exact continues_of_getLast (by rw [returned]; decide)
      · rw [← dropReturn_of_getLast returned]
        exact valid.2.2
    rw [lines, linesOf, if_neg filled, logicalLines_of_ends ends, List.filterMap_cons,
      entry?_of_comment valid.2.1]
    rfl

/-- Valid blocks give their pairs in order, each read whole since the line before never goes on. -/
theorem filterMap_logicalLines_render : ∀ (blocks : List Block), (∀ b ∈ blocks, b.Valid) →
    (logicalLines none (linesOf (blocks.flatMap Block.lines))).filterMap entry? =
      blocks.filterMap Block.pair?
  | [], _ => rfl
  | [b], valid => by
    rw [List.flatMap_singleton, Block.filterMap_logicalLines_at_end (valid b (by simp))]
    cases found : b.pair? <;> simp [found]
  | b :: next :: more, valid => by
    have filled : (next :: more).flatMap Block.lines ≠ [] := by
      simp [Block.lines_ne_nil]
    rw [List.flatMap_cons, linesOf_append _ filled,
      Block.filterMap_logicalLines_append (valid b List.mem_cons_self),
      filterMap_logicalLines_render (next :: more)
        fun b' mem => valid b' (List.mem_cons_of_mem _ mem)]
    cases found : b.pair? <;> simp [List.filterMap_cons (a := b), found]

/-- Flat `key=value` text reads back the pairs a writer laid out, inserted in order. -/
theorem read_render (blocks : List Block) (valid : ∀ b ∈ blocks, b.Valid) :
    read (render blocks) = Records.ofList (blocks.filterMap Block.pair?) := by
  have free : ∀ l ∈ blocks.flatMap Block.lines, '\n' ∉ l.toList := by
    intro l mem
    obtain ⟨b, member, inside⟩ := List.mem_flatMap.mp mem
    exact Block.feed_free (valid b member) l inside
  rw [read, render, lines_intercalate _ free, filterMap_logicalLines_render blocks valid]

/-- A layout with comments, a blank line and a value cut over two lines reads back its pairs. -/
theorem commented_continued_layout_reads_back :
    let blocks := [.comment "# server", .entry ⟨"host", "local", [("  ", "host")]⟩, .blank "",
      .entry ⟨"port", "8080", []⟩, .comment "! end"]
    (∀ b ∈ blocks, b.Valid) ∧
      read (render blocks) = Records.ofList [("host", "localhost"), ("port", "8080")] := by
  intro blocks
  have valid : ∀ b ∈ blocks, b.Valid := by decide +kernel
  exact ⟨valid, (read_render blocks valid).trans (by decide +kernel)⟩

/-- A comment ending in a backslash and a carriage return swallows the pair on the next line. -/
theorem comment_before_return_feed_swallows_next_line :
    let blocks := [.comment "#c\\\r", .entry ⟨"k", "v", []⟩]
    continues "#c\\\r" = false ∧ read (render blocks) = Records.empty ∧
      read (render blocks) ≠ Records.ofList (blocks.filterMap Block.pair?) := by
  intro blocks
  have seen : lines (render blocks) = ["#c\\", "k=v"] := by
    rw [render, lines_intercalate _ (by decide)]
    decide
  have joined : logicalLines none ["#c\\", "k=v"] = ["#ck=v"] := by decide
  have swallowed : entry? "#ck=v" = none :=
    entry?_of_comment (.inl (by rw [String.startsWith_string_iff]; decide))
  have empty : read (render blocks) = Records.empty := by
    rw [read, seen, joined, List.filterMap_cons, swallowed]
    rfl
  exact ⟨by decide, empty, by rw [empty]; decide⟩

end Reading

end Properties

end NamingDirectory
