import Mathlib
import NamingDirectory.Format.Ini
import NamingDirectory.Proofs.Format.PropertiesText

/-!
Block-structured text reads back the pairs a writer lays out, and fails exactly at an unclosed
header (`ini_text_reads_back`).
-/

namespace NamingDirectory

namespace Ini

open Unicode Properties

/-- A key read inside a block is joined to the block's name; a top-level key stands alone. -/
def blockKey (delimiter : Delimiter) : Option String → String → String
  | some name, key => delimiter.join [name, key]
  | none, key => key

/-- A line whose text, cut at the comment character and trimmed, is `[` and a rest not ending in `]`. -/
def OpensUnclosedHeader (c : Char) (line : String) : Prop :=
  ∃ header, (trim (stripComment c line)).toList = '[' :: header ∧ header.getLast? ≠ some ']'

/-- The message of a header left open on a numbered line. -/
def unclosedError (c : Char) (number : Nat) (line : String) : NamingError :=
  .parse ("Unterminated block header on line " ++ toString number ++ ": " ++
    trim (stripComment c line))

section Reader

variable {c : Char} {delimiter : Delimiter} {block : Option String} {records : Records}
  {n : Nat} {raw : String} {rest : List (Nat × String)}

theorem span_key_value {key value : List Char} (noEq : '=' ∉ key) :
    (key ++ '=' :: value).span (· != '=') = (key, '=' :: value) := by
  rw [List.span_eq_takeWhile_dropWhile]
  have kept : ∀ x ∈ key, (x != '=') = true := by
    intro x mem
    simp only [bne_iff_ne, ne_eq]
    rintro rfl
    exact noEq mem
  rw [List.takeWhile_append_of_pos kept, List.dropWhile_append_of_pos kept]
  simp

/-- A line that is empty once cut and trimmed is passed over. -/
theorem readLines_cons_of_skipped (skipped : trim (stripComment c raw) = "") :
    readLines c delimiter block records ((n, raw) :: rest) =
      readLines c delimiter block records rest := by
  rw [readLines.eq_def]
  simp [skipped]

/-- A closed header sets the block to its trimmed name, or to the top level for no name. -/
theorem readLines_cons_of_header {header : List Char}
    (opens : (trim (stripComment c raw)).toList = '[' :: header)
    (closes : header.getLast? = some ']') :
    readLines c delimiter block records ((n, raw) :: rest) =
      readLines c delimiter
        (if (trim (String.ofList header.dropLast)).isEmpty then none
          else some (trim (String.ofList header.dropLast))) records rest := by
  have filled : (trim (stripComment c raw)).isEmpty = false := by
    rw [String.isEmpty_eq_false_iff]
    intro empty
    rw [empty] at opens
    cases opens
  rw [readLines.eq_def]
  simp only [filled, opens, closes]
  rfl

/-- A plain `key=value` line records the value under the key, joined to the current block. -/
theorem readLines_cons_of_entry {key value : String}
    (line : trim (stripComment c raw) = key ++ "=" ++ value)
    (filled : key ≠ "") (keyTrimmed : trim key = key) (valueTrimmed : trim value = value)
    (noEq : '=' ∉ key.toList) (plain : key.toList.head? ≠ some '[') :
    readLines c delimiter block records ((n, raw) :: rest) =
      readLines c delimiter block (records.insert (blockKey delimiter block key) value) rest := by
  obtain ⟨k, ks, chars⟩ : ∃ k ks, key.toList = k :: ks := by
    cases h : key.toList with
    | nil => exact absurd (String.toList_eq_nil_iff.mp h) filled
    | cons k ks => exact ⟨k, ks, rfl⟩
  have notOpen : k ≠ '[' := fun same => plain (by simp [chars, same])
  have lineChars : (trim (stripComment c raw)).toList = k :: (ks ++ '=' :: value.toList) := by
    rw [line]
    simp [chars]
  have nonempty : (trim (stripComment c raw)).isEmpty = false := by
    rw [line]
    simp [filled]
  rw [readLines.eq_def]
  simp only [nonempty, lineChars, Bool.false_eq_true, if_false]
  split
  · next same => exact absurd (List.cons.inj same).1 notOpen
  · -- The key runs to the first `=`, the value is the rest.
    have spanned : (key.toList ++ '=' :: value.toList).span (· != '=') =
        (key.toList, '=' :: value.toList) := span_key_value noEq
    rw [chars, List.cons_append] at spanned
    rw [spanned, ← chars]
    simp only [String.ofList_toList, keyTrimmed, List.drop_one, List.tail_cons, valueTrimmed,
      String.isEmpty_eq_false_iff.mpr filled, Bool.false_eq_true, if_false]
    cases block <;> rfl

/-- A header left open stops the reading, naming its line. -/
theorem readLines_cons_of_unclosed (opens : OpensUnclosedHeader c raw) :
    readLines c delimiter block records ((n, raw) :: rest) = .error (unclosedError c n raw) := by
  obtain ⟨header, chars, unclosed⟩ := opens
  have filled : (trim (stripComment c raw)).isEmpty = false := by
    rw [String.isEmpty_eq_false_iff]
    intro empty
    rw [empty] at chars
    cases chars
  rw [readLines.eq_def]
  simp only [filled, chars, Bool.false_eq_true, if_false, bne_iff_ne, ne_eq, unclosed,
    not_false_eq_true, if_true]
  rfl

/-- Any other line is read on: it changes at most the block and the records. -/
theorem readLines_cons_of_not_unclosed (closed : ¬ OpensUnclosedHeader c raw) :
    ∃ block' records', readLines c delimiter block records ((n, raw) :: rest) =
      readLines c delimiter block' records' rest := by
  rw [readLines.eq_def]
  dsimp only
  split
  · exact ⟨_, _, rfl⟩
  · split
    · next header chars =>
      split
      · next unclosed =>
        exact absurd ⟨header, chars, by simpa using unclosed⟩ closed
      · exact ⟨_, _, rfl⟩
    · split
      · exact ⟨_, _, rfl⟩
      · exact ⟨_, _, rfl⟩

/-- The first member of `l :: ls` with a property is `l`, or else the first such member of `ls`. -/
theorem exists_first_cons_iff {α : Type} {P : α → Prop} {Q : Nat → α → Prop} {l : α}
    {ls : List α} :
    (∃ before line after, l :: ls = before ++ line :: after ∧ (∀ x ∈ before, ¬ P x) ∧ P line ∧
        Q before.length line) ↔
      (P l ∧ Q 0 l) ∨ (¬ P l ∧ ∃ before line after, ls = before ++ line :: after ∧
        (∀ x ∈ before, ¬ P x) ∧ P line ∧ Q (before.length + 1) line) := by
  constructor
  · rintro ⟨before, line, after, split, passed, holds, found⟩
    cases before with
    | nil =>
      obtain ⟨rfl, -⟩ := List.cons.inj split
      exact .inl ⟨holds, found⟩
    | cons first before =>
      obtain ⟨rfl, rfl⟩ := List.cons.inj split
      exact .inr ⟨passed _ List.mem_cons_self, before, line, after, rfl,
        fun x mem => passed x (List.mem_cons_of_mem _ mem), holds, found⟩
  · rintro (⟨holds, found⟩ | ⟨fails, before, line, after, rfl, passed, holds, found⟩)
    · exact ⟨[], l, ls, rfl, by simp, holds, found⟩
    · refine ⟨l :: before, line, after, rfl, ?_, holds, found⟩
      rintro x (_ | ⟨_, mem⟩)
      · exact fails
      · exact passed x mem

/-- Reading numbered lines fails exactly at the first line that leaves a header open. -/
theorem readLines_eq_error_iff (e : NamingError) :
    ∀ (ls : List String) (k : Nat) (block : Option String) (records : Records),
      readLines c delimiter block records ((ls.zipIdx k).map fun p => (p.2 + 1, p.1)) =
          .error e ↔
        ∃ before line after, ls = before ++ line :: after ∧
          (∀ l ∈ before, ¬ OpensUnclosedHeader c l) ∧ OpensUnclosedHeader c line ∧
          e = unclosedError c (k + before.length + 1) line
  | [], k, block, records => by
      simp only [List.zipIdx_nil, List.map_nil, readLines, reduceCtorEq, false_iff]
      rintro ⟨before, line, after, split, -⟩
      simp at split
  | l :: ls, k, block, records => by
      rw [List.zipIdx_cons, List.map_cons,
        exists_first_cons_iff (Q := fun n line => e = unclosedError c (k + n + 1) line)]
      by_cases opens : OpensUnclosedHeader c l
      · -- The first line fails, so no later line is reached.
        rw [readLines_cons_of_unclosed opens, Except.error.injEq]
        simp [opens, eq_comm]
      · obtain ⟨block', records', step⟩ : ∃ block' records',
            readLines c delimiter block records
                ((k + 1, l) :: (ls.zipIdx (k + 1)).map fun p => (p.2 + 1, p.1)) =
              readLines c delimiter block' records' ((ls.zipIdx (k + 1)).map fun p => (p.2 + 1, p.1)) :=
          readLines_cons_of_not_unclosed opens
        have shift : ∀ n, k + 1 + n + 1 = k + (n + 1) + 1 := fun n => by omega
        rw [step, readLines_eq_error_iff e ls (k + 1) block' records']
        simp only [opens, not_false_eq_true, true_and, false_and, false_or, shift]

end Reader

/-- A line of block-structured text as a writer lays it out. -/
inductive Line where
  /-- `key=value`. -/
  | entry (key value : String)
  /-- `[name]`: a block, or the top level for the empty name. -/
  | header (name : String)
  /-- Blanks only. -/
  | blank (text : String)
  /-- The comment character followed by a text. -/
  | comment (text : String)
  deriving Repr, DecidableEq

namespace Line

/-- The text of a line. -/
def render (c : Char) : Line → String
  | .entry key value => key ++ "=" ++ value
  | .header name => "[" ++ name ++ "]"
  | .blank text => text
  | .comment text => String.singleton c ++ text

/-- A name, key or value a writer can put on a line: its own trim, without `c` or a line break. -/
def Plain (c : Char) (text : String) : Prop :=
  trim text = text ∧ ∀ ch ∈ text.toList, ch ≠ c ∧ ch ≠ '\n' ∧ ch ≠ '\r'

/-- What a writer respects: plain keys without `=` or a leading `[`, plain values and names. -/
def Valid (c : Char) : Line → Prop
  | .entry key value =>
    key ≠ "" ∧ '=' ∉ key.toList ∧ key.toList.head? ≠ some '[' ∧ Plain c key ∧ Plain c value
  | .header name => Plain c name
  | .blank text => Blank text
  | .comment text => c ≠ '\n' ∧ '\n' ∉ text.toList

/-- `Plain`, as a test. -/
def plainCheck (c : Char) (text : String) : Bool :=
  trim text == text && text.toList.all fun ch => ch != c && ch != '\n' && ch != '\r'

theorem plainCheck_iff (c : Char) (text : String) : plainCheck c text = true ↔ Plain c text := by
  simp [plainCheck, Plain, and_assoc]

/-- `Valid`, as a test. -/
def check (c : Char) : Line → Bool
  | .entry key value =>
    key != "" && !key.toList.contains '=' && key.toList.head? != some '[' &&
      plainCheck c key && plainCheck c value
  | .header name => plainCheck c name
  | .blank text => text.toList.all fun ch => isWhiteSpace ch && ch != '\n'
  | .comment text => c != '\n' && !text.toList.contains '\n'

theorem check_iff (c : Char) (l : Line) : l.check c = true ↔ l.Valid c := by
  cases l <;> simp [check, Valid, plainCheck_iff, Blank, and_assoc]

instance (c : Char) (l : Line) : Decidable (l.Valid c) := decidable_of_iff _ (check_iff c l)

/-- The pair an entry records in a block. -/
def pair? (delimiter : Delimiter) (block : Option String) : Line → Option (String × String)
  | .entry key value => some (blockKey delimiter block key, value)
  | _ => none

/-- The block a line leaves the reader in. -/
def blockAfter (block : Option String) : Line → Option String
  | .header name => if name = "" then none else some name
  | _ => block

end Line

/-- Lines joined by line feeds. -/
def renderAll (c : Char) (lines : List Line) : String :=
  "\n".intercalate (lines.map (Line.render c))

/-- The pairs that laid-out lines hold, each key joined to the name of its block. -/
def pairsIn (delimiter : Delimiter) : Option String → List Line → List (String × String)
  | _, [] => []
  | block, l :: rest =>
    (l.pair? delimiter block).toList ++ pairsIn delimiter (l.blockAfter block) rest

section Layout

variable {c : Char} {delimiter : Delimiter}

theorem stripComment_of_not_mem {line : String} (absent : c ∉ line.toList) :
    stripComment c line = line := by
  have kept : ∀ x ∈ line.toList, (x != c) = true := by
    intro x mem
    simp only [bne_iff_ne, ne_eq]
    rintro rfl
    exact absent mem
  rw [stripComment, List.takeWhile_eq_self_iff.mpr kept, String.ofList_toList]

/-- A line that starts with the comment character, or is empty, has nothing before its comment. -/
theorem stripComment_of_head {line : String} (starts : ∀ x ∈ line.toList.head?, x = c) :
    stripComment c line = "" := by
  rw [stripComment]
  cases chars : line.toList with
  | nil => rfl
  | cons x more =>
    have same : x = c := starts x (by simp [chars])
    simp [same]

/-- What is cut off at the comment character is a part of the line. -/
theorem mem_of_mem_stripComment {line : String} {x : Char}
    (mem : x ∈ (stripComment c line).toList) : x ∈ line.toList := by
  rw [stripComment, String.toList_ofList] at mem
  exact (List.takeWhile_prefix _).subset mem

/-- Dropping a carriage return keeps a start of the line. -/
theorem dropReturn_prefix_self (line : String) : (dropReturn line).toList <+: line.toList := by
  unfold dropReturn
  split
  · rw [String.toList_ofList]
    exact List.dropLast_prefix _
  · exact List.prefix_refl _

theorem getLast?_header (name : String) : ("[" ++ name ++ "]").toList.getLast? = some ']' := by
  rw [String.toList_append, List.getLast?_append_of_ne_nil _ (by simp)]
  simp

/-- The reader sees an entry line as written: no comment in it, nothing to trim. -/
theorem trim_stripComment_entry {key value : String} (valid : (Line.entry key value).Valid c)
    (notEq : c ≠ '=') :
    trim (stripComment c (key ++ "=" ++ value)) = key ++ "=" ++ value := by
  obtain ⟨filled, -, -, ⟨keyTrimmed, keyPlain⟩, ⟨valueTrimmed, valuePlain⟩⟩ := valid
  have absent : c ∉ (key ++ "=" ++ value).toList := by
    simp only [String.toList_append, List.mem_append, not_or]
    refine ⟨⟨fun mem => (keyPlain c mem).1 rfl, by simpa using notEq⟩,
      fun mem => (valuePlain c mem).1 rfl⟩
  rw [stripComment_of_not_mem absent, trim_eq_self_iff]
  obtain ⟨keyFront, -⟩ := (trim_eq_self_iff key).mp keyTrimmed
  obtain ⟨-, valueBack⟩ := (trim_eq_self_iff value).mp valueTrimmed
  obtain ⟨k, ks, chars⟩ : ∃ k ks, key.toList = k :: ks := by
    cases h : key.toList with
    | nil => exact absurd (String.toList_eq_nil_iff.mp h) filled
    | cons k ks => exact ⟨k, ks, rfl⟩
  refine ⟨fun x first => ?_, fun x last => ?_⟩
  · -- The line starts where the key does.
    have starts : (key ++ "=" ++ value).toList.head? = some k := by simp [chars]
    rw [Option.mem_def, starts, Option.some.injEq] at first
    exact keyFront x (by simp [chars, first])
  · -- It ends with the value, or with `=` when the value is empty.
    rw [Option.mem_def, String.toList_append] at last
    by_cases empty : value.toList = []
    · rw [empty, List.append_nil, String.toList_append,
        List.getLast?_append_of_ne_nil _ (by simp)] at last
      obtain rfl : x = '=' := by simpa [eq_comm] using last
      decide
    · rw [List.getLast?_append_of_ne_nil _ empty] at last
      exact valueBack x last

/-- The reader sees a header line as written. -/
theorem trim_stripComment_header {name : String} (valid : (Line.header name).Valid c)
    (notOpen : c ≠ '[') (notClose : c ≠ ']') :
    trim (stripComment c ("[" ++ name ++ "]")) = "[" ++ name ++ "]" := by
  obtain ⟨-, namePlain⟩ := valid
  have absent : c ∉ ("[" ++ name ++ "]").toList := by
    simp only [String.toList_append, List.mem_append, not_or]
    refine ⟨⟨by simpa using notOpen, fun mem => (namePlain c mem).1 rfl⟩,
      by simpa using notClose⟩
  rw [stripComment_of_not_mem absent, trim_eq_self_iff]
  constructor
  · intro x first
    have starts : ("[" ++ name ++ "]").toList.head? = some '[' := by simp
    rw [Option.mem_def, starts, Option.some.injEq] at first
    subst first
    decide
  · intro x last
    rw [Option.mem_def, getLast?_header, Option.some.injEq] at last
    subst last
    decide

/-- A carriage return never ends an entry or a header, so the reader sees them whole. -/
theorem dropReturn_render_of_ne {l : Line} (valid : l.Valid c)
    (shown : ∀ text, l ≠ .blank text) (noted : ∀ text, l ≠ .comment text) :
    dropReturn (l.render c) = l.render c := by
  apply dropReturn_of_getLast
  cases l with
  | entry key value =>
    obtain ⟨-, -, -, -, -, valuePlain⟩ := valid
    simp only [Line.render, String.toList_append, List.getLast?_append]
    cases ends : value.toList.getLast? with
    | none => simp
    | some y =>
      simp only [Option.some_or, ne_eq, Option.some.injEq]
      exact (valuePlain y (List.mem_of_getLast? ends)).2.2
  | header name =>
    show ("[" ++ name ++ "]").toList.getLast? ≠ some '\r'
    rw [getLast?_header]
    decide
  | blank text => exact absurd rfl (shown text)
  | comment text => exact absurd rfl (noted text)

/-- One laid-out line records its pair and leaves the reader in its block. -/
theorem readLines_cons_line {l : Line} (valid : l.Valid c) (notEq : c ≠ '=') (notOpen : c ≠ '[')
    (notClose : c ≠ ']') {raw : String} (seen : raw = l.render c ∨ raw = dropReturn (l.render c))
    (block : Option String) (records : Records) (n : Nat) (rest : List (Nat × String)) :
    readLines c delimiter block records ((n, raw) :: rest) =
      readLines c delimiter (l.blockAfter block)
        (records.insertAll (l.pair? delimiter block).toList) rest := by
  cases l with
  | entry key value =>
    have whole : raw = key ++ "=" ++ value := by
      rcases seen with rfl | rfl
      · rfl
      · exact dropReturn_render_of_ne valid (by simp) (by simp)
    subst whole
    have line := trim_stripComment_entry valid notEq
    obtain ⟨filled, noEq, plain, ⟨keyTrimmed, -⟩, ⟨valueTrimmed, -⟩⟩ := valid
    rw [readLines_cons_of_entry line filled keyTrimmed valueTrimmed noEq plain]
    rfl
  | header name =>
    have whole : raw = "[" ++ name ++ "]" := by
      rcases seen with rfl | rfl
      · rfl
      · exact dropReturn_render_of_ne valid (by simp) (by simp)
    subst whole
    have chars : (trim (stripComment c ("[" ++ name ++ "]"))).toList =
        '[' :: (name.toList ++ [']']) := by
      rw [trim_stripComment_header valid notOpen notClose]
      simp
    rw [readLines_cons_of_header chars (by simp), List.dropLast_concat, String.ofList_toList,
      valid.1]
    simp only [String.isEmpty_iff, Line.blockAfter, Line.pair?, Option.toList_none]
    rfl
  | blank text =>
    have blanks : ∀ x ∈ (stripComment c raw).toList, isWhiteSpace x = true := by
      intro x mem
      have inRaw := mem_of_mem_stripComment mem
      have inText : x ∈ text.toList := by
        rcases seen with rfl | rfl
        · exact inRaw
        · exact (dropReturn_prefix_self _).subset inRaw
      exact (valid x inText).1
    rw [readLines_cons_of_skipped (trim_of_blank blanks)]
    rfl
  | comment text =>
    have starts : ∀ x ∈ raw.toList.head?, x = c := by
      intro x first
      have before : raw.toList <+: ((Line.comment text).render c).toList := by
        rcases seen with rfl | rfl
        · exact List.prefix_refl _
        · exact dropReturn_prefix_self _
      obtain ⟨tail, whole⟩ := before
      have opened : ((Line.comment text).render c).toList.head? = some x := by
        rw [← whole]
        simp only [Option.mem_def] at first
        simp [List.head?_append, first]
      simpa [Line.render] using opened.symm
    rw [readLines_cons_of_skipped (by rw [stripComment_of_head starts]; rfl)]
    rfl

/-- Only a blank line can render as the empty text, and it holds no pair. -/
theorem pair?_eq_none_of_render_eq_empty {l : Line} (empty : l.render c = "")
    (block : Option String) : l.pair? delimiter block = none := by
  cases l with
  | entry key value =>
    have mem : '=' ∈ (key ++ "=" ++ value).toList := by simp
    rw [show key ++ "=" ++ value = "" from empty] at mem
    cases mem
  | header name => rfl
  | blank text => rfl
  | comment text => rfl

/-- The lines of a laid-out text, numbered from `k + 1`, are read into the pairs the layout holds. -/
theorem readLines_linesOf (notEq : c ≠ '=') (notOpen : c ≠ '[') (notClose : c ≠ ']') :
    ∀ (ls : List Line) (k : Nat) (block : Option String) (records : Records),
      (∀ l ∈ ls, l.Valid c) →
      readLines c delimiter block records
          (((linesOf (ls.map (Line.render c))).zipIdx k).map fun p => (p.2 + 1, p.1)) =
        .ok (records.insertAll (pairsIn delimiter block ls))
  | [], _, _, records, _ => by
    simp [linesOf, readLines, pairsIn, Records.insertAll]
  | [l], k, block, records, valid => by
    simp only [List.map_cons, List.map_nil, linesOf]
    split
    · -- The reader sees no line; the layout's one line was an empty blank line.
      next empty =>
      simp [readLines, pairsIn, pair?_eq_none_of_render_eq_empty empty, Records.insertAll]
    · rw [List.zipIdx_cons, List.map_cons, List.zipIdx_nil, List.map_nil,
        readLines_cons_line (valid l (by simp)) notEq notOpen notClose (.inl rfl)]
      simp [readLines, pairsIn, Records.insertAll]
  | l :: m :: more, k, block, records, valid => by
    rw [List.map_cons, linesOf_cons (by simp), List.zipIdx_cons, List.map_cons,
      readLines_cons_line (valid l (by simp)) notEq notOpen notClose (.inr rfl),
      readLines_linesOf notEq notOpen notClose (m :: more) (k + 1) _ _
        fun l' mem => valid l' (List.mem_cons_of_mem _ mem)]
    simp [pairsIn, Records.insertAll, List.foldl_append]

end Layout

section Read

variable {c : Char} {delimiter : Delimiter}

/-- A laid-out line holds no line feed. -/
theorem Line.feed_free {l : Line} (valid : l.Valid c) : '\n' ∉ (l.render c).toList := by
  cases l with
  | entry key value =>
    obtain ⟨-, -, -, ⟨-, keyPlain⟩, ⟨-, valuePlain⟩⟩ := valid
    simp only [render, String.toList_append, List.mem_append, not_or]
    exact ⟨⟨fun mem => (keyPlain _ mem).2.1 rfl, by simp⟩, fun mem => (valuePlain _ mem).2.1 rfl⟩
  | header name =>
    simp only [render, String.toList_append, List.mem_append, not_or]
    exact ⟨⟨by simp, fun mem => (valid.2 _ mem).2.1 rfl⟩, by simp⟩
  | blank text => exact fun mem => (valid _ mem).2 rfl
  | comment text =>
    simp only [render, String.toList_append, List.mem_append, not_or]
    exact ⟨by simpa using valid.1.symm, valid.2⟩

/-- Laid-out lines joined by feeds are read into the pairs they hold. -/
theorem read_renderAll (notEq : c ≠ '=') (notOpen : c ≠ '[') (notClose : c ≠ ']') (ls : List Line)
    (valid : ∀ l ∈ ls, l.Valid c) :
    read c (renderAll c ls) delimiter = .ok (Records.ofList (pairsIn delimiter none ls)) := by
  have seen : lines (renderAll c ls) = linesOf (ls.map (Line.render c)) := by
    apply lines_intercalate
    intro line mem
    obtain ⟨l, inLayout, rfl⟩ := List.mem_map.mp mem
    exact Line.feed_free (valid l inLayout)
  show readLines c delimiter none Records.empty
    (((lines (renderAll c ls)).zipIdx 0).map fun p => (p.2 + 1, p.1)) = _
  rw [seen, readLines_linesOf notEq notOpen notClose ls 0 none Records.empty valid]
  rfl

/-- Reading fails exactly when some line leaves a block header open, naming the first such line. -/
theorem read_eq_error_iff (content : String) (e : NamingError) :
    read c content delimiter = .error e ↔
      ∃ before line after, lines content = before ++ line :: after ∧
        (∀ l ∈ before, ¬ OpensUnclosedHeader c l) ∧ OpensUnclosedHeader c line ∧
        e = unclosedError c (before.length + 1) line := by
  show readLines c delimiter none Records.empty
    (((lines content).zipIdx 0).map fun p => (p.2 + 1, p.1)) = _ ↔ _
  rw [readLines_eq_error_iff e (lines content) 0 none Records.empty]
  simp only [Nat.zero_add]

end Read

/-- Block-structured text reads back the pairs a writer lays out, each key joined to its block's name,
and fails exactly when a line leaves a header open, naming the first. -/
theorem ini_text_reads_back (c : Char) (delimiter : Delimiter) :
    (c ≠ '=' → c ≠ '[' → c ≠ ']' → ∀ ls : List Line, (∀ l ∈ ls, l.Valid c) →
      read c (renderAll c ls) delimiter = .ok (Records.ofList (pairsIn delimiter none ls))) ∧
    ∀ (content : String) (e : NamingError), read c content delimiter = .error e ↔
      ∃ before line after, lines content = before ++ line :: after ∧
        (∀ l ∈ before, ¬ OpensUnclosedHeader c l) ∧ OpensUnclosedHeader c line ∧
        e = unclosedError c (before.length + 1) line :=
  ⟨fun notEq notOpen notClose => read_renderAll notEq notOpen notClose, read_eq_error_iff⟩

/-- Top-level settings, a block with a comment and a blank line, then a return to the top level. -/
def sampleLayout : List Line :=
  [.entry "name" "app", .header "db", .comment " primary", .entry "host" "localhost",
    .blank "  ", .header "", .entry "bottom" "2"]

theorem sample_layout_reads_back :
    ';' ≠ '=' ∧ ';' ≠ '[' ∧ ';' ≠ ']' ∧ (∀ l ∈ sampleLayout, l.Valid ';') ∧
      read ';' (renderAll ';' sampleLayout) .default =
        .ok (Records.ofList (pairsIn .default none sampleLayout)) :=
  have valid : ∀ l ∈ sampleLayout, l.Valid ';' := by decide
  ⟨by decide, by decide, by decide, valid,
    (ini_text_reads_back ';' .default).1 (by decide) (by decide) (by decide) sampleLayout valid⟩

/-
The sample holds `db.host` inside its block and `bottom` back at the top level.
-/
example : pairsIn .default none sampleLayout =
    [("name", "app"), ("db.host", "localhost"), ("bottom", "2")] := by decide

/-- The text `[a]`, `x=1`, `[]`, `y=2` records `y` at the top level, not as `a.y`. -/
theorem empty_header_inside_block_ends_it :
    read '#' (renderAll '#' [.header "a", .entry "x" "1", .header "", .entry "y" "2"]) .default ≠
      .ok (Records.ofList [("a.x", "1"), ("a.y", "2")]) := by
  rw [read_renderAll (by decide) (by decide) (by decide) _ (by decide)]
  decide

example : renderAll '#' [.header "a", .entry "x" "1", .header "", .entry "y" "2"] =
    "[a]\nx=1\n[]\ny=2" := by decide

end Ini

end NamingDirectory
