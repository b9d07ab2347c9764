import Mathlib
import NamingDirectory.Path.Name

/-!
Literal cuts and joins undo each other: `literal_delimiter_round_trip` and
`literal_and_flat_cuts_lose_nothing`; an anchored pattern breaks the first.
-/

namespace NamingDirectory

namespace Delimiter

section Cut

variable {sep : List Char}

theorem cutAt_go_nil (piece : List Char) : cutAt.go sep [] piece = [piece.reverse] := by
  rw [cutAt.go]

theorem cutAt_go_ne_nil (text piece : List Char) : cutAt.go sep text piece ≠ [] := by
  fun_induction cutAt.go sep text piece <;> simp_all

/-- Joining the pieces of a cut with the separator gives the text back. -/
theorem intercalate_cutAt_go (text piece : List Char) :
    sep.intercalate (cutAt.go sep text piece) = piece.reverse ++ text := by
  fun_induction cutAt.go sep text piece with
  | case1 piece => simp
  | case2 c rest piece found ih =>
    obtain ⟨next, more, cut⟩ :=
      List.exists_cons_of_ne_nil (cutAt_go_ne_nil ((c :: rest).drop sep.length) [])
    rw [cut, List.intercalate_cons_cons, ← cut, ih]
    have starts : sep ++ (c :: rest).drop sep.length = c :: rest := by
      obtain ⟨after, whole⟩ := List.isPrefixOf_iff_prefix.mp found.2
      rw [← whole, List.drop_left]
    simp [starts]
  | case3 c rest piece _ ih =>
    rw [ih]
    simp

/-- A cut drops nothing but the occurrences it cuts at, found left to right and skipped whole. -/
theorem intercalate_cutAt (text : List Char) : sep.intercalate (cutAt sep text) = text := by
  rw [cutAt, intercalate_cutAt_go, List.reverse_nil, List.nil_append]

/-- No occurrence of the separator starts at a character the separator does not hold. -/
theorem not_isPrefixOf_of_not_mem {c : Char} (outside : c ∉ sep) (rest : List Char) :
    ¬ (sep ≠ [] ∧ sep.isPrefixOf (c :: rest) = true) := by
  rintro ⟨nonempty, found⟩
  obtain ⟨s, ss, rfl⟩ := List.exists_cons_of_ne_nil nonempty
  have first : s = c := by
    simp only [List.isPrefixOf, Bool.and_eq_true, beq_iff_eq] at found
    exact found.1
  exact outside (first ▸ List.mem_cons_self)

/-- A stretch that holds no character of the separator goes into the current piece. -/
theorem cutAt_go_append_of_disjoint {seg : List Char} (disjoint : ∀ c ∈ seg, c ∉ sep)
    (rest piece : List Char) :
    cutAt.go sep (seg ++ rest) piece = cutAt.go sep rest (seg.reverse ++ piece) := by
  induction seg generalizing piece with
  | nil => rfl
  | cons c seg ih =>
      rw [List.cons_append, cutAt.go,
        if_neg (not_isPrefixOf_of_not_mem (disjoint c List.mem_cons_self) _),
        ih (fun c' mem => disjoint c' (List.mem_cons_of_mem _ mem))]
      simp

/-- An occurrence of the separator ends the current piece. -/
theorem cutAt_go_sep_append (nonempty : sep ≠ []) (rest piece : List Char) :
    cutAt.go sep (sep ++ rest) piece = piece.reverse :: cutAt.go sep rest [] := by
  obtain ⟨s, ss, rfl⟩ := List.exists_cons_of_ne_nil nonempty
  rw [List.cons_append, cutAt.go, if_pos ⟨nonempty, by simp [List.isPrefixOf_iff_prefix]⟩]
  simp

/-- Pieces free of the separator's characters, joined with it, cut into themselves. -/
theorem cutAt_intercalate (nonempty : sep ≠ []) {pieces : List (List Char)} (ne : pieces ≠ [])
    (disjoint : ∀ p ∈ pieces, ∀ c ∈ p, c ∉ sep) : cutAt sep (sep.intercalate pieces) = pieces := by
  induction pieces with
  | nil => contradiction
  | cons p rest ih =>
      have first := disjoint p List.mem_cons_self
      cases rest with
      | nil =>
          rw [List.intercalate_singleton, cutAt, ← List.append_nil p,
            cutAt_go_append_of_disjoint first, cutAt_go_nil]
          simp
      | cons q qs =>
          rw [List.intercalate_cons_cons, cutAt, List.append_assoc,
            cutAt_go_append_of_disjoint first, cutAt_go_sep_append nonempty]
          simp only [List.append_nil, List.reverse_reverse, List.cons.injEq, true_and]
          exact ih (List.cons_ne_nil q qs) fun p' mem => disjoint p' (List.mem_cons_of_mem _ mem)

end Cut

/-- The characters of a key joined with a literal separator. -/
theorem toList_join_literal (sep : String) (segs : List String) :
    ((literal sep).join segs).toList = sep.toList.intercalate (segs.map String.toList) := by
  simp [join, separator]

/-- Non-empty segments free of a literal separator's characters, joined with it, cut into themselves. -/
theorem split_join_literal {sep : String} (nonempty : sep ≠ "") {segs : List String}
    (ne : segs ≠ []) (filled : ∀ s ∈ segs, s ≠ "")
    (disjoint : ∀ s ∈ segs, ∀ c ∈ s.toList, c ∉ sep.toList) :
    (literal sep).split ((literal sep).join segs) = segs := by
  obtain ⟨first, rest, rfl⟩ := List.exists_cons_of_ne_nil ne
  have chars := toList_join_literal sep (first :: rest)
  have key : ((literal sep).join (first :: rest)).isEmpty = false := by
    rw [String.isEmpty_eq_false_iff]
    intro empty
    have noChars := congrArg String.toList empty
    rw [chars] at noChars
    cases rest with
    | nil => exact filled first List.mem_cons_self (by simpa using noChars)
    | cons second more =>
        simp only [List.map_cons, List.intercalate_cons_cons, String.toList_empty,
          List.append_eq_nil_iff] at noChars
        exact filled first List.mem_cons_self (String.toList_eq_nil_iff.mp noChars.1.1)
  have cut : cutAt sep.toList (sep.toList.intercalate ((first :: rest).map String.toList)) =
      (first :: rest).map String.toList :=
    cutAt_intercalate (by simpa using nonempty) (by simp) fun p mem c inside => by
      obtain ⟨s, member, rfl⟩ := List.mem_map.mp mem
      exact disjoint s member c inside
  rw [split, key, if_neg Bool.false_ne_true]
  simp only [chars, cut, List.map_map]
  simp

/-- A name of non-empty segments free of a literal separator's characters reads back from its key. -/
theorem parse_join_literal {sep : String} (nonempty : sep ≠ "") {name : Name}
    (ne : name.segments ≠ []) (filled : ∀ s ∈ name.segments, s ≠ "")
    (disjoint : ∀ s ∈ name.segments, ∀ c ∈ s.toList, c ∉ sep.toList) :
    Name.parse (name.join (literal sep)) (literal sep) = name := by
  simp only [Name.parse, Name.join]
  rw [split_join_literal nonempty ne filled disjoint]

/-- A delimiter that is not a pattern joins the segments of every key back into the key. -/
theorem join_split {delimiter : Delimiter}
    (notPattern : ∀ compiled separator, delimiter ≠ .pattern compiled separator) (key : String) :
    delimiter.join (delimiter.split key) = key := by
  unfold split
  cases empty : key.isEmpty with
  | true => simp [join, String.isEmpty_iff.mp empty]
  | false =>
    rw [if_neg Bool.false_ne_true]
    cases delimiter with
    | literal sep =>
      apply String.toList_inj.mp
      dsimp only
      rw [toList_join_literal, List.map_map]
      simp [Function.comp_def, intercalate_cutAt]
    | pattern compiled separator => exact absurd rfl (notPattern compiled separator)
    | flat => simp [join]

-- The scan cuts `:::` at its first `::` only.
example : (literal "::").split ":::" = ["", ":"] := by cbv

/-- A literal or flat delimiter cuts distinct keys into distinct segments. -/
theorem split_injective {delimiter : Delimiter}
    (notPattern : ∀ compiled separator, delimiter ≠ .pattern compiled separator) :
    Function.Injective delimiter.split :=
  Function.LeftInverse.injective (join_split notPattern)

/-- A literal delimiter is read from a text that is not empty. -/
theorem parse_literal_ne {text sep : String} (accepted : parse text = .ok (.literal sep)) :
    sep ≠ "" := by
  unfold parse at accepted
  split at accepted
  · cases accepted
  split at accepted
  · cases accepted
  split at accepted
  · cases accepted
    rename_i filled _ _
    simpa using filled
  split at accepted
  · cases accepted
  · dsimp only at accepted
    split at accepted <;> cases accepted

/-- A special text that compiles, with a separator it cuts into two empty parts, is a pattern. -/
theorem parse_pattern {text : String} {compiled : Pattern.Compiled}
    (filled : text.isEmpty = false) (notFlat : (text == "flat") = false)
    (special : text.toList.any metaCharacters.contains = true)
    (compiles : Pattern.Compiled.ofString text = .ok compiled)
    (separates : (primarySeparator text).isEmpty = false)
    (splitsAlone : splitsExactly compiled (primarySeparator text) = true) :
    parse text = .ok (.pattern compiled (primarySeparator text)) := by
  simp [parse, filled, notFlat, special, compiles, separates, splitsAlone]

end Delimiter

/-- Every literal delimiter a specification reads as cuts a joined key back into its segments. -/
theorem literal_delimiter_round_trip {text sep : String}
    (accepted : Delimiter.parse text = .ok (.literal sep)) {name : Name}
    (ne : name.segments ≠ []) (filled : ∀ s ∈ name.segments, s ≠ "")
    (disjoint : ∀ s ∈ name.segments, ∀ c ∈ s.toList, c ∉ sep.toList) :
    (Delimiter.literal sep).split ((Delimiter.literal sep).join name.segments) = name.segments ∧
      Name.parse (name.join (.literal sep)) (.literal sep) = name :=
  have nonempty := Delimiter.parse_literal_ne accepted
  ⟨Delimiter.split_join_literal nonempty ne filled disjoint,
    Delimiter.parse_join_literal nonempty ne filled disjoint⟩

theorem dotted_name_round_trip :
    Delimiter.parse "." = .ok (.literal ".") ∧
      (Delimiter.literal ".").split ((Delimiter.literal ".").join ["a", "b"]) = ["a", "b"] ∧
      Name.parse (Name.join ⟨["a", "b"]⟩ (.literal ".")) (.literal ".") = ⟨["a", "b"]⟩ :=
  have parsed : Delimiter.parse "." = .ok (.literal ".") := by rfl
  ⟨parsed, @literal_delimiter_round_trip "." "." parsed ⟨["a", "b"]⟩ (by simp) (by simp)
    (by simp)⟩

/-- Distinct keys are read as distinct names under a literal or flat delimiter. -/
theorem Name.parse_injective {delimiter : Delimiter}
    (notPattern : ∀ compiled separator, delimiter ≠ .pattern compiled separator) :
    Function.Injective fun key => Name.parse key delimiter := fun _ _ same =>
  Delimiter.split_injective notPattern (congrArg Name.segments same)

/-- Cutting a key with a literal or flat delimiter loses nothing, so distinct keys are distinct names. -/
theorem literal_and_flat_cuts_lose_nothing {delimiter : Delimiter}
    (notPattern : ∀ compiled separator, delimiter ≠ .pattern compiled separator) :
    (∀ key, delimiter.join (delimiter.split key) = key) ∧
      Function.Injective fun key => Name.parse key delimiter :=
  ⟨Delimiter.join_split notPattern, Name.parse_injective notPattern⟩

theorem overlapping_separators_join_back :
    (∀ compiled separator, Delimiter.literal "::" ≠ .pattern compiled separator) ∧
      (Delimiter.literal "::").join ((Delimiter.literal "::").split ":::") = ":::" ∧
      Name.parse ":::" (.literal "::") ≠ Name.parse "::::" (.literal "::") :=
  have notPattern : ∀ compiled separator, Delimiter.literal "::" ≠ .pattern compiled separator :=
    fun _ _ => by simp
  have lossless := literal_and_flat_cuts_lose_nothing notPattern
  ⟨notPattern, lossless.1 ":::", fun same => absurd (lossless.2 same) (by decide)⟩

/-- The anchored pattern `^\.` is accepted with the separator `.`, yet never cuts a joined key. -/
theorem anchored_pattern_does_not_cut_joined_key :
    ∃ d, Delimiter.parse "^\\." = .ok d ∧ d.separator = "." ∧
      d.split (d.join ["a", "b"]) = ["a.b"] := by
  -- Each part is evaluated on its own: the whole parse at once is several times slower.
  have evaluated : (match Pattern.Compiled.ofString "^\\." with
      | .ok c => Delimiter.splitsExactly c "." && c.split "a.b" == ["a.b"]
      | .error _ => false) = true := by
    cbv
  have separator : Delimiter.primarySeparator "^\\." = "." := by cbv
  have joined : String.intercalate "." ["a", "b"] = "a.b" := by cbv
  cases compiled : Pattern.Compiled.ofString "^\\." with
  | error e =>
      rw [compiled] at evaluated
      cases evaluated
  | ok c =>
      rw [compiled] at evaluated
      obtain ⟨splitsAlone, uncut⟩ :
          Delimiter.splitsExactly c "." = true ∧ c.split "a.b" = ["a.b"] := by
        simpa using evaluated
      have parsed := Delimiter.parse_pattern (by decide) (by decide) (by decide) compiled
        (by rw [separator]; decide) (by rw [separator]; exact splitsAlone)
      rw [separator] at parsed
      refine ⟨.pattern c ".", parsed, rfl, ?_⟩
      simp [Delimiter.join, Delimiter.separator, joined, Delimiter.split, uncut]

end NamingDirectory
