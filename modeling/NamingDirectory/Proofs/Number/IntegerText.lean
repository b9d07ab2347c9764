import Mathlib
import NamingDirectory.Conversion.Converter
import NamingDirectory.Value.Read

/-!
Reading decimal integers of a bounded type, exactly (`integer_text_reads_exactly_within_limits`).
-/

namespace NamingDirectory

namespace IntegerType

/-- The value of decimal digits read from the left. -/
def digitsValue (digits : List Char) : Nat :=
  digits.foldl (fun value c => 10 * value + (c.toNat - '0'.toNat)) 0

/-- A magnitude with a sign. -/
def signedValue (negative : Bool) (magnitude : Nat) : Int :=
  if negative then -magnitude else magnitude

/-- An integer within the type's range. -/
def InRange (ty : IntegerType) (n : Int) : Prop := ty.min ≤ n ∧ n ≤ ty.max

instance (ty : IntegerType) (n : Int) : Decidable (ty.InRange n) :=
  inferInstanceAs (Decidable (_ ∧ _))

/-- The sign a text starts with, when the type reads one, and the rest. -/
def unsign (ty : IntegerType) : List Char → Bool × List Char
  | '+' :: rest => (false, rest)
  | '-' :: rest => if ty.signed then (true, rest) else (false, '-' :: rest)
  | chars => (false, chars)

/-- The text is an optional sign the type reads and one or more digits, and spells `n`. -/
def Spells (ty : IntegerType) (text : List Char) (n : Int) : Prop :=
  ∃ sign digits, text = sign ++ digits ∧ (sign = [] ∨ sign = ['+'] ∨ ty.signed ∧ sign = ['-']) ∧
    digits ≠ [] ∧ (∀ c ∈ digits, c.isDigit) ∧ n = signedValue (sign = ['-']) (digitsValue digits)

/-- What a character does after the digits `done`: not a digit, or a digit leaving the range. -/
def fault (ty : IntegerType) (negative : Bool) (done : List Char) (c : Char) :
    Option IntegerError :=
  if !c.isDigit then some .invalidDigit
  else if ty.InRange (signedValue negative (digitsValue (done ++ [c]))) then none
  else some (if negative then .tooSmall else .tooLarge)

/-- After the digits `done`, the rest first goes wrong at a character with fault `e`. -/
def FaultsFirst (ty : IntegerType) (negative : Bool) (done rest : List Char) (e : IntegerError) :
    Prop :=
  ∃ before c after, rest = before ++ c :: after ∧ (∀ d ∈ before, d.isDigit) ∧
    ty.InRange (signedValue negative (digitsValue (done ++ before))) ∧
    ty.fault negative (done ++ before) c = some e

/-- Scanning the rest gives the value of all the digits when it fits, else the first fault. -/
def Scans (ty : IntegerType) (negative : Bool) (done rest : List Char) :
    Except IntegerError Int → Prop
  | .ok n => (∀ c ∈ rest, c.isDigit) ∧ n = signedValue negative (digitsValue (done ++ rest)) ∧
    ty.InRange n
  | .error e => ty.FaultsFirst negative done rest e

/-- A value for a text that spells one in range; else empty, a lone sign, or the first fault. -/
def Outcome (ty : IntegerType) (text : List Char) : Except IntegerError Int → Prop
  | .ok n => ty.Spells text n ∧ ty.InRange n
  | .error e =>
    if text = [] then e = .empty
    else (ty.unsign text).2 = [] ∧ e = .invalidDigit ∨
      ty.FaultsFirst (ty.unsign text).1 [] (ty.unsign text).2 e

theorem digitsValue_append_singleton (digits : List Char) (c : Char) :
    digitsValue (digits ++ [c]) = 10 * digitsValue digits + (c.toNat - '0'.toNat) := by
  simp [digitsValue, List.foldl_append]

theorem digitsValue_le_append (digits more : List Char) :
    digitsValue digits ≤ digitsValue (digits ++ more) := by
  induction more using List.reverseRecOn with
  | nil => simp
  | append_singleton more c ih =>
    rw [← List.append_assoc, digitsValue_append_singleton]
    omega

@[simp] theorem signedValue_false (magnitude : Nat) : signedValue false magnitude = magnitude := rfl

@[simp] theorem signedValue_true (magnitude : Nat) : signedValue true magnitude = -magnitude := rfl

theorem signedValue_zero (negative : Bool) : signedValue negative 0 = 0 := by
  cases negative <;> rfl

@[simp] theorem unsign_nil (ty : IntegerType) : ty.unsign [] = (false, []) := rfl

@[simp] theorem unsign_plus (ty : IntegerType) (rest : List Char) :
    ty.unsign ('+' :: rest) = (false, rest) := rfl

@[simp] theorem unsign_minus (ty : IntegerType) (rest : List Char) :
    ty.unsign ('-' :: rest) = if ty.signed then (true, rest) else (false, '-' :: rest) := rfl

theorem unsign_of_ne {ty : IntegerType} {c : Char} (plus : c ≠ '+') (minus : c ≠ '-')
    (rest : List Char) : ty.unsign (c :: rest) = (false, c :: rest) := by
  unfold unsign
  split
  next same => exact (plus (List.cons.inj same).1).elim
  next same => exact (minus (List.cons.inj same).1).elim
  next => rfl

/-- A text spells a value exactly when what follows its sign is one or more digits. -/
theorem spells_iff {ty : IntegerType} {text : List Char} {n : Int} :
    ty.Spells text n ↔ (ty.unsign text).2 ≠ [] ∧ (∀ c ∈ (ty.unsign text).2, c.isDigit) ∧
      n = signedValue (ty.unsign text).1 (digitsValue (ty.unsign text).2) := by
  constructor
  · rintro ⟨sign, digits, rfl, sign_read, filled, all_digits, rfl⟩
    rcases sign_read with rfl | rfl | ⟨signed, rfl⟩
    · obtain ⟨d, ds, rfl⟩ := List.exists_cons_of_ne_nil filled
      have digit := all_digits d (by simp)
      rw [List.nil_append, unsign_of_ne (by rintro rfl; simp at digit)
        (by rintro rfl; simp at digit)]
      exact ⟨filled, all_digits, by simp⟩
    · rw [List.singleton_append, unsign_plus]
      exact ⟨filled, all_digits, by simp⟩
    · rw [List.singleton_append, unsign_minus, if_pos signed]
      exact ⟨filled, all_digits, by simp⟩
  · rintro ⟨filled, all_digits, rfl⟩
    cases text with
    | nil => simp at filled
    | cons c rest =>
      by_cases plus : c = '+'
      · subst plus
        exact ⟨['+'], rest, rfl, by simp, filled, all_digits, by simp⟩
      by_cases minus : c = '-'
      · subst minus
        cases signed : ty.signed
        · -- an unsigned type reads `-` as the first character, which is no digit
          simp [signed] at all_digits
        · simp only [unsign_minus, signed, if_true] at filled all_digits ⊢
          exact ⟨['-'], rest, rfl, by simp [signed], filled, all_digits, by simp⟩
      · rw [unsign_of_ne plus minus] at filled all_digits ⊢
        exact ⟨[], c :: rest, rfl, .inl rfl, filled, all_digits, by simp⟩

theorem accumulate_unsigned_minus (ty : IntegerType) (acc : Int) (rest : List Char) :
    ty.accumulate false acc ('-' :: rest) = .error .invalidDigit := by
  simp [accumulate]

/-- The reader refuses the empty text and a lone sign, and otherwise scans past the sign. -/
theorem read_eq_unsign (ty : IntegerType) (text : String) :
    ty.read text = if text.toList = [] then .error .empty
      else if (ty.unsign text.toList).2 = [] then .error .invalidDigit
      else ty.accumulate (ty.unsign text.toList).1 0 (ty.unsign text.toList).2 := by
  unfold read
  split
  next empty => simp [empty]
  next plus => simp [plus]
  next minus =>
    cases signed : ty.signed <;> simp [minus, signed, accumulate_unsigned_minus]
  next rest filled plus => simp [plus, show rest ≠ [] from filled]
  next rest filled minus =>
    cases signed : ty.signed <;>
      simp [minus, signed, show rest ≠ [] from filled, accumulate_unsigned_minus]
  next chars nonempty _ _ noPlus noMinus =>
    obtain ⟨c, rest, split⟩ := List.exists_cons_of_ne_nil nonempty
    rw [split, unsign_of_ne (fun same => noPlus rest (by rw [split, same]))
      (fun same => noMinus rest (by rw [split, same]))]
    simp

theorem fault_eq_none_iff {ty : IntegerType} {negative : Bool} {done : List Char} {c : Char} :
    ty.fault negative done c = none ↔
      c.isDigit ∧ ty.InRange (signedValue negative (digitsValue (done ++ [c]))) := by
  unfold fault
  by_cases digit : c.isDigit <;>
    by_cases inside : ty.InRange (signedValue negative (digitsValue (done ++ [c]))) <;>
    simp [digit, inside]

theorem not_faultsFirst_nil {ty : IntegerType} {negative : Bool} {done : List Char}
    {e : IntegerError} : ¬ ty.FaultsFirst negative done [] e := by
  rintro ⟨before, c, after, split, -⟩
  simp at split

/-- The first fault of a rest is at its first character, or after it when that is a digit. -/
theorem faultsFirst_cons_iff {ty : IntegerType} {negative : Bool} {done : List Char} {c : Char}
    {rest : List Char} {e : IntegerError} :
    ty.FaultsFirst negative done (c :: rest) e ↔
      (ty.InRange (signedValue negative (digitsValue done)) ∧
          ty.fault negative done c = some e) ∨
        (c.isDigit ∧ ty.FaultsFirst negative (done ++ [c]) rest e) := by
  constructor
  · rintro ⟨before, c', after, split, digits, inside, faulted⟩
    cases before with
    | nil =>
      obtain ⟨rfl, rfl⟩ := List.cons.inj split
      exact .inl ⟨by simpa using inside, by simpa using faulted⟩
    | cons d before =>
      obtain ⟨rfl, rfl⟩ := List.cons.inj split
      refine .inr ⟨digits c (by simp), before, c', after, rfl,
        fun x mem => digits x (by simp [mem]), by simpa using inside, by simpa using faulted⟩
  · rintro (⟨inside, faulted⟩ | ⟨digit, before, c', after, rfl, digits, inside, faulted⟩)
    · exact ⟨[], c, rest, rfl, by simp, by simpa using inside, by simpa using faulted⟩
    · refine ⟨c :: before, c', after, rfl, ?_, by simpa using inside, by simpa using faulted⟩
      simpa [digit] using digits

theorem scans_nil {ty : IntegerType} {negative : Bool} {done : List Char}
    (inside : ty.InRange (signedValue negative (digitsValue done))) (r : Except IntegerError Int) :
    ty.Scans negative done [] r ↔ r = .ok (signedValue negative (digitsValue done)) := by
  cases r with
  | ok n =>
    simp only [Scans, List.not_mem_nil, false_implies, implies_true, List.append_nil, true_and,
      Except.ok.injEq]
    constructor
    · exact fun ⟨same, _⟩ => same
    · rintro rfl
      exact ⟨rfl, inside⟩
  | error e => simp [Scans, not_faultsFirst_nil]

/-- A digit that keeps the value in the range passes the scan on to the rest. -/
theorem scans_cons_of_pass {ty : IntegerType} {negative : Bool} {done : List Char} {c : Char}
    (passes : ty.fault negative done c = none) (rest : List Char) (r : Except IntegerError Int) :
    ty.Scans negative done (c :: rest) r ↔ ty.Scans negative (done ++ [c]) rest r := by
  obtain ⟨digit, -⟩ := fault_eq_none_iff.mp passes
  cases r with
  | ok n => simp [Scans, digit]
  | error e => simp [Scans, faultsFirst_cons_iff, passes, digit]

section Range

variable {ty : IntegerType} (zero : ty.InRange 0)
include zero

/-- More digits never bring a value back into the range. -/
theorem not_inRange_append {negative : Bool} {digits : List Char}
    (outside : ¬ ty.InRange (signedValue negative (digitsValue digits))) (more : List Char) :
    ¬ ty.InRange (signedValue negative (digitsValue (digits ++ more))) := by
  have grows := digitsValue_le_append digits more
  unfold InRange at zero outside ⊢
  cases negative <;> simp only [signedValue_false, signedValue_true] at outside ⊢ <;> omega

theorem inRange_of_append {negative : Bool} {digits more : List Char}
    (inside : ty.InRange (signedValue negative (digitsValue (digits ++ more)))) :
    ty.InRange (signedValue negative (digitsValue digits)) :=
  not_not.mp fun outside => not_inRange_append zero outside more inside

/-- The reader's two range checks agree with one check of the whole range on a signed value. -/
theorem range_checks (negative : Bool) (magnitude : Nat) (k : Except IntegerError Int) :
    (if signedValue negative magnitude > ty.max then .error .tooLarge
      else if signedValue negative magnitude < ty.min then .error .tooSmall else k) =
    if ty.InRange (signedValue negative magnitude) then k
      else .error (if negative then .tooSmall else .tooLarge) := by
  obtain ⟨low, high⟩ := zero
  cases negative
  · -- without `-` the value is at least zero, above the minimum
    have above : ty.min ≤ (magnitude : Int) := by omega
    by_cases fits : (magnitude : Int) ≤ ty.max
    · simp [InRange, not_lt.mpr fits, not_lt.mpr above, above, fits]
    · simp [InRange, lt_of_not_ge fits, fits]
  · -- with `-` the value is at most zero, below the maximum
    have below : -(magnitude : Int) ≤ ty.max := by omega
    by_cases fits : ty.min ≤ -(magnitude : Int)
    · simp [InRange, not_lt.mpr fits, not_lt.mpr below, fits, below]
    · simp [InRange, lt_of_not_ge fits, not_lt.mpr below, fits]

/-- One step of the scan: a fault ends it, a digit in range goes on. -/
theorem accumulate_cons (negative : Bool) (done : List Char) (c : Char) (rest : List Char) :
    ty.accumulate negative (signedValue negative (digitsValue done)) (c :: rest) =
      match ty.fault negative done c with
      | some e => .error e
      | none => ty.accumulate negative (signedValue negative (digitsValue (done ++ [c]))) rest := by
  have next : (if negative then signedValue negative (digitsValue done) * 10 -
        Int.ofNat (c.toNat - '0'.toNat)
      else signedValue negative (digitsValue done) * 10 + Int.ofNat (c.toNat - '0'.toNat)) =
      signedValue negative (digitsValue (done ++ [c])) := by
    rw [digitsValue_append_singleton]
    cases negative <;> simp only [signedValue_false, signedValue_true, if_true, if_false,
      Bool.false_eq_true, Int.ofNat_eq_natCast] <;> push_cast <;> ring
  rw [accumulate.eq_2]
  dsimp only
  rw [next]
  unfold fault
  by_cases digit : c.isDigit
  · simp only [digit, Bool.not_true, Bool.false_eq_true, if_false]
    rw [range_checks zero]
    by_cases inside : ty.InRange (signedValue negative (digitsValue (done ++ [c])))
    · simp only [inside, if_true]
    · simp only [inside, if_false]
  · simp [digit]

/-- A character with a fault ends the scan with that fault. -/
theorem scans_cons_of_fault {negative : Bool} {done : List Char} {c : Char} {e : IntegerError}
    (inside : ty.InRange (signedValue negative (digitsValue done)))
    (faulted : ty.fault negative done c = some e) (rest : List Char) (r : Except IntegerError Int) :
    ty.Scans negative done (c :: rest) r ↔ r = .error e := by
  have stops : c.isDigit → ¬ ty.InRange (signedValue negative (digitsValue (done ++ [c]))) :=
    fun digit fits => by simp [fault_eq_none_iff.mpr ⟨digit, fits⟩] at faulted
  cases r with
  | ok n =>
    simp only [Scans, reduceCtorEq, iff_false, not_and]
    rintro digits rfl
    simpa using not_inRange_append zero (stops (digits c (by simp))) rest
  | error e' =>
    simp only [Scans, faultsFirst_cons_iff, inside, true_and, faulted, Option.some.injEq,
      Except.error.injEq]
    constructor
    · rintro (same | ⟨digit, before, c', after, -, -, fits, -⟩)
      · exact same.symm
      · exact (stops digit (inRange_of_append zero (by simpa using fits))).elim
    · exact fun same => .inl same.symm

/-- The whole scan after the digits `done` gives exactly what `Scans` says. -/
theorem accumulate_eq_iff (negative : Bool) :
    ∀ (rest done : List Char) (r : Except IntegerError Int),
      ty.InRange (signedValue negative (digitsValue done)) →
      (ty.accumulate negative (signedValue negative (digitsValue done)) rest = r ↔
        ty.Scans negative done rest r)
  | [], done, r, inside => by
    rw [accumulate.eq_1, scans_nil inside, eq_comm]
  | c :: rest, done, r, inside => by
    rw [accumulate_cons zero]
    cases faulted : ty.fault negative done c with
    | some e => rw [scans_cons_of_fault zero inside faulted, eq_comm]
    | none =>
      rw [scans_cons_of_pass faulted]
      exact accumulate_eq_iff negative rest (done ++ [c]) r (fault_eq_none_iff.mp faulted).2

/-- Reading a text gives exactly the outcome the grammar and the first fault describe. -/
theorem read_eq_iff_outcome (text : String) (r : Except IntegerError Int) :
    ty.read text = r ↔ ty.Outcome text.toList r := by
  rw [read_eq_unsign]
  by_cases empty : text.toList = []
  · cases r with
    | ok n => simp [empty, Outcome, spells_iff]
    | error e => simp [empty, Outcome, eq_comm]
  · have start : (0 : Int) = signedValue (ty.unsign text.toList).1 (digitsValue []) :=
      (signedValue_zero _).symm
    by_cases bare : (ty.unsign text.toList).2 = []
    · -- a sign alone
      cases r with
      | ok n => simp [empty, bare, Outcome, spells_iff]
      | error e => simp [empty, bare, Outcome, not_faultsFirst_nil, eq_comm]
    · rw [if_neg empty, if_neg bare, start, accumulate_eq_iff zero _ _ [] r (start ▸ zero)]
      cases r with
      | ok n => simp [Outcome, Scans, spells_iff, bare, and_assoc]
      | error e => simp [Outcome, Scans, empty, bare]

end Range

theorem int64_inRange_zero : int64.InRange 0 := by decide

theorem int8_inRange_zero : int8.InRange 0 := by decide

theorem uint16_inRange_zero : uint16.InRange 0 := by decide

example : int8.read "-128" = .ok (-128) ∧ int8.read "127" = .ok 127 ∧
    int8.read "-129" = .error .tooSmall ∧ int8.read "1x000" = .error .invalidDigit ∧
    int8.read "1000x" = .error .tooLarge ∧ uint16.read "-0" = .error .invalidDigit := by
  decide

end IntegerType

namespace IntegerError

/-- Each fault has its own words. -/
theorem message_injective : Function.Injective message := by
  intro e e'
  cases e <;> cases e' <;> decide

end IntegerError

/-- An integer reader's outcome: the integer, or a conversion failure worded by the fault. -/
def integerResult (name typeName : String) : Except IntegerError Int → Except NamingError Value
  | .ok n => .ok (.integer n)
  | .error e => .error (.conversionFailure name typeName e.message)

theorem integerResult_inj {name typeName : String} {outcome outcome' : Except IntegerError Int} :
    integerResult name typeName outcome = integerResult name typeName outcome' ↔
      outcome = outcome' := by
  constructor
  · intro same
    cases outcome <;> cases outcome' <;> simp only [integerResult, Except.ok.injEq,
      Except.error.injEq, reduceCtorEq, Value.integer.injEq, NamingError.conversionFailure.injEq,
      true_and] at same
    · rw [IntegerError.message_injective same]
    · rw [same]
  · rintro rfl
    rfl

/-- A text value read as an integer type reports the type's reading of the text. -/
theorem readAs_integer (ty : IntegerType) (name text : String) :
    (Value.text text).readAs (.integer ty) name = integerResult name ty.name (ty.read text) := by
  simp only [Value.readAs, ReadTarget.read, ReadTarget.name]
  cases ty.read text <;> rfl

/-- The integer converter reports the reading of the trimmed raw text as `i64`. -/
theorem convert_integer (raw : String) (d : TypeDescriptor) :
    Converter.integer.convert (some raw) d =
      integerResult d.label "integer" (IntegerType.int64.read (Unicode.trim raw)) := by
  simp only [Converter.integer, Converter.required, bind, Except.bind]
  cases IntegerType.int64.read (Unicode.trim raw) <;> rfl

/-- Texts read as `i64`, `i8` or `u16`, and the integer converter's trimmed texts, give exactly the
value of an optional sign and digits within the type's range, or the first fault. -/
theorem integer_text_reads_exactly_within_limits :
    (∀ (name text : String) (outcome : Except IntegerError Int),
      (Value.text text).readAs (.integer .int64) name = integerResult name "i64" outcome ↔
        IntegerType.int64.Outcome text.toList outcome) ∧
    (∀ (name text : String) (outcome : Except IntegerError Int),
      (Value.text text).readAs (.integer .int8) name = integerResult name "i8" outcome ↔
        IntegerType.int8.Outcome text.toList outcome) ∧
    (∀ (name text : String) (outcome : Except IntegerError Int),
      (Value.text text).readAs (.integer .uint16) name = integerResult name "u16" outcome ↔
        IntegerType.uint16.Outcome text.toList outcome) ∧
    (∀ (raw : String) (d : TypeDescriptor) (outcome : Except IntegerError Int),
      Converter.integer.convert (some raw) d = integerResult d.label "integer" outcome ↔
        IntegerType.int64.Outcome (Unicode.trim raw).toList outcome) := by
  refine ⟨fun name text outcome => ?_, fun name text outcome => ?_, fun name text outcome => ?_,
    fun raw d outcome => ?_⟩
  · rw [readAs_integer, show IntegerType.int64.name = "i64" from rfl, integerResult_inj,
      IntegerType.read_eq_iff_outcome IntegerType.int64_inRange_zero]
  · rw [readAs_integer, show IntegerType.int8.name = "i8" from rfl, integerResult_inj,
      IntegerType.read_eq_iff_outcome IntegerType.int8_inRange_zero]
  · rw [readAs_integer, show IntegerType.uint16.name = "u16" from rfl, integerResult_inj,
      IntegerType.read_eq_iff_outcome IntegerType.uint16_inRange_zero]
  · rw [convert_integer, integerResult_inj,
      IntegerType.read_eq_iff_outcome IntegerType.int64_inRange_zero]

end NamingDirectory
