import Mathlib
import NamingDirectory.Source.Text

/-!
The size guard of sources read from bytes decodes before it measures (`ofBytes_outcome`).
-/

namespace NamingDirectory

namespace TextSource

/-- The bytes that are decoded before the size is checked. -/
abbrev head (data : ByteArray) : ByteArray := data.extract 0 (maxSourceSize + 1)

/-- The failure of a stream longer than the limit. -/
def tooLarge (format : RecordFormat) : NamingError :=
  .sourceError format.name "Record source too large (max 10485760 bytes)"

/-- The failure of a stream that is not UTF-8. -/
def notUTF8 : NamingError := .ioError "stream did not contain valid UTF-8"

/-- Within the limit the whole stream is decoded. -/
theorem head_of_size_le {data : ByteArray} (within : data.size ≤ maxSourceSize) :
    head data = data := by
  rw [head, show maxSourceSize + 1 = max (maxSourceSize + 1) data.size by omega,
    ByteArray.extract_zero_max_size]

/-- A stream longer than the limit fails, as too large when its head is UTF-8. -/
theorem ofBytes_of_lt {format : RecordFormat} {data : ByteArray}
    (oversized : maxSourceSize < data.size) :
    ofBytes format data =
      .error (if (head data).IsValidUTF8 then tooLarge format else notUTF8) := by
  have long : maxSourceSize < (head data).size := by
    simp only [ByteArray.size_extract]
    omega
  by_cases valid : (head data).IsValidUTF8
  · simp only [ofBytes, String.fromUTF8?, valid, dite_true, if_true, long, tooLarge]
    rfl
  · simp [ofBytes, String.fromUTF8?, valid, notUTF8]

/-- A stream within the limit is decoded whole. -/
theorem ofBytes_of_size_le {format : RecordFormat} {data : ByteArray}
    (within : data.size ≤ maxSourceSize) :
    ofBytes format data = match String.fromUTF8? data with
      | some content => .ok (new format content)
      | none => .error notUTF8 := by
  have whole := head_of_size_le within
  simp only [ofBytes, whole]
  cases String.fromUTF8? data with
  | none => rfl
  | some content => simp [Nat.not_lt.mpr within]

/-- Invalid UTF-8 in the first 10 MiB and one byte fails first, then an overlong stream fails as too
large, and a stream within the limit gives its text. -/
theorem ofBytes_outcome (format : RecordFormat) (data : ByteArray) :
    (ofBytes format data = .error (tooLarge format) ↔
      maxSourceSize < data.size ∧ (head data).IsValidUTF8) ∧
    (ofBytes format data = .error notUTF8 ↔ ¬ (head data).IsValidUTF8) ∧
    (∀ source, ofBytes format data = .ok source ↔
      data.size ≤ maxSourceSize ∧ ∃ content, String.fromUTF8? data = some content ∧
        source = new format content) := by
  by_cases oversized : maxSourceSize < data.size
  · rw [ofBytes_of_lt oversized]
    by_cases valid : (head data).IsValidUTF8 <;> simp [oversized, valid, tooLarge, notUTF8]
  · have within : data.size ≤ maxSourceSize := by omega
    rw [ofBytes_of_size_le within, head_of_size_le within]
    cases decoded : String.fromUTF8? data with
    | none =>
      have invalid : ¬ data.IsValidUTF8 := fun valid => by
        simp [String.fromUTF8?, valid] at decoded
      simp [oversized, invalid, tooLarge, notUTF8]
    | some content =>
      have valid : data.IsValidUTF8 := by
        by_contra invalid
        simp [String.fromUTF8?, invalid] at decoded
      refine ⟨by simp [oversized], by simp [valid], fun source => ?_⟩
      simp [within, eq_comm]

/-- A byte array whose first character cannot be decoded is not UTF-8. -/
theorem not_isValidUTF8_of_utf8DecodeChar?_eq_none {b : ByteArray} (nonempty : 0 < b.size)
    (stuck : b.utf8DecodeChar? 0 = none) : ¬ b.IsValidUTF8 := by
  intro valid
  have decoded := ByteArray.isSome_utf8Decode?_iff.mpr valid
  rw [ByteArray.utf8Decode?, ByteArray.utf8Decode?.go, if_pos nonempty] at decoded
  split at decoded
  · simp at decoded
  · next found =>
    rw [stuck] at found
    cases found

/-- A two-byte lead followed by a byte that cannot end it decodes to nothing. -/
theorem utf8DecodeChar?_eq_none_of_unfinished_pair {b : ByteArray} (two : 1 < b.size)
    (lead : ByteArray.utf8DecodeChar?.parseFirstByte b[0] = .oneMore)
    (unfinished : ByteArray.utf8DecodeChar?.assemble₂ b[0] b[1] = none) :
    b.utf8DecodeChar? 0 = none := by
  unfold ByteArray.utf8DecodeChar?
  rw [dif_pos (by omega)]
  split
  · rfl
  · next other => rw [lead] at other; cases other
  · rw [dif_pos two, unfinished]
  · next other => rw [lead] at other; cases other
  · next other => rw [lead] at other; cases other

/-- A stream of 10 MiB and one byte `0xC3` fails as invalid UTF-8, not as too large. -/
theorem oversized_invalid_stream_fails_as_invalid_utf8 :
    let data : ByteArray := ⟨Array.replicate (maxSourceSize + 1) 0xC3⟩
    maxSourceSize < data.size ∧ ofBytes .properties data = .error notUTF8 ∧
      ofBytes .properties data ≠ .error (tooLarge .properties) := by
  intro data
  have limit : maxSourceSize = 10485760 := rfl
  have size : data.size = maxSourceSize + 1 := by simp [data, ByteArray.size]
  have byte (i : Nat) (inside : i < data.size) : data[i] = 0xC3 := by
    simp [data, ByteArray.getElem_eq_getElem_data]
  have whole : head data = data := by
    rw [head, ← size, ByteArray.extract_zero_size]
  have stuck : data.utf8DecodeChar? 0 = none :=
    utf8DecodeChar?_eq_none_of_unfinished_pair (by omega) (by rw [byte]; rfl)
      (by rw [byte, byte]; decide)
  have invalid : ¬ (head data).IsValidUTF8 := by
    rw [whole]
    exact not_isValidUTF8_of_utf8DecodeChar?_eq_none (by omega) stuck
  have failed : ofBytes .properties data = .error notUTF8 := by
    rw [ofBytes_of_lt (by omega), if_neg invalid]
  exact ⟨by omega, failed, by simp [failed, notUTF8, tooLarge]⟩

end TextSource

end NamingDirectory
