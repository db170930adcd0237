/-
Cells that are sent back as parameters.

A value that was read from a cell is sent with the bytes of the cell when it becomes a parameter of
the column's type.  Three kinds of cells are exceptions: truth values in another byte than 0 and 1,
times that do not lie within a day, and moments in full whose year is written with a sign, which
nothing reads.
-/
import ObjectQuery.Cell.Postgresql.Server
import ObjectQuery.Proofs.Calendar.Reading
import ObjectQuery.Proofs.Cell.BigEndian
import ObjectQuery.Proofs.Number.Conversion
import ObjectQuery.Proofs.Outcome
import ObjectQuery.Proofs.Text.Utf8

namespace ObjectQuery
namespace Cell
namespace Postgresql

open Calendar Number

/-- The year of a point in time. -/
def yearOf (microseconds : Int) : Int :=
  (Date.ofDayNumber (microseconds / (dayMicroseconds : Int))).year

/-- Whether a cell's bytes are those that are sent for its value. -/
def ColumnType.Repeats (type : ColumnType) (bytes : List UInt8) : Prop :=
  match type with
  | .bool => bytes = [0] ∨ bytes = [1]
  | .time => 0 ≤ signedOf bytes ∧ signedOf bytes < (dayMicroseconds : Int)
  | .timestamptz => 0 ≤ yearOf (signedOf bytes) ∧ yearOf (signedOf bytes) ≤ 9999
  | _ => True

theorem exactly_eq_ok {width : Nat} {surplus : CellFault} {bytes taken : List UInt8} :
    exactly width surplus bytes = .ok taken ↔ bytes.length = width ∧ bytes = taken := by
  unfold exactly
  split
  · constructor
    · rintro ⟨⟩
    · omega
  split
  · constructor
    · rintro ⟨⟩
    · omega
  · have whole : bytes.length = width := by omega
    simp [whole]

section

variable {bytes : List UInt8} {value : Value}

/-! ## Numbers -/

theorem bindInteger_signedOf (some_byte : 0 < bytes.length) :
    bindInteger bytes.length (signedOf bytes) = .ok bytes := by
  have within := has_signedOf some_byte
  simp only [IntegerRange.has, Bool.and_eq_true, decide_eq_true_eq] at within
  simp only [bindInteger]
  rw [if_neg (by omega), if_neg (by omega), bigEndian_signedOf]

theorem bindSpan_signedOf (some_byte : 0 < bytes.length) :
    bindSpan bytes.length (signedOf bytes) = .ok bytes := by
  rw [bindSpan, if_pos (has_signedOf some_byte), bigEndian_signedOf]

/-- Eight bytes are enough for the numbers of fewer bytes. -/
theorem toInt_ofInt_signedOf (some_byte : 0 < bytes.length) (few : bytes.length ≤ 8) :
    (Int64.ofInt (signedOf bytes)).toInt = signedOf bytes := by
  have within := has_signedOf some_byte
  have narrow : Nat.pow 2 (8 * bytes.length - 1) ≤ Nat.pow 2 63 :=
    Nat.pow_le_pow_right (by decide) (by omega)
  have wide : Nat.pow 2 63 = 9223372036854775808 := rfl
  simp only [IntegerRange.has, Bool.and_eq_true, decide_eq_true_eq] at within
  simp only [IntegerRange.signed] at within
  exact Int64.toInt_ofInt_of_le (by omega) (by omega)

theorem readInteger_eq_ok {width : Nat} (read : readInteger width bytes = .ok value) :
    bytes.length = width ∧ value = .int (Int64.ofInt (signedOf bytes)) := by
  obtain ⟨taken, whole, same⟩ := Outcome.bind_eq_ok.mp read
  obtain ⟨length, rfl⟩ := exactly_eq_ok.mp whole
  exact ⟨length, (Outcome.pure_eq_ok.mp same).symm⟩

theorem bindInteger_of_readInteger {width : Nat} (positive : 0 < width) (few : width ≤ 8)
    (read : readInteger width bytes = .ok value) :
    ∃ i, value = .int i ∧ bindInteger width i.toInt = .ok bytes := by
  obtain ⟨rfl, rfl⟩ := readInteger_eq_ok read
  exact ⟨_, rfl, by rw [toInt_ofInt_signedOf positive few, bindInteger_signedOf positive]⟩

theorem bindBinary_of_readBinary {f : Format} {width : Nat} {x : Binary f}
    (patterns : 256 ^ width = 2 * f.signBit) (read : readBinary f width bytes = .ok x) :
    x = .ofBits f (unsignedOf bytes) ∧ bindBinary width x = bytes := by
  obtain ⟨taken, whole, same⟩ := Outcome.bind_eq_ok.mp read
  obtain ⟨rfl, rfl⟩ := exactly_eq_ok.mp whole
  have same : .ofBits f (unsignedOf bytes) = x := Outcome.pure_eq_ok.mp same
  have fits : unsignedOf bytes < 2 * f.signBit := patterns ▸ unsignedOf_lt bytes
  rw [← same, bindBinary, Binary.toBits_ofBits fits, bigEndian_unsignedOf]
  exact ⟨rfl, rfl⟩

/-! ## Dates and times -/

theorem bindText_of_readDate (read : readDate bytes = .ok value) :
    ∃ text, value = .text text ∧ bindText .date text = .ok bytes := by
  obtain ⟨taken, whole, rest⟩ := Outcome.bind_eq_ok.mp read
  obtain ⟨length, rfl⟩ := exactly_eq_ok.mp whole
  simp only at rest
  split at rest
  · next valid =>
    refine ⟨_, (Outcome.pure_eq_ok.mp rest).symm, ?_⟩
    have positive : 0 < bytes.length := by omega
    have bound := bindSpan_signedOf positive
    rw [length] at bound
    rw [bindText, Date.read_write valid, Except.mapError, Outcome.ok_bind,
      Date.dayNumber_ofDayNumber, bound]
  · contradiction

theorem readTime_eq_ok (read : readTime bytes = .ok value) :
    bytes.length = 8 ∧ value = .text (String.ofList (Time.ofMicroseconds (signedOf bytes)).write) := by
  obtain ⟨taken, whole, rest⟩ := Outcome.bind_eq_ok.mp read
  obtain ⟨length, rfl⟩ := exactly_eq_ok.mp whole
  exact ⟨length, (Outcome.pure_eq_ok.mp rest).symm⟩

theorem bindText_time {text : String} {time : Time} (read : Time.read text = .ok time) :
    bindText .time text = bindSpan 8 (time.nanoseconds / 1000 : Nat) := by
  rw [bindText, read, Except.mapError, Outcome.ok_bind]

theorem bindSpan_within_day {microseconds : Int} (low : 0 ≤ microseconds)
    (high : microseconds < (dayMicroseconds : Int)) :
    bindSpan 8 microseconds = .ok (bigEndian 8 microseconds) := by
  have day : dayMicroseconds = 86400000000 := rfl
  have half : Nat.pow 2 (8 * 8 - 1) = 9223372036854775808 := rfl
  have within : (IntegerRange.signed (8 * 8)).has microseconds = true := by
    simp only [IntegerRange.has, Bool.and_eq_true, decide_eq_true_eq]
    simp only [IntegerRange.signed, half]
    omega
  rw [bindSpan, if_pos within]

/-- A time is sent as the time of day that it comes to. -/
theorem bindText_ofMicroseconds (microseconds : Int) :
    bindText .time (String.ofList (Time.ofMicroseconds microseconds).write) =
      .ok (bigEndian 8 (microseconds % (dayMicroseconds : Int))) := by
  have positive : (0 : Int) < dayMicroseconds := by decide
  have whole : (((Time.ofMicroseconds microseconds).nanoseconds / 1000 : Nat) : Int) =
      microseconds % (dayMicroseconds : Int) := by
    have exact := Time.nanoseconds_ofMicroseconds microseconds
    omega
  rw [bindText_time (Time.read_write (Time.regular_ofMicroseconds microseconds)), whole]
  exact bindSpan_within_day (Int.emod_nonneg _ (by omega)) (Int.emod_lt_of_pos _ positive)

theorem readMoment_eq_ok {moment : Moment} (read : readMoment bytes = .ok moment) :
    bytes.length = 8 ∧ Moment.ofMicroseconds? (signedOf bytes) = some moment := by
  obtain ⟨taken, whole, rest⟩ := Outcome.bind_eq_ok.mp read
  obtain ⟨length, rfl⟩ := exactly_eq_ok.mp whole
  simp only at rest
  split at rest
  · next found =>
    rw [← Outcome.pure_eq_ok.mp rest]
    exact ⟨length, found⟩
  · contradiction

theorem bindText_timestamp {moment : Moment} (read : readMoment bytes = .ok moment) :
    bindText .timestamp (String.ofList (moment.write ' ')) = .ok bytes := by
  obtain ⟨length, supported⟩ := readMoment_eq_ok read
  obtain ⟨-, valid, time⟩ := Moment.ofMicroseconds?_eq_some supported
  have regular : moment.time.Regular := time ▸ Time.regular_ofMicroseconds _
  have positive : 0 < bytes.length := by omega
  have bound := bindSpan_signedOf positive
  rw [length] at bound
  rw [bindText, Moment.read_write valid regular, Except.mapError, Outcome.ok_bind,
    Moment.microseconds_ofMicroseconds? supported, bound]

theorem bindText_timestamptz {text : String} :
    bindText .timestamptz text =
      (readMicroseconds text).mapError BindFault.calendar >>= bindSpan 8 := by
  rw [bindText]

/-- A moment in full is sent back as it is if its year has four digits, and else not at all. -/
theorem bindText_timestamptz_iff {moment : Moment} (read : readMoment bytes = .ok moment) :
    bindText .timestamptz (String.ofList (moment.write 'T' ++ Reader.unshifted)) = .ok bytes ↔
      ColumnType.timestamptz.Repeats bytes := by
  obtain ⟨length, supported⟩ := readMoment_eq_ok read
  obtain ⟨date, valid, time⟩ := Moment.ofMicroseconds?_eq_some supported
  have regular : moment.time.Regular := time ▸ Time.regular_ofMicroseconds _
  have positive : 0 < bytes.length := by omega
  have bound := bindSpan_signedOf positive
  rw [length] at bound
  have year : yearOf (signedOf bytes) = moment.date.year := by rw [yearOf, ← date]
  rw [ColumnType.Repeats, year, bindText_timestamptz]
  by_cases short : 0 ≤ moment.date.year ∧ moment.date.year ≤ 9999
  · refine iff_of_true ?_ short
    rw [readMicroseconds_write valid regular short, Except.mapError, Outcome.ok_bind,
      Moment.microseconds_ofMicroseconds? supported, bound]
  · refine iff_of_false ?_ short
    obtain ⟨fault, refused⟩ := readMicroseconds_write_signed valid regular short
    rw [refused]
    rintro ⟨⟩

/-- A time is sent back as it is if it lies within a day. -/
theorem bindText_time_iff (length : bytes.length = 8) :
    bindText .time (String.ofList (Time.ofMicroseconds (signedOf bytes)).write) = .ok bytes ↔
      ColumnType.time.Repeats bytes := by
  have day : (dayMicroseconds : Int) = 86400000000 := rfl
  have whole : bigEndian 8 (signedOf bytes) = bytes := length ▸ bigEndian_signedOf bytes
  rw [bindText_ofMicroseconds, Except.ok.injEq, ColumnType.Repeats, day]
  constructor
  · intro same
    have again : signedOf (bigEndian 8 (signedOf bytes % 86400000000)) =
        signedOf bytes % 86400000000 :=
      signedOf_bigEndian (by omega) (by omega)
    rw [same] at again
    omega
  · rintro ⟨low, high⟩
    rw [Int.emod_eq_of_lt low high, whole]

/-! ## All cells -/

theorem bind_text {type : ColumnType} {text : String} :
    bind type (.text text) = .ok (some bytes) ↔ bindText type text = .ok bytes := by
  rw [bind, Outcome.map_eq_ok]
  simp

theorem bind_of_readText {type : ColumnType} (plain : type.takesText = true)
    (read : readText bytes = .ok value) : bind type value = .ok (some bytes) := by
  obtain ⟨text, found, rfl⟩ := Outcome.map_eq_ok.mp read
  have decoded : Text.Utf8.decode bytes = .ok text := by
    cases whole : Text.Utf8.decode bytes with
    | error fault =>
      rw [whole] at found
      contradiction
    | ok text' =>
      rw [whole] at found
      cases found
      rfl
  rw [bind_text, ← Text.Utf8.encode_of_decode decoded]
  cases type <;> first | rfl | contradiction

/-- A truth value is sent in the byte 0 or 1. -/
theorem bind_truth (b : UInt8) :
    bind .bool (.bool (b != 0)) = .ok (some [b]) ↔ ColumnType.bool.Repeats [b] := by
  rw [bind, ColumnType.Repeats]
  by_cases zero : b = 0
  · simp [zero]
  · simpa [zero] using eq_comm

theorem bind_of_reader {type : ColumnType} {reader : List UInt8 → Except CellFault Value}
    (found : reader? type = some reader) (read : reader bytes = .ok value)
    (defined : type = .float4 → (Binary.ofBits .single (unsignedOf bytes)).isNaN = false) :
    bind type value = .ok (some bytes) ↔ type.Repeats bytes := by
  cases type with
  | bool =>
    cases found
    match bytes, read with
    | [b], read =>
      cases read
      exact bind_truth b
  | int2 =>
    cases found
    obtain ⟨i, rfl, bound⟩ := bindInteger_of_readInteger (by decide) (by decide) read
    exact iff_of_true (by rw [bind, bound]; rfl) trivial
  | int4 =>
    cases found
    obtain ⟨i, rfl, bound⟩ := bindInteger_of_readInteger (by decide) (by decide) read
    exact iff_of_true (by rw [bind, bound]; rfl) trivial
  | int8 =>
    cases found
    obtain ⟨i, rfl, bound⟩ := bindInteger_of_readInteger (by decide) (by decide) read
    exact iff_of_true (by rw [bind, bound]; rfl) trivial
  | float4 =>
    cases found
    obtain ⟨x, number, rfl⟩ := Outcome.map_eq_ok.mp read
    obtain ⟨same, bound⟩ := bindBinary_of_readBinary (by decide) number
    refine iff_of_true ?_ trivial
    rw [bind, Binary.convert_convert_single x (same ▸ defined rfl), bound]
  | float8 =>
    cases found
    obtain ⟨x, number, rfl⟩ := Outcome.map_eq_ok.mp read
    obtain ⟨same, bound⟩ := bindBinary_of_readBinary (by decide) number
    exact iff_of_true (by rw [bind, bound]) trivial
  | text => cases found; exact iff_of_true (bind_of_readText rfl read) trivial
  | varchar => cases found; exact iff_of_true (bind_of_readText rfl read) trivial
  | bpchar => cases found; exact iff_of_true (bind_of_readText rfl read) trivial
  | name => cases found; exact iff_of_true (bind_of_readText rfl read) trivial
  | unknown => contradiction
  | date =>
    cases found
    obtain ⟨text, rfl, bound⟩ := bindText_of_readDate read
    exact iff_of_true (bind_text.mpr bound) trivial
  | time =>
    cases found
    obtain ⟨length, rfl⟩ := readTime_eq_ok read
    rw [bind_text, bindText_time_iff length]
  | timestamp =>
    cases found
    obtain ⟨moment, found, rfl⟩ := Outcome.map_eq_ok.mp read
    exact iff_of_true (bind_text.mpr (bindText_timestamp found)) trivial
  | timestamptz =>
    cases found
    obtain ⟨moment, found, rfl⟩ := Outcome.map_eq_ok.mp read
    rw [bind_text]
    exact bindText_timestamptz_iff found
  | other name => contradiction

end

/-- A cell, null included, is sent back as it is when its value is a parameter of the column's type,
unless its type does not repeat its bytes. A number that is undefined has no value of its own. -/
theorem bind_readCell_iff {position : Nat} {column : Column} {wire : Wire} {value : Value}
    (read : readCell position column wire = .ok value)
    (defined : column.type = .float4 → ∀ bytes ∈ wire,
      (Binary.ofBits .single (unsignedOf bytes)).isNaN = false) :
    bind column.type value = .ok wire ↔ ∀ bytes ∈ wire, column.type.Repeats bytes := by
  unfold readCell at read
  split at read
  · contradiction
  · cases read
    exact iff_of_true (by rw [bind]) (by simp)
  · next reader bytes found =>
    split at read
    · next value' whole =>
      cases read
      rw [bind_of_reader found whole fun single => defined single bytes rfl]
      simp
    · contradiction

end Postgresql
end Cell

namespace Cars

open Cell Postgresql

def seenColumn : Column := ⟨"seen", .timestamptz⟩

/-- The last microsecond of the year 9999. -/
theorem bind_seen_in9999 :
    readCell 0 seenColumn (some [3, 128, 231, 11, 145, 59, 127, 255]) =
        .ok (.text "9999-12-31T23:59:59.999999+00:00") ∧
      bind seenColumn.type (.text "9999-12-31T23:59:59.999999+00:00") =
        .ok (some [3, 128, 231, 11, 145, 59, 127, 255]) := by
  have read : readCell 0 seenColumn (some [3, 128, 231, 11, 145, 59, 127, 255]) =
      .ok (.text "9999-12-31T23:59:59.999999+00:00") := rfl
  refine ⟨read, (bind_readCell_iff read (by rintro ⟨⟩)).mpr ?_⟩
  rintro _ ⟨⟩
  exact ⟨by decide, by decide⟩

/-- The microsecond after it is read, but its text is not. -/
theorem bind_seen_in10000 :
    readCell 0 seenColumn (some [3, 128, 231, 11, 145, 59, 128, 0]) =
        .ok (.text "+10000-01-01T00:00:00+00:00") ∧
      bind seenColumn.type (.text "+10000-01-01T00:00:00+00:00") =
        .error (.calendar .tooLong) :=
  ⟨rfl, rfl⟩

end Cars
end ObjectQuery
