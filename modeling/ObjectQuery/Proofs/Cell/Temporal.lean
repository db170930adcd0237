/-
Dates and times of MySQL as texts.

A literal names a moment by its fields or a span of time by its hours, and what it leaves out is
zero.  A cell has a text unless its hours overflow 32 bits.  The text, read as a literal, is the
cell's moment or span except in one case: a fraction with more than six digits is no longer one of
millionths.  Cells with shorter fractions have the same text only if they stand for the same.
-/
import Mathlib.Data.Rat.Defs
import Mathlib.Tactic.NormNum
import Mathlib.Tactic.Positivity
import ObjectQuery.Cell.Mysql
import ObjectQuery.Proofs.Calendar.Reading

namespace ObjectQuery
namespace Cell

open Calendar Number

/-- What a literal of a date or of a time stands for: the fields of a moment, or a span of time in
microseconds.  A literal can name parts of a microsecond. -/
inductive Temporal
  | moment (year month day hour minute second : ℕ) (micros : ℚ)
  | span (micros : ℚ)
  deriving DecidableEq

namespace Temporal

/-- Hours, minutes and seconds, and the microseconds after them. -/
structure Clock where
  hour : ℕ
  minute : ℕ
  second : ℕ
  micros : ℚ

/-- All of the time on the clock in microseconds. -/
def Clock.total (clock : Clock) : ℚ :=
  (((clock.hour * 60 + clock.minute) * 60 + clock.second) * 1000000 : ℕ) + clock.micros

/-- Read a whole number with any number of digits. -/
def wholeNumber : Reader ℕ := do
  let cs ← get
  return digitsValue 0 (← Reader.digits 1 cs.length)

/-- Read a fraction of a second in microseconds, zero if there is none. -/
def fraction : Reader ℚ := do
  match ← get with
  | '.' :: rest =>
    set rest
    let run ← Reader.digits 1 rest.length
    return (digitsValue 0 run : ℚ) * 1000000 / 10 ^ run.length
  | _ => return 0

def clock : Reader Clock := do
  let hour ← wholeNumber
  Reader.mark ':'
  let minute ← wholeNumber
  Reader.mark ':'
  let second ← wholeNumber
  return ⟨hour, minute, second, ← fraction⟩

/-- Read the time of a day, midnight if there is none. -/
def timeOfDay : Reader Clock := do
  match ← get with
  | [] => return ⟨0, 0, 0, 0⟩
  | _ =>
    Reader.mark ' '
    clock

def readMoment : Reader Temporal := do
  let year ← wholeNumber
  Reader.mark '-'
  let month ← wholeNumber
  Reader.mark '-'
  let day ← wholeNumber
  let time ← timeOfDay
  return .moment year month day time.hour time.minute time.second time.micros

def readSpan : Reader Temporal := do
  match ← get with
  | '-' :: rest =>
    set rest
    return .span (-(← clock).total)
  | _ => return .span (← clock).total

/-- What a text stands for as a literal of a date or of a time. -/
def read (text : String) : Option Temporal := ((readMoment <|> readSpan).run text).toOption

section

open Reader

variable {α : Type} {reader other : Reader α} {a : α} {cs rest : List Char}

theorem refuses_mark {c d : Char} (different : d ≠ c) (cs : List Char) :
    Refuses (Reader.mark c) (d :: cs) := by
  have unlisted : [c].contains d = false := by simpa using different
  refine Refuses.bind ((reads_get (d :: cs)).bind_refuses ?_) _
  simp only [unlisted]
  exact ⟨_, rfl⟩

theorem reads_orElse_of_refuses (refused : Refuses reader cs) (reads : Reads other a cs rest) :
    Reads (reader <|> other) a cs rest := by
  obtain ⟨fault, failed⟩ := refused
  show tryCatch (StateT.run reader cs) (fun _ => StateT.run other cs) = _
  rw [failed]
  exact reads

/-! ## Written clocks -/

theorem reads_wholeNumber (width n : ℕ) (stop : ∀ c ∈ rest.head?, c.isDigit = false) :
    Reads wholeNumber n (padded width n ++ rest) rest := by
  obtain ⟨first, others, split, -⟩ := exists_padded_eq_cons width n
  refine (reads_get _).bind ((reads_digits (fun c mem => isDigit_of_mem_padded mem)
    (by simp [split]) (.inr ⟨by simp, stop⟩)).bind ?_)
  rw [digitsValue_padded]
  exact .pure n rest

/-- The microseconds that the digits of a fraction stand for. -/
def shown (micros : ℕ) : ℚ := micros * 1000000 / 10 ^ (padded 6 micros).length

theorem shown_zero : shown 0 = 0 := by
  rw [shown, Nat.cast_zero, zero_mul, zero_div]

theorem reads_fraction (micros : ℕ) :
    Reads fraction (shown micros) ('.' :: padded 6 micros) [] := by
  obtain ⟨first, others, split, -⟩ := exists_padded_eq_cons 6 micros
  have digits : Reads (Reader.digits 1 (padded 6 micros).length) (padded 6 micros)
      (padded 6 micros ++ []) [] :=
    reads_digits (fun c mem => isDigit_of_mem_padded mem) (by simp [split]) (.inl rfl)
  rw [List.append_nil] at digits
  refine (reads_get _).bind ((reads_set _ _).bind (digits.bind ?_))
  rw [digitsValue_padded]
  exact .pure _ []

section

variable (hour minute second micros : ℕ)

theorem reads_clock : Reads clock ⟨hour, minute, second, shown micros⟩
    (Mysql.writeClock hour minute second micros) [] := by
  rw [Mysql.writeClock]
  simp only [List.append_assoc, List.cons_append]
  refine (reads_wholeNumber 2 hour (by simp)).bind ((reads_mark ':' _).bind ?_)
  refine (reads_wholeNumber 2 minute (by simp)).bind ((reads_mark ':' _).bind ?_)
  split
  · next zero =>
    refine (reads_wholeNumber 2 second (by simp)).bind ?_
    rw [zero, shown_zero]
    exact .pure _ []
  · refine (reads_wholeNumber 2 second (by simp)).bind ?_
    exact (reads_fraction micros).bind (.pure _ [])

theorem exists_writeClock_eq_cons :
    ∃ c rest, Mysql.writeClock hour minute second micros = c :: rest ∧ c.isDigit = true := by
  obtain ⟨first, others, split, digit⟩ := exists_padded_eq_cons 2 hour
  rw [Mysql.writeClock, split]
  exact ⟨first, _, rfl, digit⟩

/-- The text of a date is that of a moment. -/
theorem reads_writeDate (year month day : ℕ) :
    Reads readMoment (.moment year month day hour minute second (shown micros))
      (Mysql.writeDate year month day hour minute second micros) [] := by
  rw [Mysql.writeDate]
  simp only [List.append_assoc, List.cons_append]
  refine (reads_wholeNumber 4 year (by simp)).bind ((reads_mark '-' _).bind ?_)
  refine (reads_wholeNumber 2 month (by simp)).bind ((reads_mark '-' _).bind ?_)
  split
  · next midnight =>
    obtain ⟨rfl, rfl, rfl, rfl⟩ := midnight
    refine (reads_wholeNumber 2 day (by simp)).bind ?_
    rw [shown_zero]
    exact .pure _ []
  · refine (reads_wholeNumber 2 day (by simp)).bind ?_
    have time : Reads timeOfDay ⟨hour, minute, second, shown micros⟩
        (' ' :: Mysql.writeClock hour minute second micros) [] :=
      (reads_get _).bind ((reads_mark ' ' _).bind (reads_clock hour minute second micros))
    exact time.bind (.pure _ [])

/-- The text of a time is that of a span, and not that of a moment. -/
theorem refuses_writeTime (negative : Bool) :
    Refuses readMoment (Mysql.writeTime negative hour minute second micros) := by
  rw [Mysql.writeTime]
  cases negative with
  | true =>
    have unsigned : Refuses wholeNumber ('-' :: Mysql.writeClock hour minute second micros) :=
      (reads_get _).bind_refuses ((refuses_digits (by decide) (by simp)).bind _)
    exact unsigned.bind _
  | false =>
    rw [if_neg (by decide), List.nil_append, Mysql.writeClock]
    simp only [List.append_assoc, List.cons_append]
    exact (reads_wholeNumber 2 hour (by simp)).bind_refuses
      ((refuses_mark (by decide) _).bind _)

theorem reads_writeTime (negative : Bool) :
    Reads readSpan (.span (if negative then -(Clock.total ⟨hour, minute, second, shown micros⟩)
      else Clock.total ⟨hour, minute, second, shown micros⟩))
      (Mysql.writeTime negative hour minute second micros) [] := by
  have reads := reads_clock hour minute second micros
  rw [Mysql.writeTime]
  cases negative with
  | true =>
    rw [if_pos rfl, if_pos rfl, List.singleton_append]
    exact (reads_get _).bind ((reads_set _ _).bind (reads.bind (.pure _ [])))
  | false =>
    obtain ⟨first, others, eq, digit⟩ := exists_writeClock_eq_cons hour minute second micros
    rw [if_neg (by decide), if_neg (by decide), List.nil_append, eq]
    rw [eq] at reads
    refine (reads_get _).bind ?_
    split
    · next signed =>
      cases signed
      contradiction
    · exact reads.bind (.pure _ [])

end
end

/-! ## What is lost -/

theorem length_padded_eq_iff {width n : ℕ} (positive : 0 < width) :
    (padded width n).length = width ↔ n < 10 ^ width := by
  have short := Nat.length_toDigits_le_iff (b := 10) (n := n) (by decide) positive
  rw [← short, padded, List.length_append, List.length_replicate]
  omega

/-- The digits of a fraction stand for as many millionths as they spell if there are six of them. -/
theorem shown_eq_iff (micros : ℕ) : shown micros = micros ↔ micros < 1000000 := by
  have power : (10 : ℚ) ^ (padded 6 micros).length ≠ 0 := by positivity
  have six := length_padded_eq_iff (n := micros) (show 0 < 6 by decide)
  have millionths : (1000000 : ℚ) = 10 ^ 6 := by norm_num
  rw [shown, div_eq_iff power, millionths]
  constructor
  · intro same
    by_cases zero : micros = 0
    · omega
    · have powers : (10 : ℚ) ^ 6 = 10 ^ (padded 6 micros).length :=
        mul_left_cancel₀ (Nat.cast_ne_zero.mpr zero) same
      have length := pow_right_injective₀ (by norm_num) (by norm_num) powers
      exact six.mp length.symm
  · intro small
    rw [six.mpr small]

theorem total_eq_iff (hours minutes seconds micros : ℕ) :
    Clock.total ⟨hours, minutes, seconds, shown micros⟩ =
        (((hours * 60 + minutes) * 60 + seconds) * 1000000 + micros : ℕ) ↔
      micros < 1000000 := by
  rw [Clock.total, Nat.cast_add, add_right_inj, shown_eq_iff]

theorem signed_eq_iff (negative : Bool) (x y : ℚ) :
    (if negative then -x else x) = (if negative then -y else y) ↔ x = y := by
  cases negative <;> simp

end Temporal

namespace Mysql

open Temporal

/-- What a cell of a date or of a time stands for. -/
def temporal? : Mysql → Option Temporal
  | date year month day hour minute second micros =>
    some (.moment year.toNat month.toNat day.toNat hour.toNat minute.toNat second.toNat
      micros.toNat)
  | time negative days hours minutes seconds micros =>
    let size : ℕ :=
      (((days.toNat * 24 + hours.toNat) * 60 + minutes.toNat) * 60 + seconds.toNat) * 1000000 +
        micros.toNat
    some (.span (if negative then -size else size))
  | _ => none

/-- Whether the hours of a cell, those of its days included, overflow 32 bits. -/
def Overflows : Mysql → Prop
  | time _ days hours _ _ _ => 4294967296 ≤ days.toNat * 24 + hours.toNat
  | _ => False

/-- Whether a cell's fraction is one of a second. -/
def BelowSecond : Mysql → Prop
  | date _ _ _ _ _ _ micros => micros.toNat < 1000000
  | time _ _ _ _ _ micros => micros.toNat < 1000000
  | _ => True

/-- Days are counted as hours unless that overflows. -/
theorem hours?_eq_some_iff {days total : UInt32} {hours : UInt8} :
    hours? days hours = some total ↔ total.toNat = days.toNat * 24 + hours.toNat := by
  have bound := total.toNat_lt
  rw [hours?]
  split
  · next small =>
    rw [Option.some.injEq, ← UInt32.toNat_inj, UInt32.toNat_ofNat_of_lt' small]
    omega
  · next large =>
    refine iff_of_false (by simp) fun same => large ?_
    omega

theorem read_date (year : UInt16) (month day hour minute second : UInt8) (micros : UInt32) :
    ∃ text, (date year month day hour minute second micros).toValue? = some (.text text) ∧
      Temporal.read text = some (.moment year.toNat month.toNat day.toNat hour.toNat minute.toNat
        second.toNat (shown micros.toNat)) := by
  have reads := reads_writeDate hour.toNat minute.toNat second.toNat micros.toNat year.toNat
    month.toNat day.toNat
  refine ⟨_, rfl, ?_⟩
  rw [Temporal.read, Reader.run_of_reads (reads.orElse _)]
  rfl

theorem read_time {days total : UInt32} {hours : UInt8} (fits : hours? days hours = some total)
    (negative : Bool) (minutes seconds : UInt8) (micros : UInt32) :
    ∃ text, (time negative days hours minutes seconds micros).toValue? = some (.text text) ∧
      Temporal.read text =
        let clock : Clock := ⟨total.toNat, minutes.toNat, seconds.toNat, shown micros.toNat⟩
        some (.span (if negative then -clock.total else clock.total)) := by
  have refused := refuses_writeTime total.toNat minutes.toNat seconds.toNat micros.toNat negative
  have reads := reads_writeTime total.toNat minutes.toNat seconds.toNat micros.toNat negative
  refine ⟨_, by rw [toValue?, fits]; rfl, ?_⟩
  rw [Temporal.read, Reader.run_of_reads (reads_orElse_of_refuses refused reads)]
  rfl

theorem toValue?_eq_none_iff {cell : Mysql} : cell.toValue? = none ↔ cell.Overflows := by
  cases cell with
  | time negative days hours minutes seconds micros =>
    have fits : (hours? days hours).isSome ↔ days.toNat * 24 + hours.toNat < 4294967296 := by
      rw [hours?, Nat.add_comm]
      split <;> simp [*]
    rw [Overflows, ← Nat.not_lt, ← fits, toValue?]
    cases hours? days hours <;> simp
  | uint value => rw [toValue?]; split <;> simp [Overflows]
  | _ => simp [toValue?, Overflows]

theorem read_text_iff {cell : Mysql} {meaning : Temporal} {value : Value}
    (temporal : cell.temporal? = some meaning) (found : cell.toValue? = some value) :
    ∃ text, value = .text text ∧ (Temporal.read text = some meaning ↔ cell.BelowSecond) := by
  cases cell with
  | date year month day hour minute second micros =>
    obtain ⟨text, written, read⟩ := read_date year month day hour minute second micros
    cases temporal
    refine ⟨text, Option.some.inj (found.symm.trans written), ?_⟩
    rw [read, BelowSecond, ← shown_eq_iff]
    simp
  | time negative days hours minutes seconds micros =>
    obtain ⟨total, fits, -⟩ := Option.bind_eq_some_iff.mp found
    obtain ⟨text, written, read⟩ := read_time fits negative minutes seconds micros
    cases temporal
    refine ⟨text, Option.some.inj (found.symm.trans written), ?_⟩
    rw [read, ← hours?_eq_some_iff.mp fits, Option.some.injEq, Temporal.span.injEq, signed_eq_iff,
      total_eq_iff, BelowSecond]
  | _ => contradiction

/-- A date always has a text, and a time has one unless its hours overflow.  The text is a literal of
what the cell stands for if and only if the cell's fraction is one of a second.  Such cells have the
same text only if they stand for the same. -/
theorem read_toValue_iff {cell : Mysql} {meaning : Temporal}
    (temporal : cell.temporal? = some meaning) :
    (cell.toValue? = none ↔ cell.Overflows) ∧
      ∀ value, cell.toValue? = some value → ∃ text, value = .text text ∧
        (Temporal.read text = some meaning ↔ cell.BelowSecond) ∧
        (cell.BelowSecond → ∀ (other : Mysql) (meaning' : Temporal),
          other.temporal? = some meaning' → other.BelowSecond → other.toValue? = some value →
            meaning' = meaning) := by
  refine ⟨toValue?_eq_none_iff, fun value found => ?_⟩
  obtain ⟨text, written, read⟩ := read_text_iff temporal found
  refine ⟨text, written, read, fun below other meaning' temporal' below' same => ?_⟩
  obtain ⟨text', written', read'⟩ := read_text_iff temporal' same
  obtain rfl : text' = text := Value.text.inj (written'.symm.trans written)
  exact Option.some.inj ((read'.mpr below').symm.trans (read.mpr below))

end Mysql
end Cell

namespace Cars

open Cell

/-- How long a car was gone: a day, nine hours and some millionths of a second, counted back. -/
def goneFor : Mysql := .time true 1 9 0 0 250

/-- The fewest days whose hours overflow 32 bits. -/
def goneForever : Mysql := .time false 178956971 0 0 0 0

theorem read_goneFor : goneFor.temporal? = some (.span (-118800000250)) ∧
    goneFor.toValue? = some (.text "-33:00:00.000250") ∧
      Temporal.read "-33:00:00.000250" = some (.span (-118800000250)) := by
  have temporal : goneFor.temporal? = some (.span (-118800000250)) := by decide +kernel
  have written : goneFor.toValue? = some (.text "-33:00:00.000250") := by decide +kernel
  obtain ⟨text, same, read, -⟩ := (Mysql.read_toValue_iff temporal).2 _ written
  obtain rfl : text = "-33:00:00.000250" := (Value.text.inj same).symm
  exact ⟨temporal, written, read.mpr (show (250 : UInt32).toNat < 1000000 by decide)⟩

/-- The hours overflow, so there is no text, though one day less has one. -/
theorem read_goneForever : goneForever.temporal? = some (.span 15461882294400000000) ∧
    goneForever.toValue? = none ∧
      (Mysql.time false 178956970 0 0 0 0).toValue? = some (.text "4294967280:00:00") := by
  decide +kernel

end Cars
end ObjectQuery
