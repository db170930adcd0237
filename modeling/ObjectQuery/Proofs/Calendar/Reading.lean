/-
Dates and times are read as they are written.

A written part of a date or a time is read up to its end, whatever follows, because its digits have
a fixed width or are followed by a mark.  Readers of several parts are put together with
`Reads.bind`.
-/
import Mathlib.Data.List.TakeWhile
import ObjectQuery.Calendar.Reader
import ObjectQuery.Proofs.Calendar.Days
import ObjectQuery.Proofs.Number.Digits

namespace ObjectQuery

theorem Text.isBlank_of_isDigit {c : Char} (digit : c.isDigit = true) : isBlank c = false := by
  have bounds : 48 ≤ c.toNat ∧ c.toNat ≤ 57 := Char.isDigit_iff_toNat.mp digit
  simp only [isBlank, Ranges.has, whiteSpace, List.any_cons, List.any_nil, Bool.or_false,
    Bool.or_eq_false_iff, Bool.and_eq_false_iff, decide_eq_false_iff_not]
  omega

namespace Calendar

open Number

namespace Reader

variable {α β : Type} {reader : Reader α} {further : α → Reader β} {a : α} {b : β}
  {cs between rest : List Char}

/-- Whether a reader gets a value out of a text and leaves the rest. -/
def Reads (reader : Reader α) (a : α) (cs rest : List Char) : Prop :=
  StateT.run reader cs = .ok (a, rest)

/-- Whether a reader refuses a text. -/
def Refuses (reader : Reader α) (cs : List Char) : Prop :=
  ∃ fault, StateT.run reader cs = .error fault

theorem Reads.pure (a : α) (cs : List Char) : Reads (Pure.pure a : Reader α) a cs cs := rfl

theorem reads_get (cs : List Char) : Reads get cs cs cs := rfl

theorem reads_set (cs rest : List Char) : Reads (set rest) ⟨⟩ cs rest := rfl

theorem Reads.bind (first : Reads reader a cs between) (second : Reads (further a) b between rest) :
    Reads (reader >>= further) b cs rest := by
  rw [Reads, StateT.run_bind, first]
  exact second

theorem Refuses.bind (refused : Refuses reader cs) (further : α → Reader β) :
    Refuses (reader >>= further) cs := by
  obtain ⟨fault, failed⟩ := refused
  exact ⟨fault, by rw [StateT.run_bind, failed]; rfl⟩

theorem Reads.bind_refuses (first : Reads reader a cs between)
    (second : Refuses (further a) between) : Refuses (reader >>= further) cs := by
  obtain ⟨fault, failed⟩ := second
  exact ⟨fault, by rw [StateT.run_bind, first]; exact failed⟩

theorem Reads.orElse (first : Reads reader a cs rest) (other : Reader α) :
    Reads (reader <|> other) a cs rest := by
  show tryCatch (StateT.run reader cs) (fun _ => StateT.run other cs) = _
  rw [first]
  rfl

theorem run_of_reads (reads : Reads reader a cs []) : reader.run (String.ofList cs) = .ok a := by
  rw [Reader.run, String.toList_ofList, reads]
  rfl

theorem run_of_reads_cons {c : Char} (reads : Reads reader a cs (c :: rest)) :
    reader.run (String.ofList cs) = .error .tooLong := by
  rw [Reader.run, String.toList_ofList, reads]
  rfl

theorem run_of_refuses (refused : Refuses reader cs) :
    ∃ fault, reader.run (String.ofList cs) = .error fault := by
  obtain ⟨fault, failed⟩ := refused
  refine ⟨fault, ?_⟩
  rw [Reader.run, String.toList_ofList, failed]
  rfl

/-! ## Digits and marks -/

theorem reads_blanks (stop : ∀ c ∈ cs.head?, Text.isBlank c = false) : Reads blanks () cs cs := by
  have unchanged : cs.dropWhile Text.isBlank = cs := by
    cases cs with
    | nil => rfl
    | cons c rest => exact List.dropWhile_cons_of_neg (by simp [stop c rfl])
  show Except.ok ((), cs.dropWhile Text.isBlank) = Except.ok ((), cs)
  rw [unchanged]

theorem reads_blanks_cons {c : Char} (blank : Text.isBlank c = true)
    (reads : Reads blanks () cs rest) : Reads blanks () (c :: cs) rest := by
  show Except.ok ((), (c :: cs).dropWhile Text.isBlank) = _
  rw [List.dropWhile_cons_of_pos blank]
  exact reads

theorem reads_oneOf {choices : List Char} {c : Char} (listed : choices.contains c = true)
    (cs : List Char) : Reads (oneOf choices) c (c :: cs) cs := by
  refine (reads_get (c :: cs)).bind ?_
  simp only [listed, if_true]
  exact (reads_set _ cs).bind (.pure c cs)

theorem reads_mark (c : Char) (cs : List Char) : Reads (mark c) () (c :: cs) cs :=
  (reads_oneOf (by simp) cs).bind (.pure () cs)

theorem reads_digits {least most : Nat} {run : List Char} (digits : ∀ c ∈ run, c.isDigit = true)
    (enough : least ≤ run.length)
    (stop : run.length = most ∨ run.length ≤ most ∧ ∀ c ∈ rest.head?, c.isDigit = false) :
    Reads (Reader.digits least most) run (run ++ rest) rest := by
  have taken : ((run ++ rest).takeWhile Char.isDigit).take most = run := by
    rw [List.takeWhile_append_of_pos digits]
    rcases stop with full | ⟨short, stop⟩
    · rw [← full, List.take_left]
    · have none_after : rest.takeWhile Char.isDigit = [] := by
        cases rest with
        | nil => rfl
        | cons c rest => exact List.takeWhile_cons_of_neg (by simp [stop c rfl])
      rw [none_after, List.append_nil, List.take_of_length_le short]
  refine (reads_get _).bind ?_
  simp only [taken, enough, if_true, List.drop_left]
  exact (reads_set _ rest).bind (.pure run rest)

theorem refuses_digits {least most : Nat} (needed : 0 < least)
    (other : ∀ c ∈ cs.head?, c.isDigit = false) : Refuses (Reader.digits least most) cs := by
  have none_taken : cs.takeWhile Char.isDigit = [] := by
    cases cs with
    | nil => rfl
    | cons c cs => exact List.takeWhile_cons_of_neg (by simp [other c rfl])
  refine (reads_get cs).bind_refuses ?_
  simp only [none_taken, List.take_nil, List.length_nil, Nat.not_le.mpr needed, if_false]
  exact ⟨_, rfl⟩

/-- A number with as many digits as there may be is read whatever follows. -/
theorem reads_number {width least low high n : Nat} (positive : 0 < width)
    (enough : least ≤ width) (fits : n < 10 ^ width) (bounds : low ≤ n ∧ n ≤ high)
    (rest : List Char) : Reads (number least width low high) n (padded width n ++ rest) rest := by
  have length := length_padded positive fits
  refine (reads_digits (fun c mem => isDigit_of_mem_padded mem) (by omega) (.inl length)).bind ?_
  simp only [digitsValue_padded, bounds, and_self, if_true]
  exact .pure n rest

theorem isBlank_head?_padded {width n : Nat} (rest : List Char) :
    ∀ c ∈ (padded width n ++ rest).head?, Text.isBlank c = false := by
  obtain ⟨first, others, digits, digit⟩ := exists_padded_eq_cons width n
  intro c head
  rw [digits, List.cons_append, List.head?_cons, Option.mem_some] at head
  exact head ▸ Text.isBlank_of_isDigit digit

theorem reads_field {low high n : Nat} (fits : n < 100) (bounds : low ≤ n ∧ n ≤ high)
    (rest : List Char) : Reads (field low high) n (padded 2 n ++ rest) rest :=
  (reads_blanks (isBlank_head?_padded rest)).bind
    (reads_number (by decide) (by decide) fits bounds rest)

/-! ## Dates -/

/-- A year of up to four digits, or of any number of them behind a sign. -/
theorem reads_year {year : Int} (bounds : (IntegerRange.signed 32).has year = true)
    (stop : ∀ c ∈ rest.head?, c.isDigit = false) :
    Reads Reader.year year (Date.writeYear year ++ rest) rest := by
  unfold Date.writeYear
  split
  · next short =>
    have length : (padded 4 year.toNat).length = 4 := length_padded (by decide) (by omega)
    have digits : ∀ c ∈ padded 4 year.toNat, c.isDigit = true :=
      fun c mem => isDigit_of_mem_padded mem
    refine (reads_blanks (isBlank_head?_padded rest)).bind ((reads_get _).bind ?_)
    obtain ⟨first, others, split, digit⟩ := exists_padded_eq_cons 4 year.toNat
    have unsigned : ¬(first = '-' ∨ first = '+') := by
      rintro (rfl | rfl) <;> contradiction
    rw [split, List.cons_append]
    simp only [unsigned, if_false]
    rw [← List.cons_append, ← split]
    refine (reads_digits digits (by omega) (.inl length)).bind ?_
    rw [digitsValue_padded, Int.toNat_of_nonneg short.1]
    exact .pure year rest
  · next long =>
    have digits : ∀ c ∈ padded 4 year.natAbs, c.isDigit = true :=
      fun c mem => isDigit_of_mem_padded mem
    obtain ⟨first, others, split, digit⟩ := exists_padded_eq_cons 4 year.natAbs
    have mark_blank : Text.isBlank (if year < 0 then '-' else '+') = false := by
      split <;> decide
    have mark : (if year < 0 then '-' else '+') = '-' ∨ (if year < 0 then '-' else '+') = '+' := by
      split <;> simp
    have value : (if (if year < 0 then '-' else '+') = '-' then -(year.natAbs : Int)
        else year.natAbs) = year := by
      by_cases before : year < 0
      · rw [if_pos before, if_pos rfl]
        omega
      · rw [if_neg before, if_neg (by decide)]
        omega
    refine (reads_blanks (fun c head => ?_)).bind ((reads_get _).bind ?_)
    · rw [List.cons_append, List.head?_cons, Option.mem_some] at head
      exact head ▸ mark_blank
    · simp only [List.cons_append, mark, if_true]
      refine (reads_set _ _).bind ((reads_digits digits (by simp [split])
        (.inr ⟨by simp, stop⟩)).bind ?_)
      simp only [digitsValue_padded, value, bounds, if_true]
      exact .pure year rest

theorem reads_date {date : Date} (valid : date.isValid = true) (rest : List Char) :
    Reads Reader.date date (date.write ++ rest) rest := by
  obtain ⟨month, day⟩ := Date.month_day_of_isValid valid
  have supported : (IntegerRange.signed 32).has date.year = true := by
    obtain ⟨first_le, le_last⟩ := Date.year_of_isValid valid
    simp only [IntegerRange.has, Bool.and_eq_true, decide_eq_true_eq]
    exact ⟨Int.le_trans (by decide) first_le, Int.le_trans le_last (by decide)⟩
  rw [Date.write, List.append_assoc, List.cons_append, List.append_assoc, List.cons_append]
  refine (reads_year supported (by simp)).bind ((reads_mark '-' _).bind ?_)
  refine (reads_field (by omega) month _).bind ((reads_mark '-' _).bind ?_)
  exact (reads_field (by omega) day _).bind (.pure date rest)

/-! ## Times -/

/-- Whether what follows a time does not go on with its last number. -/
def Ends (rest : List Char) : Prop := ∀ c ∈ rest.head?, c.isDigit = false ∧ c ≠ '.'

/-- A fraction that is written in a number of digits because the others are zero. -/
theorem reads_fraction_padded {width nanosecond : Nat} (positive : 0 < width) (few : width ≤ 9)
    (bound : nanosecond < 10 ^ 9) (whole : nanosecond % 10 ^ (9 - width) = 0) (ends : Ends rest) :
    Reads fraction nanosecond
      ('.' :: padded width (nanosecond / 10 ^ (9 - width)) ++ rest) rest := by
  have fits : nanosecond / 10 ^ (9 - width) < 10 ^ width := by
    apply Nat.div_lt_of_lt_mul
    rwa [← Nat.pow_add, Nat.sub_add_cancel few]
  have length := length_padded positive fits
  have digits : ∀ c ∈ padded width (nanosecond / 10 ^ (9 - width)), c.isDigit = true :=
    fun c mem => isDigit_of_mem_padded mem
  refine (reads_get _).bind ((reads_set _ _).bind ?_)
  refine (reads_digits digits (by omega) (.inr ⟨by simp, fun c head => (ends c head).1⟩)).bind ?_
  rw [List.take_of_length_le (by omega), digitsValue_padded, length, Nat.pow_eq,
    Nat.div_mul_cancel (Nat.dvd_of_mod_eq_zero whole)]
  exact .pure nanosecond rest

theorem reads_fraction {nanosecond : Nat} (bound : nanosecond < 1000000000) (ends : Ends rest) :
    Reads fraction nanosecond (Time.writeFraction nanosecond ++ rest) rest := by
  unfold Time.writeFraction
  split
  · next zero =>
    subst zero
    refine (reads_get _).bind ?_
    rw [List.nil_append]
    split
    · exact absurd rfl (ends '.' rfl).2
    · exact .pure 0 rest
  · split
    · next millis => exact reads_fraction_padded (by decide) (by decide) bound millis ends
    · split
      · next micros => exact reads_fraction_padded (by decide) (by decide) bound micros ends
      · have reads := reads_fraction_padded (by decide) (Nat.le_refl 9) bound (Nat.mod_one _) ends
        rwa [Nat.sub_self, Nat.pow_zero, Nat.div_one] at reads

/-- A written time in three numbers and a fraction, without the mark of a leap second. -/
theorem write_eq {time : Time} (regular : time.Regular) :
    time.write = padded 2 (time.second / 3600) ++ ':' :: (padded 2 (time.second / 60 % 60) ++
      ':' :: (padded 2 (time.second % 60) ++ Time.writeFraction time.nanosecond)) := by
  have bound := regular.nanosecond_lt
  have unprolonged : time.nanosecond / 1000000000 = 0 := by omega
  simp only [Time.write, unprolonged, Nat.add_zero, Nat.mod_eq_of_lt bound, List.append_assoc,
    List.cons_append]

theorem ofClock_eq {time : Time} (regular : time.Regular) :
    Time.ofClock (time.second / 3600) (time.second / 60 % 60) (time.second % 60) time.nanosecond =
      time := by
  have bound := regular.second_lt
  have seconds : time.second / 3600 * 3600 + time.second / 60 % 60 * 60 + time.second % 60 =
      time.second := by omega
  rw [Time.ofClock, if_pos (by omega), seconds]

section

variable {time : Time} (regular : time.Regular)

include regular

theorem clock_bounds :
    time.second / 3600 ≤ 23 ∧ time.second / 60 % 60 ≤ 59 ∧ time.second % 60 ≤ 60 := by
  have bound := regular.second_lt
  have seconds : daySeconds = 86400 := rfl
  omega

theorem reads_clock (ends : Ends rest) : Reads clock time (time.write ++ rest) rest := by
  obtain ⟨hour, minute, second⟩ := clock_bounds regular
  rw [write_eq regular]
  simp only [List.append_assoc, List.cons_append]
  refine (reads_field (by omega) ⟨Nat.zero_le _, hour⟩ _).bind ((reads_mark ':' _).bind ?_)
  refine (reads_field (by omega) ⟨Nat.zero_le _, minute⟩ _).bind ((reads_mark ':' _).bind ?_)
  refine (reads_field (by omega) ⟨Nat.zero_le _, second⟩ _).bind ?_
  refine (reads_fraction regular.nanosecond_lt ends).bind ?_
  rw [ofClock_eq regular]
  exact .pure time rest

theorem reads_time : Reads Reader.time time time.write [] := by
  obtain ⟨hour, minute, second⟩ := clock_bounds regular
  have blank_colon : ∀ cs, ∀ c ∈ (':' :: cs).head?, Text.isBlank c = false := by
    intro cs c head
    rw [List.head?_cons, Option.mem_some] at head
    exact head ▸ by decide
  have nothing : Reads blanks () [] [] := reads_blanks (by simp)
  have ends : Ends [] := by simp [Ends]
  rw [write_eq regular]
  refine (reads_field (by omega) ⟨Nat.zero_le _, hour⟩ _).bind ?_
  refine (reads_blanks (blank_colon _)).bind ((reads_mark ':' _).bind ?_)
  refine (reads_field (by omega) ⟨Nat.zero_le _, minute⟩ _).bind ?_
  have fraction := reads_fraction regular.nanosecond_lt ends
  rw [List.append_nil] at fraction
  have seconds : Reads Reader.seconds (time.second % 60, time.nanosecond)
      (':' :: (padded 2 (time.second % 60) ++ Time.writeFraction time.nanosecond)) [] := by
    refine (reads_blanks (blank_colon _)).bind ((reads_mark ':' _).bind ?_)
    refine (reads_field (by omega) ⟨Nat.zero_le _, second⟩ _).bind ?_
    exact fraction.bind (nothing.bind (.pure _ []))
  refine (seconds.orElse _).bind (nothing.bind ?_)
  simp only [ofClock_eq regular]
  exact .pure time []

end

/-! ## Whole moments -/

/-- A written date, a mark and a written time are read by any reader of what stands between. -/
theorem reads_moment {moment : Moment} {between : Reader Unit} {mark : Char}
    (valid : moment.date.isValid = true) (regular : moment.time.Regular)
    (marked : Reads between () (mark :: (moment.time.write ++ rest)) (moment.time.write ++ rest))
    (ends : Ends rest) :
    Reads (do
      let date ← Reader.date
      between
      return ⟨date, ← Reader.clock⟩) moment (moment.write mark ++ rest) rest := by
  rw [Moment.write, List.append_assoc, List.cons_append]
  exact (reads_date valid _).bind (marked.bind ((reads_clock regular ends).bind (.pure moment rest)))

/-- What is written behind a moment where clocks are not ahead. -/
def unshifted : List Char := ['+', '0', '0', ':', '0', '0']

theorem reads_fullMoment {moment : Moment} (valid : moment.date.isValid = true)
    (regular : moment.time.Regular) (year : 0 ≤ moment.date.year ∧ moment.date.year ≤ 9999) :
    Reads fullMoment (moment, 0) (moment.write 'T' ++ unshifted) [] := by
  have ends : Ends unshifted := by simp [Ends, unshifted]
  obtain ⟨hour, minute, second⟩ := clock_bounds regular
  obtain ⟨month, day⟩ := Date.month_day_of_isValid valid
  have four (n : Nat) (bound : n ≤ 9999) (rest : List Char) :
      Reads (number 4 4 0 9999) n (padded 4 n ++ rest) rest :=
    reads_number (by decide) (by decide) (by omega) ⟨Nat.zero_le _, bound⟩ rest
  have two {low high n : Nat} (fits : n < 100) (bounds : low ≤ n ∧ n ≤ high) (rest : List Char) :
      Reads (number 2 2 low high) n (padded 2 n ++ rest) rest :=
    reads_number (by decide) (by decide) fits bounds rest
  rw [Moment.write, Date.write, Date.writeYear, if_pos year, write_eq regular]
  simp only [List.append_assoc, List.cons_append]
  refine (four _ (by omega) _).bind ((reads_mark '-' _).bind ?_)
  refine (two (by omega) month _).bind ((reads_mark '-' _).bind ?_)
  refine (two (by omega) day _).bind ((reads_oneOf (by decide) _).bind ?_)
  refine (two (by omega) ⟨Nat.zero_le _, hour⟩ _).bind ((reads_mark ':' _).bind ?_)
  refine (two (by omega) ⟨Nat.zero_le _, minute⟩ _).bind ((reads_mark ':' _).bind ?_)
  refine (two (by omega) ⟨Nat.zero_le _, second⟩ _).bind ?_
  refine (reads_fraction regular.nanosecond_lt ends).bind ?_
  have ahead : Reads Reader.ahead 0 unshifted [] := rfl
  refine ahead.bind ?_
  rw [ofClock_eq regular, Int.toNat_of_nonneg year.1]
  exact .pure (moment, 0) []

/-- A year with a sign does not start with four digits. -/
theorem refuses_fullMoment {moment : Moment}
    (year : ¬(0 ≤ moment.date.year ∧ moment.date.year ≤ 9999)) (rest : List Char) :
    Refuses fullMoment (moment.write 'T' ++ rest) := by
  rw [Moment.write, Date.write, Date.writeYear, if_neg year]
  simp only [List.append_assoc, List.cons_append]
  have unsigned : (if moment.date.year < 0 then '-' else '+').isDigit = false := by
    split <;> rfl
  have no_digits : Refuses (Reader.digits 4 4) ((if moment.date.year < 0 then '-' else '+') ::
      (padded 4 moment.date.year.natAbs ++ '-' :: (padded 2 moment.date.month ++
        '-' :: (padded 2 moment.date.day ++ 'T' :: (moment.time.write ++ rest))))) :=
    refuses_digits (by decide) (by simp [unsigned])
  exact (no_digits.bind _).bind _

/-- A time starts with a digit. -/
theorem isBlank_head?_write {time : Time} (regular : time.Regular) :
    ∀ c ∈ (time.write ++ rest).head?, Text.isBlank c = false := by
  rw [write_eq regular, List.append_assoc]
  exact isBlank_head?_padded _

/-- White space does not lead from a date over a letter to a time. -/
theorem refuses_lettered {moment : Moment} (valid : moment.date.isValid = true)
    (rest : List Char) : Refuses (do
      let date ← Reader.date
      blanks
      return (⟨date, ← Reader.clock⟩ : Moment)) (moment.write 'T' ++ rest) := by
  rw [Moment.write, List.append_assoc, List.cons_append]
  have letter : ∀ c ∈ ('T' :: (moment.time.write ++ rest)).head?, Text.isBlank c = false := by
    simp only [List.head?_cons, Option.mem_some, forall_eq']
    decide
  have no_digits : Refuses (Reader.digits 1 2) ('T' :: (moment.time.write ++ rest)) :=
    refuses_digits (by decide) (by simp)
  refine (reads_date valid _).bind_refuses ((reads_blanks letter).bind_refuses ?_)
  refine Refuses.bind (Refuses.bind ?_ _) _
  exact (reads_blanks letter).bind_refuses (no_digits.bind _)

end Reader

open Reader

theorem Date.read_write {date : Date} (valid : date.isValid = true) :
    Date.read (String.ofList date.write) = .ok date := by
  have reads := reads_date valid []
  rw [List.append_nil] at reads
  rw [Date.read, run_of_reads reads]
  show date.checked = .ok date
  rw [Date.checked, if_pos valid]

theorem Time.read_write {time : Time} (regular : time.Regular) :
    Time.read (String.ofList time.write) = .ok time :=
  run_of_reads (reads_time regular)

section

variable {moment : Moment}

theorem Moment.checked_of_isValid (valid : moment.date.isValid = true) :
    moment.checked = .ok moment := by
  rw [Moment.checked, Date.checked, if_pos valid]
  rfl

theorem Moment.read_write (valid : moment.date.isValid = true) (regular : moment.time.Regular) :
    Moment.read (String.ofList (moment.write ' ')) = .ok moment := by
  have spaced : Reads blanks () (' ' :: (moment.time.write ++ [])) (moment.time.write ++ []) :=
    reads_blanks_cons (by decide) (reads_blanks (isBlank_head?_write regular))
  have reads := reads_moment valid regular spaced (by simp [Ends])
  rw [List.append_nil] at reads
  have whole : Moment.readWith blanks (String.ofList (moment.write ' ')) = .ok moment := by
    rw [Moment.readWith, run_of_reads reads]
    exact Moment.checked_of_isValid valid
  rw [Moment.read, whole]

/-- A moment in full is read back if its year has four digits. -/
theorem readMicroseconds_write (valid : moment.date.isValid = true)
    (regular : moment.time.Regular) (year : 0 ≤ moment.date.year ∧ moment.date.year ≤ 9999) :
    readMicroseconds (String.ofList (moment.write 'T' ++ unshifted)) =
      .ok (moment.microseconds 0) := by
  have full : Moment.readFull (String.ofList (moment.write 'T' ++ unshifted)) = .ok (moment, 0) := by
    rw [Moment.readFull, run_of_reads (reads_fullMoment valid regular year)]
    show (moment.checked >>= fun _ => _) = _
    rw [Moment.checked_of_isValid valid]
    rfl
  rw [readMicroseconds, full]

/-- A moment in full is refused if its year has a sign: without the sign it would not be in full,
and what stands behind the time belongs to a moment in full only. -/
theorem readMicroseconds_write_signed (valid : moment.date.isValid = true)
    (regular : moment.time.Regular) (year : ¬(0 ≤ moment.date.year ∧ moment.date.year ≤ 9999)) :
    ∃ fault, readMicroseconds (String.ofList (moment.write 'T' ++ unshifted)) = .error fault := by
  obtain ⟨fault, not_full⟩ := run_of_refuses (refuses_fullMoment year unshifted)
  obtain ⟨fault', not_spaced⟩ := run_of_refuses (refuses_lettered valid unshifted)
  have ends : Ends unshifted := by simp [Ends, unshifted]
  have reads := reads_moment valid regular (reads_mark 'T' (moment.time.write ++ unshifted)) ends
  have full : Moment.readFull (String.ofList (moment.write 'T' ++ unshifted)) = .error fault := by
    rw [Moment.readFull, not_full]
    rfl
  have spaced : Moment.readWith blanks (String.ofList (moment.write 'T' ++ unshifted)) =
      .error fault' := by
    rw [Moment.readWith, not_spaced]
    rfl
  have lettered : Moment.readWith (mark 'T') (String.ofList (moment.write 'T' ++ unshifted)) =
      .error .tooLong := by
    rw [Moment.readWith]
    exact congrArg (· >>= Moment.checked) (run_of_reads_cons reads)
  exact ⟨.tooLong, by rw [readMicroseconds, full, Moment.read, spaced, lettered]; rfl⟩

end

end Calendar
end ObjectQuery
