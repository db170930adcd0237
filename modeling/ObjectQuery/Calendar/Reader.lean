/-
Dates and times in text.

Numbers may have white space in front and fewer digits than usual. A text is read from the left, and
the first thing that does not fit decides the fault; whether there is such a day is checked last.
-/
import ObjectQuery.Calendar.Time
import ObjectQuery.Number.Decimal
import ObjectQuery.Number.Integer
import ObjectQuery.Text.Blank

namespace ObjectQuery
namespace Calendar

/-- Why a text is no date or time. -/
inductive Fault
  | tooShort
  | invalid
  | outOfRange
  | tooLong
  deriving DecidableEq

def Fault.message : Fault → String
  | .tooShort => "premature end of input"
  | .invalid => "input contains invalid characters"
  | .outOfRange => "input is out of range"
  | .tooLong => "trailing input"

/-- Something that is read from the start of a text. -/
abbrev Reader (α : Type) : Type := StateT (List Char) (Except Fault) α

namespace Reader

/-- Read white space, if there is any. -/
def blanks : Reader Unit := modify (List.dropWhile Text.isBlank)

/-- Read one of several characters. -/
def oneOf (choices : List Char) : Reader Char := do
  match ← get with
  | [] => throw .tooShort
  | c :: rest =>
    if choices.contains c then
      set rest
      return c
    else throw .invalid

/-- Read a character. -/
def mark (c : Char) : Reader Unit := do
  let _ ← oneOf [c]

/-- Read as many digits as there are, within bounds. -/
def digits (least most : Nat) : Reader (List Char) := do
  let cs ← get
  let run := (cs.takeWhile Char.isDigit).take most
  if least ≤ run.length then
    set (cs.drop run.length)
    return run
  else throw (if cs.length < least then .tooShort else .invalid)

/-- Read a number with bounds on its digits and on its value. -/
def number (least most low high : Nat) : Reader Nat := do
  let value := Number.digitsValue 0 (← digits least most)
  if low ≤ value ∧ value ≤ high then return value else throw .outOfRange

/-- Read a number of one or two digits. -/
def field (low high : Nat) : Reader Nat := do
  blanks
  number 1 2 low high

/-- Read a year: up to four digits, or any number of them after a sign. -/
def year : Reader Int := do
  blanks
  match ← get with
  | [] => throw .tooShort
  | c :: rest =>
    if c = '-' ∨ c = '+' then
      set rest
      let size : Int := (Number.digitsValue 0 (← digits 1 rest.length) : Nat)
      let value := if c = '-' then -size else size
      if (Number.IntegerRange.signed 32).has value then return value else throw .outOfRange
    else return (Number.digitsValue 0 (← digits 1 4) : Nat)

/-- Read a date. It may name a day that does not exist. -/
def date : Reader Date := do
  let year ← year
  mark '-'
  let month ← field 1 12
  mark '-'
  return ⟨year, month, ← field 1 31⟩

/-- Read a fraction of a second, if there is one: nanoseconds, further digits dropped. -/
def fraction : Reader Nat := do
  match ← get with
  | '.' :: rest =>
    set rest
    let run ← digits 1 rest.length
    return Number.digitsValue 0 (run.take 9) * Nat.pow 10 (9 - run.length)
  | _ => return 0

/-- Read hour, minute and second. -/
def clock : Reader Time := do
  let hour ← field 0 23
  mark ':'
  let minute ← field 0 59
  mark ':'
  let second ← field 0 60
  return .ofClock hour minute second (← fraction)

/-- Read a second and its fraction after a colon. -/
def seconds : Reader (Nat × Nat) := do
  blanks
  mark ':'
  let second ← field 0 60
  let nanosecond ← fraction
  blanks
  return (second, nanosecond)

/-- Read hour and minute, then a second if there is one. -/
def time : Reader Time := do
  let hour ← field 0 23
  blanks
  mark ':'
  let minute ← field 0 59
  let (second, nanosecond) ← seconds <|> pure (0, 0)
  blanks
  return .ofClock hour minute second nanosecond

/-- Read how far clocks are ahead, in seconds: a letter for not at all, or a sign, hours and
minutes. -/
def ahead : Reader Int := do
  let sign ← oneOf ['Z', 'z', '+', '-', '\u2212']
  if sign = 'Z' ∨ sign = 'z' then return 0
  else
    let hour ← number 2 2 0 23
    mark ':'
    let minute ← number 2 2 0 59
    let size : Int := (hour * 3600 + minute * 60 : Nat)
    return if sign = '+' then size else -size

/-- Read a date and a time, both with all their digits, and how far clocks are ahead. -/
def fullMoment : Reader (Moment × Int) := do
  let year ← number 4 4 0 9999
  mark '-'
  let month ← number 2 2 1 12
  mark '-'
  let day ← number 2 2 1 31
  let _ ← oneOf ['T', 't', ' ']
  let hour ← number 2 2 0 23
  mark ':'
  let minute ← number 2 2 0 59
  mark ':'
  let second ← number 2 2 0 60
  let nanosecond ← fraction
  return (⟨⟨year, month, day⟩, .ofClock hour minute second nanosecond⟩, ← ahead)

def run {α : Type} (reader : Reader α) (text : String) : Except Fault α := do
  let (value, rest) ← StateT.run reader text.toList
  if rest.isEmpty then return value else throw .tooLong

end Reader

/-- The date, if there is such a day. -/
def Date.checked (date : Date) : Except Fault Date :=
  if date.isValid then .ok date else .error .outOfRange

def Date.read (text : String) : Except Fault Date := do
  (← Reader.date.run text).checked

def Time.read (text : String) : Except Fault Time := Reader.time.run text

/-- The moment, if there is such a day. -/
def Moment.checked (moment : Moment) : Except Fault Moment := do
  return ⟨← moment.date.checked, moment.time⟩

/-- Read a date and a time with something between them. -/
def Moment.readWith (between : Reader Unit) (text : String) : Except Fault Moment := do
  let reader : Reader Moment := do
    let date ← Reader.date
    between
    return ⟨date, ← Reader.clock⟩
  (← reader.run text).checked

/-- Read a date and a time with white space or a letter between them. -/
def Moment.read (text : String) : Except Fault Moment :=
  match readWith Reader.blanks text with
  | .ok moment => .ok moment
  | .error _ => readWith (Reader.mark 'T') text

/-- Read a moment in full, and how far clocks are ahead there. -/
def Moment.readFull (text : String) : Except Fault (Moment × Int) := do
  let (moment, ahead) ← Reader.fullMoment.run text
  return (← moment.checked, ahead)

/-- Read the microseconds from the start of the year 2000 to a moment. A moment that is not given in
full is one where clocks are not ahead. -/
def readMicroseconds (text : String) : Except Fault Int :=
  match Moment.readFull text with
  | .ok (moment, ahead) => .ok (moment.microseconds ahead)
  | .error _ => (Moment.read text).map fun moment => moment.microseconds 0

end Calendar
end ObjectQuery
