import TreeSift.Text.Digits

/-! # Dates and times

A `Timestamp` is a `Day` of the calendar, alone or with a `TimeOfDay`, which may know its `offset?`
from universal time. `Timestamp.problem?` says which of its numbers is out of range.
`Timestamp.text` writes it as `2001-02-03 04:05:06`, and `Timestamp.shown` as a message shows it.

Timestamps are compared by `Timestamp.kind` and, within a kind, by the numbers of
`Timestamp.inUniversalTime`. -/

namespace TreeSift.Document

/-- **A day of the calendar**, if `Day.problem?` finds nothing wrong with it. -/
structure Day where
  /-- The year. -/
  year : Nat
  /-- The month, from one on. -/
  month : Nat
  /-- The day of the month, from one on. -/
  day : Nat
  deriving DecidableEq, Repr

/-- **A time of day**, if `TimeOfDay.problem?` finds nothing wrong with it. -/
structure TimeOfDay where
  /-- The hour. -/
  hour : Nat
  /-- The minute. -/
  minute : Nat
  /-- The second. -/
  second : Nat
  /-- The millionths of a second. -/
  micros : Nat
  /-- How many minutes it is ahead of universal time, if this is known. -/
  offset? : Option Int
  deriving DecidableEq, Repr

/-- **A date, or a date with a time.** Its numbers are in range if `Timestamp.problem?` finds
nothing wrong. -/
structure Timestamp where
  /-- The date. -/
  date : Day
  /-- The time, if there is one. -/
  time? : Option TimeOfDay
  deriving DecidableEq, Repr

/-- The minutes of a whole day, which an offset must not reach in `TimeOfDay.offsetProblem?`. -/
def minutesPerDay : Nat := 24 * 60

/-! ## Ranges -/

namespace Day

/-- How many days `month` has in `year`. -/
def daysIn (year month : Nat) : Nat :=
  if month = 2 then
    if year % 4 = 0 ∧ (year % 100 ≠ 0 ∨ year % 400 = 0) then 29 else 28
  else if [4, 6, 9, 11].contains month then 30 else 31

/-- What is wrong with the numbers of a day. Years are read with four digits, so that none is too
late; `daysIn` bounds the day. -/
def problem? (d : Day) : Option String :=
  if d.year = 0 then some "year 0 is out of range"
  else if d.month = 0 ∨ 12 < d.month then some "month must be in 1..12"
  else if d.day = 0 ∨ daysIn d.year d.month < d.day then some "day is out of range for month"
  else none

/-- The day before, for a moment that `inUniversalTime` moves back. -/
def before (d : Day) : Day :=
  if 1 < d.day then { d with day := d.day - 1 }
  else if 1 < d.month then ⟨d.year, d.month - 1, daysIn d.year (d.month - 1)⟩
  else ⟨d.year - 1, 12, 31⟩

/-- The day after, for a moment that `inUniversalTime` moves on. -/
def after (d : Day) : Day :=
  if d.day < daysIn d.year d.month then { d with day := d.day + 1 }
  else if d.month < 12 then ⟨d.year, d.month + 1, 1⟩
  else ⟨d.year + 1, 1, 1⟩

end Day

/-- A span of `minutes` as a message shows it: in whole days and in seconds from zero on. -/
def shownSpan (minutes : Int) : String :=
  let days := minutes / minutesPerDay
  let seconds := minutes % minutesPerDay * 60
  let parts :=
    (if days = 0 then [] else ["days=" ++ toString days]) ++
      if seconds = 0 then [] else ["seconds=" ++ toString seconds]
  "datetime.timedelta(" ++ (if parts.isEmpty then "0" else ", ".intercalate parts) ++ ")"

namespace TimeOfDay

/-- What is wrong with the hour, the minute or the second; `micros` are in range as they are read.
-/
def problem? (t : TimeOfDay) : Option String :=
  if 23 < t.hour then some "hour must be in 0..23"
  else if 59 < t.minute then some "minute must be in 0..59"
  else if 59 < t.second then some "second must be in 0..59"
  else none

/-- What is wrong with the offset: it has to be less than `minutesPerDay`. -/
def offsetProblem? (t : TimeOfDay) : Option String :=
  match t.offset? with
  | none => none
  | some minutes =>
    if minutes.natAbs < minutesPerDay then none
    else some ("offset must be a timedelta strictly between -timedelta(hours=24) and " ++
      "timedelta(hours=24), not " ++ shownSpan minutes ++ ".")

end TimeOfDay

namespace Timestamp

/-- **What is wrong with the numbers of a timestamp.** The offset is looked at first, by
`TimeOfDay.offsetProblem?`. -/
def problem? (t : Timestamp) : Option String :=
  ((t.time?.bind TimeOfDay.offsetProblem?).or t.date.problem?).or (t.time?.bind TimeOfDay.problem?)

/-! ## Order -/

/-- What timestamps can be compared with: those of the same `kind`. -/
inductive Kind where
  /-- Dates without a time. -/
  | day
  /-- Times without an offset. -/
  | unzoned
  /-- Times with an offset. -/
  | zoned
  deriving DecidableEq, Repr

/-- The kind of a timestamp: whether it has a time, and that an `offset?`. -/
def kind (t : Timestamp) : Kind :=
  match t.time? with
  | none => .day
  | some time => if time.offset?.isSome then .zoned else .unzoned

/-- **The same moment with the offset zero.** A timestamp without an offset stays as it is. Two
timestamps are the same key if they agree here, by `Scalar.keyForm`. -/
def inUniversalTime (t : Timestamp) : Timestamp :=
  match t.time? with
  | some ⟨hour, minute, second, micros, some offset⟩ =>
    let minutes : Int := (60 * hour + minute : Nat) - offset
    let rest := (minutes % minutesPerDay).toNat
    -- an offset is less than a day, so that a neighbour is the farthest day
    let date :=
      if minutes < 0 then t.date.before
      else if (minutesPerDay : Int) ≤ minutes then t.date.after
      else t.date
    ⟨date, some ⟨rest / 60, rest % 60, second, micros, some 0⟩⟩
  | _ => t

/-- The numbers of a timestamp, from the year to the millionths of a second, which `atMost`
compares. -/
def numbers (t : Timestamp) : List Nat :=
  [t.date.year, t.date.month, t.date.day] ++
    match t.time? with
    | none => []
    | some time => [time.hour, time.minute, time.second, time.micros]

/-- Whether a timestamp comes before another one of its `kind`, or is the same moment. -/
def atMost (s t : Timestamp) : Bool :=
  !t.inUniversalTime.numbers.lex s.inUniversalTime.numbers fun m n => decide (m < n)

/-! ## Writing -/

/-- The decimal digits of `n`, with zeros before them up to `width`. -/
def padded (width n : Nat) : String :=
  let digits := toString n
  "".pushn '0' (width - digits.length) ++ digits

/-- An offset with its sign, as hours and minutes, each `padded` to two digits. -/
def offsetText (offset : Int) : String :=
  let minutes := offset.natAbs
  (if offset < 0 then "-" else "+") ++ padded 2 (minutes / 60) ++ ":" ++ padded 2 (minutes % 60)

/-- **The text of a timestamp**: `2001-02-03`, or `2001-02-03 04:05:06` with the millionths of a
second behind a point unless there are none, and with the offset if there is one. -/
def text (t : Timestamp) : String :=
  padded 4 t.date.year ++ "-" ++ padded 2 t.date.month ++ "-" ++ padded 2 t.date.day ++
    match t.time? with
    | none => ""
    | some time =>
      " " ++ padded 2 time.hour ++ ":" ++ padded 2 time.minute ++ ":" ++ padded 2 time.second ++
        (if time.micros = 0 then "" else "." ++ padded 6 time.micros) ++
        (time.offset?.map offsetText).getD ""

/-- The word for the kind of a timestamp in messages, by `Scalar.kindName`. -/
def className (t : Timestamp) : String :=
  if t.time?.isSome then "datetime" else "date"

/-- An offset as a message shows it, by `shownSpan` unless it is zero. -/
def shownOffset (offset : Int) : String :=
  ", tzinfo=datetime.timezone" ++
    if offset = 0 then ".utc" else "(" ++ shownSpan offset ++ ")"

/-- **A timestamp as a message shows it.** Seconds and their millionths are left out at the end if
they are zero, and `shownOffset` ends it. -/
def shown (t : Timestamp) : String :=
  let date := [t.date.year, t.date.month, t.date.day]
  let (numbers, offset?) :=
    match t.time? with
    | none => (date, none)
    | some time =>
      let seconds :=
        if time.micros ≠ 0 then [time.second, time.micros]
        else if time.second ≠ 0 then [time.second]
        else []
      (date ++ [time.hour, time.minute] ++ seconds, time.offset?)
  "datetime." ++ t.className ++ "(" ++ ", ".intercalate (numbers.map toString) ++
    (offset?.map shownOffset).getD "" ++ ")"

end Timestamp

end TreeSift.Document
