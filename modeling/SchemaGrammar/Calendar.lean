set_option autoImplicit false

/-!
Dates and times of day as a document may hold them: a date of the Gregorian calendar, a time of
day down to the microsecond, and both together with or without an offset from universal time.
`Date.valid` is the check that a day exists in its month.
-/

namespace SchemaGrammar

structure Date where
  year : Nat
  month : Nat
  day : Nat
  deriving DecidableEq

structure TimeOfDay where
  hour : Nat
  minute : Nat
  second : Nat
  microsecond : Nat
  deriving DecidableEq

/-- A point on the calendar; the offset of a date with time is in minutes east. -/
inductive Moment where
  | date (day : Date)
  | time (clock : TimeOfDay)
  | dateTime (day : Date) (clock : TimeOfDay) (offset : Option Int)
  deriving DecidableEq

def isLeapYear (year : Nat) : Bool :=
  year % 4 == 0 && (year % 100 != 0 || year % 400 == 0)

def daysInMonth (year month : Nat) : Nat :=
  if month = 2 then (if isLeapYear year then 29 else 28)
  else if month = 4 ∨ month = 6 ∨ month = 9 ∨ month = 11 then 30
  else 31

/-- Years count from one. -/
def Date.valid (date : Date) : Bool :=
  1 ≤ date.year && 1 ≤ date.month && date.month ≤ 12 && 1 ≤ date.day &&
    date.day ≤ daysInMonth date.year date.month

/-- A number with zeros in front up to a width. -/
def padded (width n : Nat) : String :=
  let digits := Nat.toDigits 10 n
  String.ofList (List.replicate (width - digits.length) '0' ++ digits)

namespace Moment

def dateText (day : Date) : String :=
  padded 4 day.year ++ "-" ++ padded 2 day.month ++ "-" ++ padded 2 day.day

/-- A fraction of a second is shown only when there is one, always with six digits. -/
def timeText (clock : TimeOfDay) : String :=
  padded 2 clock.hour ++ ":" ++ padded 2 clock.minute ++ ":" ++ padded 2 clock.second ++
    if clock.microsecond = 0 then "" else "." ++ padded 6 clock.microsecond

def offsetText (offset : Int) : String :=
  (if offset < 0 then "-" else "+") ++ padded 2 (offset.natAbs / 60) ++ ":" ++
    padded 2 (offset.natAbs % 60)

/-- The text of a moment in a message. -/
def text : Moment → String
  | .date day => dateText day
  | .time clock => timeText clock
  | .dateTime day clock offset =>
    dateText day ++ " " ++ timeText clock ++ (offset.map offsetText).getD ""

/-- The arguments that name a time of day; seconds and microseconds are left out at the end when
they are zero. -/
def timeArguments (clock : TimeOfDay) : List String :=
  [toString clock.hour, toString clock.minute] ++
    if clock.microsecond ≠ 0 then [toString clock.second, toString clock.microsecond]
    else if clock.second ≠ 0 then [toString clock.second]
    else []

/-- An offset west of universal time counts as a day less and the rest in seconds. -/
def offsetLiteral (offset : Int) : String :=
  if offset = 0 then "datetime.timezone.utc"
  else if 0 < offset then s!"datetime.timezone(datetime.timedelta(seconds={offset * 60}))"
  else s!"datetime.timezone(datetime.timedelta(days=-1, seconds={86400 + offset * 60}))"

/-- The form of a moment inside a list or a table. -/
def literal : Moment → String
  | .date day => s!"datetime.date({day.year}, {day.month}, {day.day})"
  | .time clock => "datetime.time(" ++ ", ".intercalate (timeArguments clock) ++ ")"
  | .dateTime day clock offset =>
    let parts := [toString day.year, toString day.month, toString day.day] ++
      timeArguments clock ++
      (match offset with
        | some offset => ["tzinfo=" ++ offsetLiteral offset]
        | none => [])
    "datetime.datetime(" ++ ", ".intercalate parts ++ ")"

end Moment

end SchemaGrammar
