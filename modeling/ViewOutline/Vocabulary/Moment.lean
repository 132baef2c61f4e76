/-!
# Dates and times

Configuration files may hold a day, a time of day to the microsecond, or both
together, with or without a distance from universal time.  A moment has two
texts.  The plain text is what stands for it as a name.  Inside messages, lists
and tables it is shown by its parts, where seconds and microseconds are left
out if they and all that follows them are zero.
-/

namespace ViewOutline

/-- A day of the calendar. -/
structure Day where
  year : Nat
  month : Nat
  day : Nat

/-- A time of day. -/
structure Clock where
  hour : Nat
  minute : Nat
  second : Nat
  micros : Nat

/-- A day, a time of day, or both with the distance from universal time in
minutes if it is known. -/
inductive Moment where
  | day (day : Day)
  | clock (clock : Clock)
  | instant (day : Day) (clock : Clock) (offset : Option Int)

/-- A number in decimal digits of at least a width. -/
def padded (width value : Nat) : String :=
  let digits := toString value
  String.ofList (List.replicate (width - digits.length) '0') ++ digits

/-- Numbers with commas between them. -/
def numberList (values : List Nat) : String :=
  ", ".intercalate (values.map toString)

namespace Day

/-- The plain text of a day. -/
def plain (date : Day) : String :=
  padded 4 date.year ++ "-" ++ padded 2 date.month ++ "-" ++ padded 2 date.day

/-- The parts of a day. -/
def parts (date : Day) : List Nat :=
  [date.year, date.month, date.day]

end Day

namespace Clock

/-- The plain text of a time of day. -/
def plain (clock : Clock) : String :=
  let whole := padded 2 clock.hour ++ ":" ++ padded 2 clock.minute ++ ":" ++ padded 2 clock.second
  if clock.micros = 0 then whole else whole ++ "." ++ padded 6 clock.micros

/-- The parts of a time of day that are shown. -/
def parts (clock : Clock) : List Nat :=
  if clock.micros ≠ 0 then [clock.hour, clock.minute, clock.second, clock.micros]
  else if clock.second ≠ 0 then [clock.hour, clock.minute, clock.second]
  else [clock.hour, clock.minute]

end Clock

/-- The plain text of a distance in minutes. -/
def offsetPlain (offset : Int) : String :=
  let minutes := offset.natAbs
  (if offset < 0 then "-" else "+") ++ padded 2 (minutes / 60) ++ ":" ++ padded 2 (minutes % 60)

/-- A distance in minutes as it is shown: seconds forward, from the day before
if it is negative. -/
def offsetShown (offset : Int) : String :=
  if offset = 0 then "datetime.timezone.utc"
  else
    let delta :=
      if offset < 0 then s!"days=-1, seconds={86400 + 60 * offset}" else s!"seconds={60 * offset}"
    "datetime.timezone(datetime.timedelta(" ++ delta ++ "))"

namespace Moment

/-- The word for the kind of a moment. -/
def kindName : Moment → String
  | .day _ => "datetime.date"
  | .clock _ => "datetime.time"
  | .instant .. => "datetime.datetime"

/-- The plain text of a moment. -/
def plain : Moment → String
  | .day date => date.plain
  | .clock time => time.plain
  | .instant date time offset =>
      date.plain ++ " " ++ time.plain ++ (offset.map offsetPlain).getD ""

/-- How a moment is shown inside a message, a list or a table. -/
def shown (moment : Moment) : String :=
  let inside := match moment with
    | .day date => numberList date.parts
    | .clock time => numberList time.parts
    | .instant date time offset =>
        let zone := (offset.map fun distance => ", tzinfo=" ++ offsetShown distance).getD ""
        numberList (date.parts ++ time.parts) ++ zone
  moment.kindName ++ "(" ++ inside ++ ")"

end Moment

end ViewOutline
