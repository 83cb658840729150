import StreamGate.Text.Decimal

/-!
# Dates and times

The instant at which a request is answered, and its three written forms: the
date of an export, the date of a response header, the timestamp of a log line.
-/

namespace StreamGate

/-- A day of the calendar. -/
structure Date where
  year : Int
  month : Nat
  day : Nat
deriving DecidableEq, Repr

namespace Date

/-- The year in at least four digits; one that is negative or needs more carries
a sign. -/
def yearText (d : Date) : String :=
  let sign := if d.year < 0 then "-" else if 9999 < d.year then "+" else ""
  sign ++ Decimal.padded 4 d.year.natAbs

/-- The day as `YYYY-MM-DD`. -/
def iso (d : Date) : String :=
  d.yearText ++ "-" ++ Decimal.padded 2 d.month ++ "-" ++ Decimal.padded 2 d.day

/-- The day of the week, counted from Sunday. -/
def weekday (d : Date) : Nat :=
  let offset := [0, 3, 2, 5, 0, 3, 5, 1, 4, 6, 2, 4].getD (d.month - 1) 0
  let y := if d.month < 3 then d.year - 1 else d.year
  ((y + y / 4 - y / 100 + y / 400 + offset + d.day) % 7).toNat

def weekdayName (d : Date) : String :=
  ["Sun", "Mon", "Tue", "Wed", "Thu", "Fri", "Sat"].getD d.weekday ""

def monthName (d : Date) : String :=
  ["Jan", "Feb", "Mar", "Apr", "May", "Jun", "Jul", "Aug", "Sep", "Oct", "Nov", "Dec"].getD
    (d.month - 1) ""

end Date

/-- A second of a day, in universal time. -/
structure Instant where
  date : Date
  hour : Nat
  minute : Nat
  second : Nat
deriving DecidableEq, Repr

namespace Instant

def time (t : Instant) : String :=
  Decimal.padded 2 t.hour ++ ":" ++ Decimal.padded 2 t.minute ++ ":" ++ Decimal.padded 2 t.second

/-- The form of response headers. -/
def httpDate (t : Instant) : String :=
  s!"{t.date.weekdayName}, {Decimal.padded 2 t.date.day} {t.date.monthName} {t.date.yearText} {t.time} GMT"

/-- The form of log lines. -/
def timestamp (t : Instant) : String := t.date.iso ++ "T" ++ t.time ++ "+00:00"

end Instant

end StreamGate
