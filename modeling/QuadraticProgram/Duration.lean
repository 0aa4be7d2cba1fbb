/-!
# Durations

A span of time in whole microseconds, negative or not. It is read as days, seconds and
microseconds of which only the days can be negative.
-/

namespace QuadraticProgram

/-- A span of time. -/
structure Duration where
  microseconds : Int
deriving DecidableEq, BEq

namespace Duration

/-- The span of some days, seconds and microseconds, each of any size. -/
def of (days seconds microseconds : Int) : Duration :=
  ⟨(days * 86400 + seconds) * 1000000 + microseconds⟩

/-- The whole days, rounded down. -/
def days (d : Duration) : Int := d.microseconds.fdiv 86400000000

/-- The whole seconds beyond the days. -/
def secondsOfDay (d : Duration) : Int := (d.microseconds.fmod 86400000000).fdiv 1000000

/-- The microseconds beyond the seconds. -/
def microsecondsOfSecond (d : Duration) : Int := d.microseconds.fmod 1000000

/-- The span in seconds. -/
def totalSeconds (d : Duration) : Rat := mkRat d.microseconds 1000000

/-- A number of at least two digits. -/
def twoDigits (n : Int) : String :=
  (if n < 10 then "0" else "") ++ toString n

/-- The days, if there are any, and the time of day; a fraction of a second in six digits. -/
def text (d : Duration) : String :=
  let days :=
    if d.days = 0 then ""
    else toString d.days ++ (if d.days.natAbs = 1 then " day, " else " days, ")
  let s := d.secondsOfDay
  let time := toString (s / 3600) ++ ":" ++ twoDigits (s / 60 % 60) ++ ":" ++ twoDigits (s % 60)
  let micros := toString d.microsecondsOfSecond
  let fraction :=
    if d.microsecondsOfSecond = 0 then ""
    else "." ++ String.ofList (List.replicate (6 - micros.length) '0') ++ micros
  days ++ time ++ fraction

end Duration

end QuadraticProgram
