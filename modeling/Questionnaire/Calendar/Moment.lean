import Questionnaire.Calendar.DateText

/-!
# Moments

A moment is counted in seconds from the start of 1970 in universal time, and written as a date and
a time of day to the second, `2026-03-14T15:09:26Z`.
-/

namespace Questionnaire

/-- A moment in universal time, to the second. -/
structure Moment where
  /-- The day. -/
  date : Date
  /-- The seconds since midnight. -/
  second : Nat
deriving DecidableEq

namespace Moment

/-- The moment the given number of seconds after the start of 1970, if its day can be named. -/
def ofSeconds? (seconds : Int) : Option Moment :=
  (Date.ofDayNumber? (seconds / 86400)).map fun date => ⟨date, (seconds % 86400).toNat⟩

/-- The written moment. -/
def toText (m : Moment) : String :=
  String.ofList (m.date.write ++ 'T' :: Date.padded 2 (m.second / 3600) ++
    ':' :: Date.padded 2 (m.second / 60 % 60) ++ ':' :: Date.padded 2 (m.second % 60) ++ ['Z'])

end Moment

end Questionnaire
