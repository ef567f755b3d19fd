import TypedSql.Calendar.Date
import TypedSql.Calendar.Time

/-!
A day and a time of day together. The same structure serves for a local date and time and for a
moment in universal time; the kind of SQL value tells which is meant.
-/

namespace TypedSql

/-- A date and a time of day. -/
structure Timestamp where
  date : Date
  time : Time
  deriving DecidableEq, Repr, Inhabited

namespace Timestamp

/-- The date, the letter `T` and the time. -/
def toText (t : Timestamp) : List Char :=
  t.date.toText ++ 'T' :: t.time.toText

/-- The text of a moment in universal time. -/
def toUtcText (t : Timestamp) : List Char :=
  t.toText ++ ['Z']

/-- The timestamp that many seconds later, if its year is in range. A leap second stays one. -/
def addSeconds? (t : Timestamp) (seconds : Int) : Option Timestamp := do
  let total := (t.time.secondOfDay : Int) + seconds
  let date ← t.date.addDays? (total / 86400)
  let time ← Time.ofSecondOfDay? (total % 86400).toNat t.time.nanosecond
  return ⟨date, time⟩

/-- The timestamp so many microseconds after the first moment of a day, if its year is in range. -/
def ofMicroseconds? (start : Date) (microseconds : Int) : Option Timestamp := do
  let seconds := microseconds / 1000000
  let date ← start.addDays? (seconds / 86400)
  let time ← Time.ofSecondOfDay? (seconds % 86400).toNat ((microseconds % 1000000).toNat * 1000)
  return ⟨date, time⟩

end Timestamp

end TypedSql
