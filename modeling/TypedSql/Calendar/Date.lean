import TypedSql.Text.Numeral

/-!
Days of the proleptic Gregorian calendar, their text, and their number on a line of days, by which
days are added.
-/

namespace TypedSql

/-- Every fourth year is a leap year, except the hundredth, except the four hundredth. -/
def isLeapYear (year : Int) : Bool :=
  year % 4 == 0 && (year % 100 != 0 || year % 400 == 0)

/-- The number of days in a month; none in a month that does not exist. -/
def daysInMonth (year : Int) (month : Nat) : Nat :=
  match month with
  | 2 => if isLeapYear year then 29 else 28
  | 4 | 6 | 9 | 11 => 30
  | 1 | 3 | 5 | 7 | 8 | 10 | 12 => 31
  | _ => 0

/-- Whether year, month and day name a day in the supported range of years. -/
def isDay (year : Int) (month day : Nat) : Bool :=
  -262143 ≤ year && year ≤ 262142 && 1 ≤ day && day ≤ daysInMonth year month

structure Date where
  year : Int
  month : Nat
  day : Nat
  valid : isDay year month day = true := by decide
  deriving DecidableEq

namespace Date

open Text

instance : Inhabited Date := ⟨{ year := 1, month := 1, day := 1 }⟩

instance : Repr Date := ⟨fun d _ => repr (d.year, d.month, d.day)⟩

/-- The day with the given year, month and day of the month, if there is one. -/
def of? (year : Int) (month day : Nat) : Option Date :=
  if h : isDay year month day = true then some ⟨year, month, day, h⟩ else none

/-- A year: four digits from 0 to 9999, else a sign and at least four digits. -/
def yearText (year : Int) : List Char :=
  if 0 ≤ year ∧ year ≤ 9999 then padded 4 year.natAbs
  else (if year < 0 then '-' else '+') :: padded 4 year.natAbs

/-- Year, month and day with hyphens between them. -/
def toText (d : Date) : List Char :=
  yearText d.year ++ '-' :: (padded 2 d.month ++ '-' :: padded 2 d.day)

/-- The number of the day, counted from 1 March of the year 0. Years begin in March here, so the
leap day is the last of its year and the months before it have a fixed number of days. -/
def number (d : Date) : Int :=
  let year := if d.month ≤ 2 then d.year - 1 else d.year
  let month := (d.month + 9) % 12
  365 * year + year / 4 - year / 100 + year / 400 + ((153 * month + 2) / 5 + d.day - 1 : Nat)

/-- The day with the given number, if its year is in range. -/
def ofNumber? (n : Int) : Option Date :=
  let cycle := n / 146097
  let dayOfCycle := (n % 146097).toNat
  let yearOfCycle :=
    (dayOfCycle - dayOfCycle / 1460 + dayOfCycle / 36524 - dayOfCycle / 146096) / 365
  let dayOfYear := dayOfCycle - (365 * yearOfCycle + yearOfCycle / 4 - yearOfCycle / 100)
  let month := (5 * dayOfYear + 2) / 153
  let year := 400 * cycle + yearOfCycle
  of? (if month < 10 then year else year + 1) (if month < 10 then month + 3 else month - 9)
    (dayOfYear - (153 * month + 2) / 5 + 1)

def addDays? (d : Date) (days : Int) : Option Date :=
  ofNumber? (d.number + days)

theorem of?_eq_some {y : Int} {m n : Nat} {d : Date} :
    of? y m n = some d ↔ d.year = y ∧ d.month = m ∧ d.day = n := by
  unfold of?
  split
  · constructor
    · intro h; cases h; exact ⟨rfl, rfl, rfl⟩
    · rintro ⟨rfl, rfl, rfl⟩; rfl
  · rename_i h
    constructor
    · intro h'; cases h'
    · rintro ⟨rfl, rfl, rfl⟩; exact absurd d.valid h

end Date

end TypedSql
