import TypedSql.Text.Numeral

/-!
Times of day to the nanosecond. A leap second is the second 59 with a billion nanoseconds or more
and is written as second 60.
-/

namespace TypedSql

/-- Whether the parts name a time of day; only the last second of a minute may be long. -/
def isTimeOfDay (hour minute second nanosecond : Nat) : Bool :=
  hour < 24 && minute < 60 && second < 60 &&
    nanosecond < (if second = 59 then 2000000000 else 1000000000)

structure Time where
  hour : Nat
  minute : Nat
  second : Nat
  nanosecond : Nat
  valid : isTimeOfDay hour minute second nanosecond = true := by decide
  deriving DecidableEq

namespace Time

open Text

instance : Inhabited Time := ⟨{ hour := 0, minute := 0, second := 0, nanosecond := 0 }⟩

instance : Repr Time := ⟨fun t _ => repr (t.hour, t.minute, t.second, t.nanosecond)⟩

/-- The time of day with the given parts, if there is one. -/
def of? (hour minute second nanosecond : Nat) : Option Time :=
  if h : isTimeOfDay hour minute second nanosecond = true
  then some ⟨hour, minute, second, nanosecond, h⟩ else none

/-- The fraction of a second: nothing, or a point with three, six or nine digits, the fewest that
lose nothing. -/
def fractionText (nanosecond : Nat) : List Char :=
  if nanosecond = 0 then []
  else if nanosecond % 1000000 = 0 then '.' :: padded 3 (nanosecond / 1000000)
  else if nanosecond % 1000 = 0 then '.' :: padded 6 (nanosecond / 1000)
  else '.' :: padded 9 nanosecond

/-- Hour, minute and second with colons between them, and the fraction if there is one. -/
def toText (t : Time) : List Char :=
  padded 2 t.hour ++ ':' :: (padded 2 t.minute ++ ':' ::
    (padded 2 (t.second + t.nanosecond / 1000000000) ++
      fractionText (t.nanosecond % 1000000000)))

/-- Whole seconds since midnight. -/
def secondOfDay (t : Time) : Nat :=
  3600 * t.hour + 60 * t.minute + t.second

/-- The time so many seconds and nanoseconds after midnight. -/
def ofSecondOfDay? (seconds nanosecond : Nat) : Option Time :=
  of? (seconds / 3600) (seconds / 60 % 60) (seconds % 60) nanosecond

theorem of?_eq_some {h m s n : Nat} {t : Time} :
    of? h m s n = some t ↔ t.hour = h ∧ t.minute = m ∧ t.second = s ∧ t.nanosecond = n := by
  unfold of?
  split
  · constructor
    · intro h; cases h; exact ⟨rfl, rfl, rfl, rfl⟩
    · rintro ⟨rfl, rfl, rfl, rfl⟩; rfl
  · rename_i h
    constructor
    · intro h'; cases h'
    · rintro ⟨rfl, rfl, rfl, rfl⟩; exact absurd t.valid h

end Time

end TypedSql
