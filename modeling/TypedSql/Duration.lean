import TypedSql.Text.Numeral

/-!
Spans of time in nanoseconds, and the short text that error messages show for one: the largest
unit that gives a non-zero whole part, with the fraction behind a point.
-/

namespace TypedSql

structure Duration where
  nanoseconds : Nat
  deriving DecidableEq, Repr, Inhabited

namespace Duration

open Text

def ofSeconds (seconds nanoseconds : Nat) : Duration :=
  ⟨seconds * 1000000000 + nanoseconds⟩

def ofMilliseconds (n : Nat) : Duration :=
  ⟨n * 1000000⟩

/-- Whole milliseconds; what is less than one is dropped. -/
def toMilliseconds (d : Duration) : Nat :=
  d.nanoseconds / 1000000

/-- Whole milliseconds in 64 bits: the greatest such number for a span that has more of them. -/
def clampedMilliseconds (d : Duration) : UInt64 :=
  .ofNat (min d.toMilliseconds (UInt64.size - 1))

instance : LT Duration := ⟨fun a b => a.nanoseconds < b.nanoseconds⟩

instance (a b : Duration) : Decidable (a < b) :=
  inferInstanceAs (Decidable (a.nanoseconds < b.nanoseconds))

/-- A fraction of `places` digits behind a point, without trailing zeros and without the point if
nothing is left. -/
def fractionText (places n : Nat) : List Char :=
  match ((padded places n).reverse.dropWhile (· == '0')).reverse with
  | [] => []
  | cs => '.' :: cs

/-- A whole number of units, `size` nanoseconds each, and the fraction of `places` digits. -/
def inUnit (size places : Nat) (word : String) (d : Duration) : String :=
  String.ofList (digits (d.nanoseconds / size) ++ fractionText places (d.nanoseconds % size)) ++
    word

/-- The text of a span in its largest fitting unit. -/
def text (d : Duration) : String :=
  if 1000000000 ≤ d.nanoseconds then inUnit 1000000000 9 "s" d
  else if 1000000 ≤ d.nanoseconds then inUnit 1000000 6 "ms" d
  else if 1000 ≤ d.nanoseconds then inUnit 1000 3 "µs" d
  else inUnit 1 0 "ns" d

theorem toNat_clampedMilliseconds (d : Duration) :
    d.clampedMilliseconds.toNat = min (d.nanoseconds / 1000000) (UInt64.size - 1) :=
  UInt64.toNat_ofNat_of_lt' (Nat.lt_of_le_of_lt (Nat.min_le_right ..) (by decide))

end Duration

end TypedSql
