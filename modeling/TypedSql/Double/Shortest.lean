import TypedSql.Double.Basic
import TypedSql.Text.Numeral

/-!
The shortest decimal that reads back as a given double. For one, two, … seventeen digits the two
decimals of that many digits next to the number are tried in exact arithmetic; the first length at
which one of them lies in the interval of numbers that round to the double wins, and of two the
nearer.
-/

namespace TypedSql.Double

open Text

/-- How to choose between two shortest decimals at the same distance. -/
inductive Tie where
  /-- The one of larger magnitude. -/
  | up
  /-- The one whose last digit is even. -/
  | even
  deriving DecidableEq, Repr

/-- The decimal `digits * 10 ^ exponent`. -/
structure Scientific where
  digits : Nat
  exponent : Int
  deriving DecidableEq, Repr

/-- The largest power of ten that is at most `num / den`, both positive. -/
def decimalMagnitude (num den : Nat) : Int :=
  if den ≤ num then ((digits (num / den)).length : Int) - 1
  else -((digits ((den + num - 1) / num - 1)).length : Int)

/-- Four times a finite positive double and the limits of its rounding interval, all over one
denominator: the lower limit, the number, the upper limit, the denominator. -/
structure Interval where
  lower : Nat
  value : Nat
  upper : Nat
  den : Nat
  /-- The limits themselves round to the number. -/
  closed : Bool

/-- The interval of numbers that round to a finite double other than zero. Below a power of two
the doubles lie twice as dense, so the lower limit is nearer there. -/
def roundingInterval (x : Double) : Interval :=
  let m := x.significand
  let below := if m = Nat.pow 2 52 ∧ -1074 < x.exponent then 1 else 2
  let scale := fun n : Nat => if x.exponent < 0 then n else n * Nat.pow 2 x.exponent.natAbs
  { lower := scale (4 * m - below)
    value := scale (4 * m)
    upper := scale (4 * m + 2)
    den := if x.exponent < 0 then 4 * Nat.pow 2 x.exponent.natAbs else 4
    closed := m % 2 == 0 }

/-- A decimal over the denominator of the interval, both scaled to whole numbers. -/
def Interval.contains (i : Interval) (d : Nat) (exponent : Int) : Bool :=
  let p := Nat.pow 10 exponent.natAbs
  let point := if exponent < 0 then d * i.den else d * p * i.den
  let lower := if exponent < 0 then i.lower * p else i.lower
  let upper := if exponent < 0 then i.upper * p else i.upper
  if i.closed then lower ≤ point && point ≤ upper else lower < point && point < upper

/-- The multiple of `10 ^ exponent` at or next below the number. -/
def Interval.gridBelow (i : Interval) (exponent : Int) : Nat :=
  if exponent < 0 then i.value * Nat.pow 10 exponent.natAbs / i.den
  else i.value / (i.den * Nat.pow 10 exponent.natAbs)

/-- How the number lies between the multiples `d` and `d + 1` of `10 ^ exponent`: compared with
their middle. -/
def Interval.compareMiddle (i : Interval) (d : Nat) (exponent : Int) : Ordering :=
  if exponent < 0 then compare (2 * i.value * Nat.pow 10 exponent.natAbs) ((2 * d + 1) * i.den)
  else compare (2 * i.value) ((2 * d + 1) * (i.den * Nat.pow 10 exponent.natAbs))

/-- The decimal of the grid `10 ^ exponent` that stands for the number, if there is one. -/
def Interval.onGrid? (tie : Tie) (i : Interval) (exponent : Int) : Option Nat :=
  let d := i.gridBelow exponent
  match i.contains d exponent, i.contains (d + 1) exponent with
  | true, true =>
    match i.compareMiddle d exponent, tie with
    | .lt, _ => some d
    | .gt, _ => some (d + 1)
    | .eq, .up => some (d + 1)
    | .eq, .even => some (d + d % 2)
  | true, false => some d
  | false, true => some (d + 1)
  | false, false => none

/-- The decimal without trailing zeros. Each step drops one; there are as many steps as digits. -/
def Scientific.normalize : Nat → Scientific → Scientific
  | 0, s => s
  | steps + 1, s =>
    if s.digits ≠ 0 ∧ s.digits % 10 = 0 then normalize steps ⟨s.digits / 10, s.exponent + 1⟩ else s

/-- The first grid, of `18 - steps` digits or more, with a decimal in the interval. -/
def Interval.search (tie : Tie) (i : Interval) (magnitude : Int) : Nat → Scientific
  | 0 => ⟨i.gridBelow (magnitude - 17), magnitude - 17⟩
  | steps + 1 =>
    let exponent := magnitude - (17 - (steps + 1) : Nat)
    match i.onGrid? tie exponent with
    | some d => Scientific.normalize 17 ⟨d, exponent⟩
    | none => i.search tie magnitude steps

/-- The shortest decimal that reads back as the magnitude of a finite double. -/
def shortest (tie : Tie) (x : Double) : Scientific :=
  if x.isZero then ⟨0, 0⟩
  else
    let i := x.roundingInterval
    i.search tie (decimalMagnitude i.value i.den) 17

end TypedSql.Double
