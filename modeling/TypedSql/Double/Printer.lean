import TypedSql.Double.Shortest

/-!
Layouts of the shortest decimal: positional in a range of magnitudes and with an exponent outside
it. SQL literals and JSON documents differ in the range, in the sign of the exponent and in the
choice between two decimals at the same distance.
-/

namespace TypedSql.Double

open Text

/-- What a notation decides beyond the digits themselves. -/
structure Layout where
  tie : Tie
  /-- The least power of ten written positionally. -/
  lowest : Int
  /-- The largest power of ten written positionally. -/
  highest : Int
  /-- What stands before an exponent that is not negative. -/
  plus : List Char

/-- In SQL: positional from `0.0001` to below `10 ^ 16`, no plus sign, a tie goes up. -/
def Layout.sql : Layout := ⟨.up, -4, 15, []⟩

/-- In JSON: positional from `0.00001` to below `10 ^ 16`, a plus sign, a tie goes to the even
digit. -/
def Layout.json : Layout := ⟨.even, -5, 15, ['+']⟩

/-- Digits with the point after the first `whole` of them, and at least one digit on either side
of it. -/
def positional (ds : List Char) (whole : Int) : List Char :=
  if whole ≤ 0 then ['0', '.'] ++ List.replicate whole.natAbs '0' ++ ds
  else
    let n := whole.natAbs
    if ds.length ≤ n then ds ++ List.replicate (n - ds.length) '0' ++ ['.', '0']
    else ds.take n ++ '.' :: ds.drop n

/-- Digits with the point after the first, if more follow, and an exponent. -/
def exponential (plus ds : List Char) (exponent : Int) : List Char :=
  let fraction := match ds.drop 1 with
    | [] => []
    | cs => '.' :: cs
  ds.take 1 ++ fraction ++ 'e' :: ((if exponent < 0 then [] else plus) ++ signedDigits exponent)

/-- A finite number in the given notation. -/
def render (layout : Layout) (x : Double) : List Char :=
  let s := x.shortest layout.tie
  let ds := digits s.digits
  let magnitude := s.exponent + ds.length - 1
  let body :=
    if layout.lowest ≤ magnitude ∧ magnitude ≤ layout.highest then positional ds (magnitude + 1)
    else exponential layout.plus ds magnitude
  if x.isNegative then '-' :: body else body

/-- A finite number written out in full, without an exponent and without a fraction if it is
whole. -/
def expanded (x : Double) : List Char :=
  let s := x.shortest .up
  let ds := digits s.digits
  let body :=
    if 0 ≤ s.exponent then ds ++ List.replicate s.exponent.natAbs '0'
    else positional ds (s.exponent + ds.length)
  if x.isNegative then '-' :: body else body

end TypedSql.Double
