import TypedSql.Decimal.Basic

/-!
Decimal numbers read from text: a sign, digits with underscores between them and one point, and
optionally a power of ten. A number with more digits than fit behind its point is rounded at the
first that does not.
-/

namespace TypedSql.Decimal

open Text

structure Scan where
  mantissa : Nat := 0
  scale : Nat := 0
  pointSeen : Bool := false
  digitSeen : Bool := false

namespace Scan

/-- The number that was read; at least one digit must have been. -/
def finish (negative : Bool) (s : Scan) : Option Decimal :=
  if s.digitSeen then ofParts? (if negative then -(s.mantissa : Int) else s.mantissa) s.scale
  else none

/-- The number rounded by a digit that no longer fits: from five on it counts up, and if the
mantissa then runs over, one more digit goes. Behind it only digits and underscores may stand. -/
def round (negative : Bool) (s : Scan) (digit : Char) (rest : List Char) : Option Decimal :=
  if !rest.all (fun c => c.isDigit || c == '_') then none
  else if digitValue digit < 5 then finish negative s
  else if s.mantissa + 1 < limit then finish negative { s with mantissa := s.mantissa + 1 }
  else if s.scale = 0 then none
  else finish negative { s with mantissa := (s.mantissa + 5) / 10, scale := s.scale - 1 }

/-- Whether the mantissa without its last digit takes one more digit within 64 bits, by a margin of
255. -/
def isShort (s : Scan) : Bool :=
  s.mantissa / 10 < 1844674407370954906

/-- Reads the rest of a number. An underscore is passed over, but directly behind the last digit of
a short number that has room it stands in the place of the digit that rounds, as a zero. -/
def read (negative : Bool) (s : Scan) : List Char → Option Decimal
  | [] => finish negative s
  | c :: cs =>
    if c.isDigit then
      let next := 10 * s.mantissa + digitValue c
      if s.pointSeen && (28 ≤ s.scale || limit ≤ next) then round negative s c cs
      else if limit ≤ next then none
      else
        read negative { s with
          mantissa := next
          scale := if s.pointSeen then s.scale + 1 else 0
          digitSeen := true } cs
    else if c = '.' && !s.pointSeen then read negative { s with pointSeen := true } cs
    else if c = '_' && s.digitSeen then
      if s.pointSeen && 28 ≤ s.scale && s.isShort then round negative s '0' cs
      else read negative s cs
    else none

end Scan

def ofPlainText? : List Char → Option Decimal
  | [] => none
  | '-' :: cs => Scan.read true {} cs
  | '+' :: cs => Scan.read false {} cs
  | cs => Scan.read false {} cs

/-- The number of places that a power of ten moves the point by: digits with a plus sign in front
of them or none, and 28 at most. -/
def readPlaces? (cs : List Char) : Option Nat := do
  let n ← readDigits? (match cs with | '+' :: ds => ds | _ => cs)
  if n ≤ 28 then some n else none

/-- A number followed by a power of ten. The point moves through the digits that there are; places
behind the 28th round. -/
def ofScientificText? (cs : List Char) : Option Decimal := do
  let isMark := fun c : Char => c == 'e' || c == 'E'
  let base ← ofPlainText? (cs.takeWhile (!isMark ·))
  match cs.dropWhile (!isMark ·) with
  | [] => none
  | _ :: '-' :: ds =>
    let n ← readPlaces? ds
    let scale := min (base.scale + n) 28
    ofSigned? base.negative (toScale base.magnitude base.scale (scale - n)) scale
  | _ :: ds =>
    let n ← readPlaces? ds
    if n ≤ base.scale then ofSigned? base.negative base.magnitude (base.scale - n)
    else ofSigned? base.negative (base.magnitude * Nat.pow 10 (n - base.scale)) 0

def ofText? (cs : List Char) : Option Decimal :=
  ofPlainText? cs <|> ofScientificText? cs

end TypedSql.Decimal
