/-!
Double-precision numbers as their 64 bits. A finite one is a whole multiple of a power of two, and
each operation gives the double nearest to the exact result, an even significand winning a tie.
-/

namespace TypedSql

/-- A double-precision number. Two of them are equal when their bits are, so a zero differs from
its negative and a not-a-number keeps its payload. -/
structure Double where
  bits : UInt64
  deriving DecidableEq, Repr, Inhabited

namespace Double

def isNegative (x : Double) : Bool :=
  Nat.pow 2 63 ≤ x.bits.toNat

def exponentField (x : Double) : Nat :=
  x.bits.toNat / Nat.pow 2 52 % Nat.pow 2 11

def fractionField (x : Double) : Nat :=
  x.bits.toNat % Nat.pow 2 52

def isFinite (x : Double) : Bool :=
  x.exponentField != 2047

def isNaN (x : Double) : Bool :=
  x.exponentField == 2047 && x.fractionField != 0

def isZero (x : Double) : Bool :=
  x.exponentField == 0 && x.fractionField == 0

/-- The significand of a finite number: its magnitude is `significand * 2 ^ exponent`. -/
def significand (x : Double) : Nat :=
  if x.exponentField = 0 then x.fractionField else Nat.pow 2 52 + x.fractionField

/-- The power of two that scales the significand. -/
def exponent (x : Double) : Int :=
  if x.exponentField = 0 then -1074 else (x.exponentField : Int) - 1075

/-- Two numbers in numeric order are equal: zeros of either sign are, nothing equals a
not-a-number. -/
def numericEq (x y : Double) : Bool :=
  !x.isNaN && !y.isNaN && (x == y || (x.isZero && y.isZero))

/-- A number from its sign and the bits of its magnitude. -/
def ofMagnitude (negative : Bool) (magnitude : Nat) : Double :=
  ⟨UInt64.ofNat (if negative then Nat.pow 2 63 + magnitude else magnitude)⟩

/-- The bits of infinity, above all finite magnitudes. -/
def infinityMagnitude : Nat := 2047 * Nat.pow 2 52

/-- The quotient rounded to the nearest whole number, a half to the even one. -/
def roundHalfEven (num den : Nat) : Nat :=
  let q := num / den
  let r := 2 * (num % den)
  if r < den then q else if den < r then q + 1 else q + q % 2

/-- `num / den` as a multiple of `2 ^ exponent`, rounded to nearest. -/
def scaledRound (num den : Nat) (exponent : Int) : Nat :=
  if exponent < 0 then roundHalfEven (num * Nat.pow 2 exponent.natAbs) den
  else roundHalfEven num (den * Nat.pow 2 exponent.natAbs)

/-- The exponent at which the significand of `num / den` has fifty-three bits, or the least
exponent there is. -/
def scaleOf (num den : Nat) : Int :=
  let e : Int := (num.log2 : Int) - (den.log2 : Int) - 52
  let tooSmall : Bool :=
    if e < 0 then num * Nat.pow 2 e.natAbs < Nat.pow 2 52 * den
    else num < Nat.pow 2 52 * den * Nat.pow 2 e.natAbs
  max (-1074) (if tooSmall then e - 1 else e)

/-- The double nearest to `num / den`, where `den` is positive; infinity if it is too large. -/
def ofRatio (negative : Bool) (num den : Nat) : Double :=
  if num = 0 then ofMagnitude negative 0
  else
    let e := scaleOf num den
    let magnitude := (e + 1074).toNat * Nat.pow 2 52 + scaledRound num den e
    ofMagnitude negative (min magnitude infinityMagnitude)

def ofInt (i : Int) : Double :=
  ofRatio (i < 0) i.natAbs 1

/-- The magnitude of a finite number as a fraction. -/
def toRatio (x : Double) : Nat × Nat :=
  if x.exponent < 0 then (x.significand, Nat.pow 2 x.exponent.natAbs)
  else (x.significand * Nat.pow 2 x.exponent.natAbs, 1)

def mul (x y : Double) : Double :=
  ofRatio (x.isNegative != y.isNegative) (x.toRatio.1 * y.toRatio.1) (x.toRatio.2 * y.toRatio.2)

def div (x y : Double) : Double :=
  ofRatio (x.isNegative != y.isNegative) (x.toRatio.1 * y.toRatio.2) (x.toRatio.2 * y.toRatio.1)

/-- The rounded sum of the magnitudes of two finite numbers. -/
def addMagnitudes (x y : Double) : Double :=
  ofRatio false (x.toRatio.1 * y.toRatio.2 + y.toRatio.1 * x.toRatio.2)
    (x.toRatio.2 * y.toRatio.2)

/-- The magnitude rounded to the nearest whole number, a half away from zero. -/
def roundMagnitude (x : Double) : Double :=
  ofRatio false ((2 * x.toRatio.1 + x.toRatio.2) / (2 * x.toRatio.2)) 1

def neg (x : Double) : Double :=
  ⟨x.bits ^^^ 0x8000000000000000⟩

/-- The number that a single-precision number widens to. Every such number has an exact double; a
not-a-number becomes quiet and keeps its payload. -/
def ofSingleBits (bits : UInt32) : Double :=
  let n := bits.toNat
  let negative := decide (Nat.pow 2 31 ≤ n)
  let e := n / Nat.pow 2 23 % Nat.pow 2 8
  let f := n % Nat.pow 2 23
  if e = 255 then
    let payload := if f = 0 then 0 else f * Nat.pow 2 29 % Nat.pow 2 51 + Nat.pow 2 51
    ofMagnitude negative (infinityMagnitude + payload)
  else if e = 0 then ofRatio negative f (Nat.pow 2 149)
  else ofRatio negative ((Nat.pow 2 23 + f) * Nat.pow 2 e) (Nat.pow 2 150)

@[simp] theorem ofRatio_zero (negative : Bool) (den : Nat) :
    ofRatio negative 0 den = ofMagnitude negative 0 := rfl

end Double

end TypedSql
