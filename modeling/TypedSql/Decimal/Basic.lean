import TypedSql.Double.Basic
import TypedSql.Text.Numeral

/-!
Decimal numbers with a scale: a whole number of tenths, hundredths and so on. The scale is part of
the text of a number and no part of its value, so `1.0` and `1.00` are equal and written
differently.
-/

namespace TypedSql

/-- Two to the 96th, which is above all magnitudes. -/
def Decimal.limit : Nat := 79228162514264337593543950336

/-- The number `magnitude / 10 ^ scale` with its sign. A zero may have a sign too, which is written
and does not count. -/
structure Decimal where
  negative : Bool
  magnitude : Nat
  scale : Nat
  magnitude_lt : magnitude < Decimal.limit := by decide
  scale_le : scale ≤ 28 := by decide
  deriving DecidableEq

namespace Decimal

open Text

instance : Inhabited Decimal := ⟨{ negative := false, magnitude := 0, scale := 0 }⟩

instance : Repr Decimal := ⟨fun d _ => repr (d.negative, d.magnitude, d.scale)⟩

/-- The signed numerator: the number is `mantissa / 10 ^ scale`. -/
def mantissa (d : Decimal) : Int :=
  if d.negative then -(d.magnitude : Int) else d.magnitude

/-- The number with the given sign and parts, if they are in range. -/
def ofSigned? (negative : Bool) (magnitude scale : Nat) : Option Decimal :=
  if h : magnitude < limit ∧ scale ≤ 28 then some ⟨negative, magnitude, scale, h.1, h.2⟩
  else none

/-- The number with the given parts, if they are in range. A zero has no sign. -/
def ofParts? (mantissa : Int) (scale : Nat) : Option Decimal :=
  ofSigned? (mantissa < 0) mantissa.natAbs scale

/-- A 64-bit number, with scale zero. -/
def ofInt64 (n : Int64) : Decimal :=
  ⟨n.toInt < 0, n.toInt.natAbs, 0, by
    have h₁ := n.toInt_lt
    have h₂ := n.le_toInt
    unfold limit
    omega, by decide⟩

/-- A magnitude brought from one scale to another. Digits that are dropped round it, a half away
from zero. -/
def toScale (magnitude scale wanted : Nat) : Nat :=
  if scale ≤ wanted then magnitude * Nat.pow 10 (wanted - scale)
  else (magnitude + Nat.pow 10 (scale - wanted) / 2) / Nat.pow 10 (scale - wanted)

/-- The text of a number: exactly as many digits behind the point as the scale says, and at least
one before it. -/
def toText (d : Decimal) : List Char :=
  let ds := padded (d.scale + 1) d.magnitude
  let whole := ds.length - d.scale
  let body := if d.scale = 0 then ds else ds.take whole ++ '.' :: ds.drop whole
  if d.negative then '-' :: body else body

def numericEq (a b : Decimal) : Bool :=
  a.mantissa * Nat.pow 10 b.scale == b.mantissa * Nat.pow 10 a.scale

/-- The mantissa and scale with as few digits behind the point as possible, found by at most
`steps` divisions by ten. -/
def reduce : Nat → Int → Nat → Int × Nat
  | steps + 1, m, scale + 1 => if m % 10 = 0 then reduce steps (m / 10) scale else (m, scale + 1)
  | _, m, scale => (m, scale)

/-- What decides equality: the mantissa and scale of the number in its shortest form. -/
def key (d : Decimal) : Int × Nat :=
  if d.mantissa = 0 then (0, 0) else reduce d.scale d.mantissa d.scale

/-- The power of a double by repeated squaring, each product rounded. -/
def power (base acc : Double) (n : Nat) : Double :=
  let acc' := if n % 2 = 1 then acc.mul base else acc
  if n / 2 = 0 then acc' else power (base.mul base) acc' (n / 2)
termination_by n

/-- A double near the number: the whole part and the fraction are converted on their own and
added, and the sum is rounded to the scale. A zero keeps its sign if it has digits behind the
point. -/
def toDouble (d : Decimal) : Double :=
  let n := d.magnitude
  let x :=
    if d.scale = 0 then Double.ofRatio false n 1
    else
      let one := Nat.pow 10 d.scale
      let whole := Double.ofRatio false (n / one) 1
      let rest := n % one
      if rest = 0 then whole
      else
        let unit := Double.ofRatio false one 1
        let value := whole.addMagnitudes ((Double.ofRatio false rest 1).div unit)
        let factor := power (Double.ofInt 10) (Double.ofInt 1) d.scale
        (value.mul factor).roundMagnitude.div factor
  if d.negative && (n != 0 || d.scale != 0) then x.neg else x

@[simp] theorem ofInt64_mantissa (n : Int64) : (ofInt64 n).mantissa = n.toInt := by
  simp only [ofInt64, mantissa, decide_eq_true_eq]
  split <;> omega

@[simp] theorem ofInt64_scale (n : Int64) : (ofInt64 n).scale = 0 := rfl

theorem ofSigned?_eq_some {negative : Bool} {m s : Nat} {d : Decimal} :
    ofSigned? negative m s = some d ↔ d.negative = negative ∧ d.magnitude = m ∧ d.scale = s := by
  unfold ofSigned?
  split
  · constructor
    · intro h; cases h; exact ⟨rfl, rfl, rfl⟩
    · rintro ⟨rfl, rfl, rfl⟩; rfl
  · rename_i h
    constructor
    · intro h'; cases h'
    · rintro ⟨rfl, rfl, rfl⟩; exact absurd ⟨d.magnitude_lt, d.scale_le⟩ h

theorem parts_of_ofParts? {m : Int} {s : Nat} {d : Decimal} (h : ofParts? m s = some d) :
    d.mantissa = m ∧ d.scale = s := by
  obtain ⟨hn, hm, hs⟩ := ofSigned?_eq_some.1 h
  refine ⟨?_, hs⟩
  simp only [mantissa, hn, hm, decide_eq_true_eq]
  split <;> omega

end Decimal

end TypedSql
