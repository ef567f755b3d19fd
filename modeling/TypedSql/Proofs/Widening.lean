import Mathlib.Algebra.Order.Field.Rat
import Mathlib.Tactic.NormNum
import TypedSql.Double.Basic

/-!
Single-precision numbers as doubles. Every number of single precision is one of double precision as
well, so widening does not round: the double stands for the same number, with the sign of a zero,
and infinities and what is not a number stay what they are.
-/

namespace TypedSql

/-- What a floating-point number stands for. A zero has a sign. -/
inductive Number where
  | finite (negative : Bool) (magnitude : ℚ)
  | infinite (negative : Bool)
  | notANumber

/-- The number of a sign, an exponent field and a fraction of `width` bits. The exponent field
`full` marks what is not finite, and the last bit of the smallest numbers counts `2 ^ least`. -/
def Number.ofFields (width full : Nat) (least : Int) (negative : Bool) (e f : Nat) : Number :=
  if e = full then if f = 0 then .infinite negative else .notANumber
  else if e = 0 then .finite negative (f * 2 ^ least)
  else .finite negative ((2 ^ width + f : Nat) * 2 ^ (least + e - 1))

namespace Double

def number (x : Double) : Number :=
  .ofFields 52 2047 (-1074) x.isNegative x.exponentField x.fractionField

/-- What the bits of a single-precision number stand for. -/
def singleNumber (bits : UInt32) : Number :=
  let n := bits.toNat
  .ofFields 23 255 (-149) (decide (2 ^ 31 ≤ n)) (n / 2 ^ 23 % 2 ^ 8) (n % 2 ^ 23)

variable {negative : Bool}

theorem number_ofMagnitude {e f : Nat} (he : e < 2 ^ 11) (hf : f < 2 ^ 52) :
    (ofMagnitude negative (e * 2 ^ 52 + f)).number = .ofFields 52 2047 (-1074) negative e f := by
  have bits : (ofMagnitude negative (e * 2 ^ 52 + f)).bits.toNat =
      if negative then 2 ^ 63 + (e * 2 ^ 52 + f) else e * 2 ^ 52 + f := by
    rw [ofMagnitude, UInt64.toNat_ofNat']
    cases negative <;> exact Nat.mod_eq_of_lt (by simp; omega)
  have sign : (ofMagnitude negative (e * 2 ^ 52 + f)).isNegative = negative := by
    rw [isNegative, bits]
    cases negative <;> simp
    omega
  have exponentField : (ofMagnitude negative (e * 2 ^ 52 + f)).exponentField = e := by
    rw [exponentField, bits]
    cases negative <;> simp <;> omega
  have fractionField : (ofMagnitude negative (e * 2 ^ 52 + f)).fractionField = f := by
    rw [fractionField, bits]
    cases negative <;> simp <;> omega
  rw [number, sign, exponentField, fractionField]

/-! ### Exact ratios -/

section Ratios

variable {n j d : Nat}

theorem roundHalfEven_mul {a den : Nat} (h : 0 < den) : roundHalfEven (a * den) den = a := by
  rw [roundHalfEven]
  simp [Nat.mul_div_cancel a h, h]

theorem log2_mul_two_pow (hn : 0 < n) : (n * 2 ^ j).log2 = n.log2 + j := by
  rw [Nat.log2_eq_iff (Nat.mul_pos hn (Nat.two_pow_pos j)).ne']
  constructor
  · rw [Nat.pow_add]
    exact Nat.mul_le_mul_right _ (Nat.log2_self_le hn.ne')
  · rw [Nat.add_right_comm, Nat.pow_add]
    exact Nat.mul_lt_mul_of_pos_right Nat.lt_log2_self (Nat.two_pow_pos j)

/-- The exponent at which a number times a power of two has fifty-three bits. -/
def exactExponent (n j d : Nat) : Int :=
  (n.log2 : Int) + j - d - 52

theorem scaleOf_two_pow (hn : 0 < n) (low : -1074 ≤ exactExponent n j d) :
    scaleOf (n * 2 ^ j) (2 ^ d) = exactExponent n j d := by
  have least := Nat.mul_le_mul_right (2 ^ j) (Nat.log2_self_le hn.ne')
  have exponent : (((n * 2 ^ j).log2 : Nat) : Int) - ((2 ^ d).log2 : Nat) - 52 =
      exactExponent n j d := by
    rw [log2_mul_two_pow hn, Nat.log2_two_pow, exactExponent, Int.natCast_add]
  have large : ¬ if exactExponent n j d < 0 then
      n * 2 ^ j * 2 ^ (exactExponent n j d).natAbs < 2 ^ 52 * 2 ^ d
      else n * 2 ^ j < 2 ^ 52 * 2 ^ d * 2 ^ (exactExponent n j d).natAbs := by
    unfold exactExponent
    split
    · rw [Nat.not_lt]
      refine le_trans (Nat.le_of_eq ?_) (Nat.mul_le_mul_right _ least)
      rw [← Nat.pow_add, ← Nat.pow_add, ← Nat.pow_add]
      congr 1
      omega
    · rw [Nat.not_lt]
      refine le_trans (Nat.le_of_eq ?_) least
      rw [← Nat.pow_add, ← Nat.pow_add, ← Nat.pow_add]
      congr 1
      omega
  rw [scaleOf, exponent]
  simp only [Nat.pow_eq]
  split at large
  · next negative =>
    simp only [if_pos negative, large, decide_false]
    exact max_eq_right low
  · next negative =>
    simp only [if_neg negative, large, decide_false]
    exact max_eq_right low

theorem scaledRound_two_pow (short : n.log2 ≤ 52) :
    scaledRound (n * 2 ^ j) (2 ^ d) (exactExponent n j d) = n * 2 ^ (52 - n.log2) := by
  unfold scaledRound exactExponent
  simp only [Nat.pow_eq]
  split
  · next negative =>
    have product : n * 2 ^ j * 2 ^ ((n.log2 : Int) + j - d - 52).natAbs =
        n * 2 ^ (52 - n.log2) * 2 ^ d := by
      rw [Nat.mul_assoc, ← Nat.pow_add, Nat.mul_assoc, ← Nat.pow_add]
      congr 2
      omega
    rw [product, roundHalfEven_mul (Nat.two_pow_pos d)]
  · next negative =>
    have product : n * 2 ^ j =
        n * 2 ^ (52 - n.log2) * (2 ^ d * 2 ^ ((n.log2 : Int) + j - d - 52).natAbs) := by
      rw [← Nat.pow_add, Nat.mul_assoc, ← Nat.pow_add]
      congr 2
      omega
    rw [product, roundHalfEven_mul (Nat.mul_pos (Nat.two_pow_pos d) (Nat.two_pow_pos _))]

/-- A short number times a power of two is the double of that number. -/
theorem number_ofRatio (hn : 0 < n) (short : n.log2 ≤ 52) (low : -1074 ≤ exactExponent n j d)
    (high : exactExponent n j d ≤ 971) : (ofRatio negative (n * 2 ^ j) (2 ^ d)).number =
      .finite negative (n * 2 ^ ((j : Int) - d)) := by
  obtain ⟨f, hf, significand⟩ : ∃ f < 2 ^ 52, n * 2 ^ (52 - n.log2) = 2 ^ 52 + f := by
    have least := Nat.mul_le_mul_right (2 ^ (52 - n.log2)) (Nat.log2_self_le hn.ne')
    have most := Nat.mul_lt_mul_of_pos_right (Nat.lt_log2_self (n := n))
      (Nat.two_pow_pos (52 - n.log2))
    rw [← Nat.pow_add, Nat.add_sub_cancel' short] at least
    rw [← Nat.pow_add, show n.log2 + 1 + (52 - n.log2) = 53 by omega] at most
    exact ⟨n * 2 ^ (52 - n.log2) - 2 ^ 52, by omega, by omega⟩
  obtain ⟨e, he⟩ : ∃ e : Nat, (e : Int) = exactExponent n j d + 1075 :=
    ⟨(exactExponent n j d + 1075).toNat, by omega⟩
  have magnitude : (exactExponent n j d + 1074).toNat * Nat.pow 2 52 + n * 2 ^ (52 - n.log2) =
      e * 2 ^ 52 + f := by
    rw [significand, show (exactExponent n j d + 1074).toNat = e - 1 by omega]
    simp only [Nat.pow_eq]
    omega
  have finite : e * 2 ^ 52 + f ≤ infinityMagnitude := by
    simp only [infinityMagnitude, Nat.pow_eq]
    omega
  rw [ofRatio, if_neg (Nat.mul_pos hn (Nat.two_pow_pos j)).ne', scaleOf_two_pow hn low]
  dsimp only
  rw [scaledRound_two_pow short, magnitude, Nat.min_eq_left finite,
    number_ofMagnitude (by omega) hf, Number.ofFields, if_neg (by omega), if_neg (by omega),
    ← significand]
  congr 1
  rw [Nat.cast_mul, Nat.cast_pow, Nat.cast_ofNat, mul_assoc, ← zpow_natCast,
    ← zpow_add₀ (by norm_num)]
  congr 2
  unfold exactExponent at he
  omega

end Ratios

/-- A single-precision number and the double that it widens to stand for the same. -/
theorem number_ofSingleBits (bits : UInt32) : (ofSingleBits bits).number = singleNumber bits := by
  unfold ofSingleBits singleNumber
  simp only [Nat.pow_eq]
  have fraction : bits.toNat % 2 ^ 23 < 2 ^ 23 := Nat.mod_lt _ (by decide)
  have exponent : bits.toNat / 2 ^ 23 % 2 ^ 8 < 2 ^ 8 := Nat.mod_lt _ (by decide)
  generalize decide (2 ^ 31 ≤ bits.toNat) = negative
  generalize bits.toNat % 2 ^ 23 = f at fraction ⊢
  generalize bits.toNat / 2 ^ 23 % 2 ^ 8 = e at exponent ⊢
  by_cases special : e = 255
  · rw [if_pos special, Number.ofFields, if_pos special]
    by_cases infinite : f = 0
    · rw [if_pos infinite, if_pos infinite]
      exact number_ofMagnitude (e := 2047) (f := 0) (by decide) (by decide)
    · rw [if_neg infinite, if_neg infinite]
      have payload : f * 2 ^ 29 % 2 ^ 51 + 2 ^ 51 < 2 ^ 52 := by omega
      refine (number_ofMagnitude (e := 2047) (by decide) payload).trans ?_
      rw [Number.ofFields, if_pos rfl, if_neg (by omega)]
  rw [if_neg special, Number.ofFields, if_neg special]
  by_cases subnormal : e = 0
  · rw [if_pos subnormal, if_pos subnormal]
    by_cases zero : f = 0
    · rw [zero, ofRatio_zero]
      refine (number_ofMagnitude (e := 0) (f := 0) (by decide) (by decide)).trans ?_
      simp [Number.ofFields]
    · have short : f.log2 < 23 := (Nat.log2_lt zero).mpr fraction
      have widened : (ofRatio negative (f * 2 ^ 0) (2 ^ 149)).number = _ :=
        number_ofRatio (by omega) (by omega) (by unfold exactExponent; omega)
          (by unfold exactExponent; omega)
      rw [pow_zero, Nat.mul_one] at widened
      exact widened
  · rw [if_neg subnormal, if_neg subnormal]
    have short : (2 ^ 23 + f).log2 = 23 := (Nat.log2_eq_iff (by omega)).mpr (by omega)
    rw [number_ofRatio (by omega) (by omega) (by unfold exactExponent; omega)
      (by unfold exactExponent; omega)]
    congr 3
    omega

end Double

end TypedSql
