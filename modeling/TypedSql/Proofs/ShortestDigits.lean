import Mathlib.Algebra.Order.Floor.Semifield
import Mathlib.Data.Rat.Floor
import Mathlib.Tactic.Linarith
import Mathlib.Tactic.NormNum
import Mathlib.Tactic.Positivity
import TypedSql.Double.Shortest
import TypedSql.Proofs.DigitRuns

/-!
How many digits the shortest decimal of a double has: at least one that is not zero, unless the
double is zero, and never more than eighteen.
-/

namespace TypedSql.Double

open Text

/-! ### Magnitude -/

/-- The magnitude is the power of ten at or next below the quotient. -/
theorem decimalMagnitude_spec {num den : Nat} (hn : 0 < num) (hd : 0 < den) :
    (10 : ℚ) ^ decimalMagnitude num den ≤ num / den ∧
      (num / den : ℚ) < 10 ^ (decimalMagnitude num den + 1) := by
  have hdq : (0 : ℚ) < den := Nat.cast_pos.mpr hd
  have hnq : (0 : ℚ) < num := Nat.cast_pos.mpr hn
  unfold decimalMagnitude
  split
  · next h =>
    obtain ⟨low, high⟩ := length_digits_spec (Nat.div_pos h hd)
    have positive : 0 < (digits (num / den)).length := Nat.length_toDigits_pos
    obtain ⟨k, hk⟩ : ∃ k, (digits (num / den)).length = k + 1 :=
      ⟨(digits (num / den)).length - 1, by omega⟩
    rw [hk] at low high ⊢
    have least : 10 ^ k * den ≤ num := (Nat.le_div_iff_mul_le hd).mp low
    have most : num < 10 ^ (k + 1) * den := (Nat.div_lt_iff_lt_mul hd).mp high
    rw [show ((k + 1 : Nat) : Int) - 1 = (k : Int) by omega,
      show ((k : Int) + 1) = ((k + 1 : Nat) : Int) by omega, zpow_natCast, zpow_natCast,
      le_div_iff₀ hdq, div_lt_iff₀ hdq]
    exact ⟨by exact_mod_cast least, by exact_mod_cast most⟩
  · next h =>
    generalize hq : (den + num - 1) / num - 1 = q
    have ceiling : (q + 1) * num ≤ den + num - 1 ∧ den + num - 1 < (q + 2) * num := by
      have two : 2 ≤ (den + num - 1) / num := (Nat.le_div_iff_mul_le hn).mpr (by omega)
      have hq' : (den + num - 1) / num = q + 1 := by omega
      exact ⟨(Nat.le_div_iff_mul_le hn).mp hq'.ge, (Nat.div_lt_iff_lt_mul hn).mp (by omega)⟩
    rw [Nat.add_mul, Nat.add_mul] at ceiling
    have below : q * num < den := by omega
    have above : den ≤ (q + 1) * num := by
      rw [Nat.add_mul]
      omega
    have hq0 : 0 < q := by
      refine Nat.pos_of_ne_zero fun h0 => ?_
      rw [h0] at above
      omega
    obtain ⟨low, high⟩ := length_digits_spec hq0
    obtain ⟨k, hk⟩ : ∃ k, (digits q).length = k + 1 :=
      ⟨(digits q).length - 1, by have : 0 < (digits q).length := Nat.length_toDigits_pos; omega⟩
    rw [hk] at low high ⊢
    have least : 10 ^ k * num < den := Nat.lt_of_le_of_lt (Nat.mul_le_mul_right num low) below
    have most : den ≤ 10 ^ (k + 1) * num := Nat.le_trans above (Nat.mul_le_mul_right num high)
    rw [show -((k + 1 : Nat) : Int) + 1 = -(k : Int) by omega, zpow_neg, zpow_neg, zpow_natCast,
      zpow_natCast, le_div_iff₀ hdq, div_lt_iff₀ hdq, inv_mul_le_iff₀ (by positivity),
      lt_inv_mul_iff₀ (by positivity)]
    exact ⟨by exact_mod_cast most, by exact_mod_cast least⟩

/-! ### Grid -/

namespace Interval

variable (i : Interval)

/-- The number that the interval is about. -/
def quotient : ℚ := i.value / i.den

theorem gridBelow_spec (exponent : Int) :
    (i.gridBelow exponent : ℚ) ≤ i.quotient / 10 ^ exponent ∧
      i.quotient / 10 ^ exponent < i.gridBelow exponent + 1 := by
  have power : ∀ n, ((Nat.pow 10 n : Nat) : ℚ) = 10 ^ n := fun n => by
    rw [Nat.pow_eq, Nat.cast_pow, Nat.cast_ofNat]
  have floor : (i.gridBelow exponent) = ⌊i.quotient / 10 ^ exponent⌋₊ := by
    rw [gridBelow, quotient]
    split
    · next h =>
      obtain ⟨n, rfl⟩ : ∃ n : Nat, exponent = -n := ⟨exponent.natAbs, by omega⟩
      rw [← Nat.floor_div_eq_div (K := ℚ), Nat.cast_mul, Int.natAbs_neg, Int.natAbs_natCast, power,
        zpow_neg, zpow_natCast, div_inv_eq_mul, div_mul_eq_mul_div]
    · next h =>
      obtain ⟨n, rfl⟩ : ∃ n : Nat, exponent = n := ⟨exponent.natAbs, by omega⟩
      rw [← Nat.floor_div_eq_div (K := ℚ), Nat.cast_mul, Int.natAbs_natCast, power, zpow_natCast,
        div_div]
  rw [floor]
  refine ⟨Nat.floor_le ?_, Nat.lt_floor_add_one _⟩
  exact div_nonneg (div_nonneg (Nat.cast_nonneg _) (Nat.cast_nonneg _))
    (zpow_nonneg (by norm_num) _)

/-- A number between two powers of ten has so many digits on a grid. -/
theorem gridBelow_bounds {magnitude : Int} (exponent : Int) (width : Nat)
    (hl : (10 : ℚ) ^ magnitude ≤ i.quotient) (hu : i.quotient < 10 ^ (magnitude + 1))
    (he : exponent ≤ magnitude) (hw : magnitude + 1 ≤ exponent + width) :
    0 < i.gridBelow exponent ∧ i.gridBelow exponent < 10 ^ width := by
  obtain ⟨below, above⟩ := i.gridBelow_spec exponent
  have power : (0 : ℚ) < 10 ^ exponent := zpow_pos (by norm_num) _
  constructor
  · have : (1 : ℚ) ≤ i.quotient / 10 ^ exponent := by
      rw [le_div_iff₀ power, one_mul]
      exact (zpow_le_zpow_right₀ (by norm_num) he).trans hl
    have : (0 : ℚ) < i.gridBelow exponent := by linarith
    exact_mod_cast this
  · have : i.quotient / 10 ^ exponent < 10 ^ width := by
      rw [div_lt_iff₀ power, ← zpow_natCast, ← zpow_add₀ (by norm_num)]
      exact hu.trans_le (zpow_le_zpow_right₀ (by norm_num) (by omega))
    have : (i.gridBelow exponent : ℚ) < 10 ^ width := below.trans_lt this
    exact_mod_cast this

theorem onGrid?_cases {tie : Tie} {exponent : Int} {d : Nat}
    (h : i.onGrid? tie exponent = some d) :
    d = i.gridBelow exponent ∨ d = i.gridBelow exponent + 1 := by
  unfold onGrid? at h
  dsimp only at h
  split at h
  · split at h <;> cases h <;> omega
  · exact .inl (Option.some.inj h).symm
  · exact .inr (Option.some.inj h).symm
  · cases h

end Interval

/-- Dropping zeros leaves a number that is not zero and not larger. -/
theorem Scientific.normalize_bounds {steps bound : Nat} {s : Scientific} (hp : 0 < s.digits)
    (hb : s.digits < bound) :
    0 < (normalize steps s).digits ∧ (normalize steps s).digits < bound := by
  induction steps generalizing s with
  | zero => exact ⟨hp, hb⟩
  | succ steps ih =>
    rw [normalize]
    split
    · exact ih (show 0 < s.digits / 10 by omega) (show s.digits / 10 < bound by omega)
    · exact ⟨hp, hb⟩

theorem Interval.search_bounds {i : Interval} {magnitude : Int}
    (hl : (10 : ℚ) ^ magnitude ≤ i.quotient) (hu : i.quotient < 10 ^ (magnitude + 1)) (tie : Tie)
    {steps : Nat} (hs : steps ≤ 17) :
    0 < (i.search tie magnitude steps).digits ∧
      (i.search tie magnitude steps).digits < 10 ^ 18 := by
  induction steps with
  | zero => exact i.gridBelow_bounds _ 18 hl hu (by omega) (by omega)
  | succ steps ih =>
    rw [search]
    split
    · next d hd =>
      obtain ⟨low, high⟩ := i.gridBelow_bounds (magnitude - (17 - (steps + 1) : Nat)) 17 hl hu
        (by omega) (by omega)
      have digits : 0 < d ∧ d < 10 ^ 18 := by
        rcases i.onGrid?_cases hd with rfl | rfl <;> omega
      exact Scientific.normalize_bounds digits.1 digits.2
    · exact ih (by omega)

theorem significand_pos {x : Double} (hx : x.isZero = false) : 0 < x.significand := by
  simp only [isZero, Bool.and_eq_false_iff, beq_eq_false_iff_ne] at hx
  unfold significand
  split
  · omega
  · exact Nat.add_pos_left (Nat.pow_pos (by decide)) _

/-- The shortest decimal of a double other than zero has at most eighteen digits and is not
zero. -/
theorem shortest_bounds (tie : Tie) {x : Double} (hx : x.isZero = false) :
    0 < (x.shortest tie).digits ∧ (x.shortest tie).digits < 10 ^ 18 := by
  have power : 0 < Nat.pow 2 x.exponent.natAbs := Nat.pow_pos (by decide)
  have value : 0 < x.roundingInterval.value := by
    have four := Nat.mul_pos (show 0 < 4 by decide) (significand_pos hx)
    unfold roundingInterval
    dsimp only
    split
    · exact four
    · exact Nat.mul_pos four power
  have den : 0 < x.roundingInterval.den := by
    unfold roundingInterval
    dsimp only
    split
    · exact Nat.mul_pos (by decide) power
    · decide
  obtain ⟨least, most⟩ := decimalMagnitude_spec value den
  rw [shortest, if_neg (by simp [hx])]
  exact Interval.search_bounds least most tie (by decide)

end TypedSql.Double
