import Mathlib.Algebra.Ring.Int.Defs
import TypedSql.Proofs.Tuples

/-!
Integers of 16, 32 and 64 bits as fetched values. What decides how a value is read as one of them is
the integer that it holds, and not how many bits it holds it in: the value is read if and only if
the integer is in range, and then as the same integer. So a value that is read as one type can be
stored and read again as any other with the same outcome.
-/

namespace TypedSql

/-! ### Types of integers -/

/-- The types of integers, by their width. -/
inductive IntegerType where
  | smallInt
  | int
  | bigInt
  deriving DecidableEq, Repr

namespace IntegerType

variable {t : IntegerType} {i : Int}

def type : IntegerType → SqlType
  | smallInt => .smallInt
  | int => .int
  | bigInt => .bigInt

def bits : IntegerType → Nat
  | smallInt => 16
  | int => 32
  | bigInt => 64

/-- The integer that a scalar of the type is. -/
def toInt : (t : IntegerType) → t.type.Scalar → Int
  | smallInt => Int16.toInt
  | int => Int32.toInt
  | bigInt => Int64.toInt

/-- The scalar that an integer is, if it is in range. -/
def ofInt : (t : IntegerType) → Int → t.type.Scalar
  | smallInt => Int16.ofInt
  | int => Int32.ofInt
  | bigInt => Int64.ofInt

/-- Whether an integer has as many bits as the type, one of them for its sign. -/
def InRange (t : IntegerType) (i : Int) : Prop :=
  -2 ^ (t.bits - 1) ≤ i ∧ i < 2 ^ (t.bits - 1)

theorem toInt_ofInt (h : t.InRange i) : t.toInt (t.ofInt i) = i := by
  cases t with
  | smallInt => exact Int16.toInt_ofInt_of_le h.1 h.2
  | int => exact Int32.toInt_ofInt_of_le h.1 h.2
  | bigInt => exact Int64.toInt_ofInt_of_le h.1 h.2

theorem ofInt_toInt (x : t.type.Scalar) : t.ofInt (t.toInt x) = x := by
  cases t with
  | smallInt => exact Int16.ofInt_toInt x
  | int => exact Int32.ofInt_toInt x
  | bigInt => exact Int64.ofInt_toInt x

theorem inRange_toInt (x : t.type.Scalar) : t.InRange (t.toInt x) := by
  cases t with
  | smallInt => exact ⟨Int16.le_toInt x, Int16.toInt_lt x⟩
  | int => exact ⟨Int32.le_toInt x, Int32.toInt_lt x⟩
  | bigInt => exact ⟨Int64.le_toInt x, Int64.toInt_lt x⟩

theorem InRange.widen {wide : IntegerType} (h : t.InRange i) (wider : t.bits ≤ wide.bits) :
    wide.InRange i := by
  have more : (2 : Int) ^ (t.bits - 1) ≤ 2 ^ (wide.bits - 1) := by
    exact_mod_cast Nat.pow_le_pow_right (by decide) (Nat.sub_le_sub_right wider 1)
  exact ⟨Int.le_trans (Int.neg_le_neg more) h.1, Int.lt_of_lt_of_le h.2 more⟩

end IntegerType

/-! ### Values that hold integers -/

namespace Value

variable {t : IntegerType} {v w : Value} {i : Int}

/-- The integer that a value holds, in as many bits as its tag says. -/
inductive HoldsInteger : Value → Int → Prop
  | smallInt (n : Int16) : HoldsInteger (smallInt n) n.toInt
  | int (n : Int32) : HoldsInteger (int n) n.toInt
  | bigInt (n : Int64) : HoldsInteger (bigInt n) n.toInt

/-- Why a value is not read as an integer of a type: it holds an integer out of range, it is `NULL`,
or it is something else. -/
inductive Misfits (t : IntegerType) : Value → DecodeFault → Prop
  | outOfRange {v : Value} {i : Int} : v.HoldsInteger i → ¬ t.InRange i →
      Misfits t v (.outOfRange v.literal t.type)
  | null : Misfits t null (.unexpectedNull t.type)
  | wrongType {v : Value} : v ≠ null → (∀ i, ¬ v.HoldsInteger i) →
      Misfits t v (.wrongType t.type v.type)

theorem integer?_eq_some_iff : v.integer? = some i ↔ v.HoldsInteger i := by
  constructor
  · intro h
    cases v with
    | smallInt n => exact Option.some.inj h ▸ .smallInt n
    | int n => exact Option.some.inj h ▸ .int n
    | bigInt n => exact Option.some.inj h ▸ .bigInt n
    | _ => cases h
  · rintro (_ | _ | _) <;> rfl

theorem integer?_eq_none_iff : v.integer? = none ↔ ∀ i, ¬ v.HoldsInteger i := by
  simp only [Option.eq_none_iff_forall_ne_some, ne_eq, integer?_eq_some_iff]

theorem holdsInteger_ofScalar (x : t.type.Scalar) :
    (ofScalar t.type x).HoldsInteger (t.toInt x) := by
  cases t with
  | smallInt => exact .smallInt x
  | int => exact .int x
  | bigInt => exact .bigInt x

/-- Integers are written alike in any width. -/
theorem HoldsInteger.literal_eq (hv : v.HoldsInteger i) (hw : w.HoldsInteger i) :
    v.literal = w.literal := by
  have digits : ∀ {u : Value}, u.HoldsInteger i → u.literalText = Text.signedDigits i := by
    rintro _ (_ | _ | _) <;> rfl
  rw [literal, literal, digits hv, digits hw]

/-! ### Reading -/

theorem decodeScalar_eq (t : IntegerType) (v : Value) : v.decodeScalar t.type =
    (decodeInteger t.type (-2 ^ (t.bits - 1)) (2 ^ (t.bits - 1) - 1) v).map t.ofInt := by
  cases t <;> rfl

theorem decodeScalar_of_inRange (holds : v.HoldsInteger i) (h : t.InRange i) :
    v.decodeScalar t.type = .ok (t.ofInt i) := by
  rw [decodeScalar_eq]
  exact map_decodeInteger (integer?_eq_some_iff.mpr holds) h.1 (Int.le_sub_one_of_lt h.2)

theorem decodeScalar_of_misfits {fault : DecodeFault} (h : v.Misfits t fault) :
    v.decodeScalar t.type = .error fault := by
  rw [decodeScalar_eq, decodeInteger]
  cases h with
  | outOfRange holds outside =>
    rw [integer?_eq_some_iff.mpr holds]
    dsimp only
    rw [if_neg fun h => outside ⟨h.1, Int.lt_of_le_sub_one h.2⟩]
    rfl
  | null => rfl
  | wrongType nonnull none =>
    have tagged : ¬ v.isNull = true := fun h => nonnull (v.isNull_iff.mp h)
    rw [integer?_eq_none_iff.mpr none]
    dsimp only
    rw [mismatch, if_neg tagged]
    rfl

theorem fits_or_misfits (t : IntegerType) (v : Value) :
    (∃ i, v.HoldsInteger i ∧ t.InRange i) ∨ ∃ fault, v.Misfits t fault := by
  by_cases holds : ∃ i, v.HoldsInteger i
  · obtain ⟨i, holds⟩ := holds
    by_cases h : t.InRange i
    · exact .inl ⟨i, holds, h⟩
    · exact .inr ⟨_, .outOfRange holds h⟩
  · by_cases h : v = null
    · subst h
      exact .inr ⟨_, .null⟩
    · exact .inr ⟨_, .wrongType h (not_exists.mp holds)⟩

theorem decodeScalar_eq_ok_iff {x : t.type.Scalar} :
    v.decodeScalar t.type = .ok x ↔ v.HoldsInteger (t.toInt x) := by
  constructor
  · intro h
    obtain ⟨i, holds, inRange⟩ | ⟨fault, misfits⟩ := fits_or_misfits t v
    · rw [decodeScalar_of_inRange holds inRange] at h
      rwa [← Except.ok.inj h, IntegerType.toInt_ofInt inRange]
    · rw [decodeScalar_of_misfits misfits] at h
      cases h
  · intro holds
    rw [decodeScalar_of_inRange holds (IntegerType.inRange_toInt x), IntegerType.ofInt_toInt]

theorem decodeScalar_eq_error_iff {fault : DecodeFault} :
    v.decodeScalar t.type = .error fault ↔ v.Misfits t fault := by
  refine ⟨fun h => ?_, decodeScalar_of_misfits⟩
  obtain ⟨i, holds, inRange⟩ | ⟨fault', misfits⟩ := fits_or_misfits t v
  · rw [decodeScalar_of_inRange holds inRange] at h
    cases h
  · rw [decodeScalar_of_misfits misfits] at h
    exact Except.error.inj h ▸ misfits

/-- Values that hold the same integer are read alike. -/
theorem HoldsInteger.decodeScalar_eq (hv : v.HoldsInteger i) (hw : w.HoldsInteger i) :
    v.decodeScalar t.type = w.decodeScalar t.type := by
  rw [Value.decodeScalar_eq, Value.decodeScalar_eq, decodeInteger, decodeInteger,
    integer?_eq_some_iff.mpr hv, integer?_eq_some_iff.mpr hw, hv.literal_eq hw]

theorem HoldsInteger.decodeScalar_decimal (h : v.HoldsInteger i) :
    ∃ d : Decimal, v.decodeScalar .decimal = .ok d ∧ d.mantissa = i ∧ d.scale = 0 := by
  cases h with
  | smallInt n =>
    exact ⟨_, rfl, (Decimal.ofInt64_mantissa _).trans n.toInt_toInt64, Decimal.ofInt64_scale _⟩
  | int n =>
    exact ⟨_, rfl, (Decimal.ofInt64_mantissa _).trans n.toInt_toInt64, Decimal.ofInt64_scale _⟩
  | bigInt n => exact ⟨_, rfl, Decimal.ofInt64_mantissa n, Decimal.ofInt64_scale n⟩

/-! ### A value by itself -/

theorem decode_required_eq_ok_iff {type : SqlType} : v.decode (.required type) = .ok w ↔
    ∃ x, v.decodeScalar type = .ok x ∧ w = .ofScalar type x :=
  mapError_eq_ok_iff.trans map_eq_ok_iff

theorem decode_required_eq_error_iff {type : SqlType} {e : SqlError} :
    v.decode (.required type) = .error e ↔
      ∃ fault, v.decodeScalar type = .error fault ∧ e = .decode "?" fault := by
  refine mapError_eq_error_iff.trans (exists_congr fun fault => and_congr_left fun _ => ?_)
  exact map_eq_error_iff

theorem decode_integer_eq_ok_iff : v.decode (.required t.type) = .ok w ↔
    ∃ x, v.HoldsInteger (t.toInt x) ∧ w = .ofScalar t.type x := by
  simp only [decode_required_eq_ok_iff, decodeScalar_eq_ok_iff]

theorem ofScalar_injective (type : SqlType) : Function.Injective (ofScalar type) := by
  intro x y h
  have back := decodeScalar_ofScalar type x
  rw [h, decodeScalar_ofScalar] at back
  exact (Except.ok.inj back).symm

theorem decode_eq_ofScalar_iff {x : t.type.Scalar} :
    v.decode (.required t.type) = .ok (.ofScalar t.type x) ↔ v.HoldsInteger (t.toInt x) := by
  rw [decode_integer_eq_ok_iff]
  refine ⟨?_, fun holds => ⟨x, holds, rfl⟩⟩
  rintro ⟨y, holds, h⟩
  rwa [ofScalar_injective _ h]

theorem HoldsInteger.decode_eq (hv : v.HoldsInteger i) (hw : w.HoldsInteger i) :
    v.decode (.required t.type) = w.decode (.required t.type) := by
  show ((v.decodeScalar t.type).map _).mapError _ = ((w.decodeScalar t.type).map _).mapError _
  rw [hv.decodeScalar_eq hw]

end Value

/-- A value is read as a type of integers if and only if it holds an integer that is in range, and
then as that integer; the error of any other value says why it is none. So a wider type reads the
integer that a narrower one reads, and a value that was read as one type, stored as that type and
read as another gives what it gives when it is read as the other at once. As a decimal an integer is
itself, with scale zero. -/
theorem integers_of_decode (v : Value) :
    (∀ (t : IntegerType) (i : Int),
      (∃ x, v.decode (.required t.type) = .ok (.ofScalar t.type x) ∧ t.toInt x = i) ↔
        v.HoldsInteger i ∧ t.InRange i) ∧
    (∀ (t : IntegerType) (e : SqlError), v.decode (.required t.type) = .error e ↔
      ∃ fault, v.Misfits t fault ∧ e = .decode "?" fault) ∧
    (∀ (narrow wide : IntegerType) (x : narrow.type.Scalar), narrow.bits ≤ wide.bits →
      v.decode (.required narrow.type) = .ok (.ofScalar narrow.type x) →
      ∃ y, v.decode (.required wide.type) = .ok (.ofScalar wide.type y) ∧
        wide.toInt y = narrow.toInt x) ∧
    (∀ (t other : IntegerType) (w : Value), v.decode (.required t.type) = .ok w →
      w.decode (.required other.type) = v.decode (.required other.type)) ∧
    ∀ i, v.HoldsInteger i → ∃ d : Decimal,
      v.decode (.required .decimal) = .ok (.decimal d) ∧ d.mantissa = i ∧ d.scale = 0 := by
  refine ⟨fun t i => ?_, fun t e => ?_, fun narrow wide x wider h => ?_, fun t other w h => ?_,
    fun i holds => ?_⟩
  · simp only [Value.decode_eq_ofScalar_iff]
    constructor
    · rintro ⟨x, holds, rfl⟩
      exact ⟨holds, IntegerType.inRange_toInt x⟩
    · rintro ⟨holds, inRange⟩
      have same := IntegerType.toInt_ofInt inRange
      exact ⟨t.ofInt i, same.symm ▸ holds, same⟩
  · simp only [Value.decode_required_eq_error_iff, Value.decodeScalar_eq_error_iff]
  · rw [Value.decode_eq_ofScalar_iff] at h
    have same := IntegerType.toInt_ofInt ((IntegerType.inRange_toInt x).widen wider)
    exact ⟨wide.ofInt (narrow.toInt x), Value.decode_eq_ofScalar_iff.mpr (same.symm ▸ h), same⟩
  · obtain ⟨x, holds, rfl⟩ := Value.decode_integer_eq_ok_iff.mp h
    exact (Value.holdsInteger_ofScalar x).decode_eq holds
  · obtain ⟨d, read, whole, scale⟩ := holds.decodeScalar_decimal
    exact ⟨d, Value.decode_required_eq_ok_iff.mpr ⟨d, read, rfl⟩, whole, scale⟩

/-- One below the least integer of 16 bits, in 64 bits. It is read as an integer of 32 bits and not
as one of 16, with the same error before and after it is stored in 32 bits. -/
theorem integers_of_decode_narrow :
    let v := Value.bigInt (-32769)
    v.HoldsInteger (-32769) ∧ IntegerType.int.bits ≤ IntegerType.bigInt.bits ∧
      v.decode (.required .int) = .ok (.int (-32769)) ∧
      (∃ y : Int64, v.decode (.required .bigInt) = .ok (.bigInt y) ∧ y.toInt = -32769) ∧
      (Value.int (-32769)).decode (.required .smallInt) =
        .error (.decode "?" (.outOfRange "-32769" .smallInt)) ∧
      ∃ d : Decimal, v.decode (.required .decimal) = .ok (.decimal d) ∧ d.mantissa = -32769 ∧
        d.scale = 0 := by
  intro v
  have holds : v.HoldsInteger (-32769) := .bigInt (-32769)
  obtain ⟨reads, refuses, widens, again, decimals⟩ := integers_of_decode v
  obtain ⟨x, read, same⟩ := (reads .int (-32769)).mpr ⟨holds, by decide, by decide⟩
  obtain rfl : x = (-32769 : Int32) := Int32.toInt_inj.mp same
  have outside : ¬ IntegerType.smallInt.InRange (-32769) := fun h => absurd h.1 (by decide)
  refine ⟨holds, by decide, read, widens .int .bigInt _ (by decide) read, ?_, decimals _ holds⟩
  exact (again .int .smallInt _ read).trans
    ((refuses .smallInt _).mpr ⟨_, .outOfRange holds outside, rfl⟩)

end TypedSql
