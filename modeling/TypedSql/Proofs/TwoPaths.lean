import TypedSql.Proofs.Typing

/-!
The two ways to an operator. Operands of known types need no check, and operands of any type are
checked when the program runs. Both ways make the same expression, since a known type is the type of
the operand or that of a bare `NULL`. They part in one place: arithmetic on two bare `NULL`s has the
type it was declared for on the one way and the type of `NULL` on the other.
-/

namespace TypedSql

/-- A test made of operands of known types. -/
inductive TypedTest where
  | eq {t : SqlType} (left right : Typed t)
  | ne {t : SqlType} (left right : Typed t)
  | lt {t : SqlType} (left right : Typed t)
  | le {t : SqlType} (left right : Typed t)
  | gt {t : SqlType} (left right : Typed t)
  | ge {t : SqlType} (left right : Typed t)
  | and (left right : Typed .bool)
  | or (left right : Typed .bool)
  | like (left right : Typed .text)
  | notLike (left right : Typed .text)
  | inSubquery {t : SqlType} (e : Typed t) (q : Select t)
  | notInSubquery {t : SqlType} (e : Typed t) (q : Select t)
  | isNull {t : SqlType} (e : Typed t)
  | isNotNull {t : SqlType} (e : Typed t)

namespace TypedTest

def build : TypedTest → Typed .bool
  | eq left right => left.eq right
  | ne left right => left.ne right
  | lt left right => left.lt right
  | le left right => left.le right
  | gt left right => left.gt right
  | ge left right => left.ge right
  | and left right => left.and right
  | or left right => left.or right
  | like left right => left.like right
  | notLike left right => left.notLike right
  | inSubquery e q => e.inSubquery q
  | notInSubquery e q => e.notInSubquery q
  | isNull e => e.isNull
  | isNotNull e => e.isNotNull

/-- The operator that the test is named after. -/
def op : TypedTest → Operator
  | eq _ _ => .eq
  | ne _ _ => .ne
  | lt _ _ => .lt
  | le _ _ => .le
  | gt _ _ => .gt
  | ge _ _ => .ge
  | and _ _ => .and
  | or _ _ => .or
  | like _ _ => .like
  | notLike _ _ => .notLike
  | inSubquery _ _ => .isIn
  | notInSubquery _ _ => .notIn
  | isNull _ => .isNull
  | isNotNull _ => .isNotNull

def left : TypedTest → Expr
  | eq left _ | ne left _ | lt left _ | le left _ | gt left _ | ge left _ => left.expr
  | and left _ | or left _ => left.expr
  | like left _ | notLike left _ => left.expr
  | inSubquery e _ | notInSubquery e _ => e.expr
  | isNull e | isNotNull e => e.expr

def right : TypedTest → Option Expr
  | eq _ right | ne _ right | lt _ right | le _ right | gt _ right | ge _ right => some right.expr
  | and _ right | or _ right => some right.expr
  | like _ right | notLike _ right => some right.expr
  | inSubquery _ q | notInSubquery _ q => some q.asSubquery.expr
  | isNull _ | isNotNull _ => none

end TypedTest

/-- Arithmetic on two operands of one known type. -/
inductive TypedArithmetic (t : SqlType) where
  | plus (left right : Typed t)
  | minus (left right : Typed t)
  | times (left right : Typed t)
  | divide (left right : Typed t)
  | modulo (left right : Typed t)

namespace TypedArithmetic

variable {t : SqlType}

def build (numeric : t.isNumeric = true) : TypedArithmetic t → Typed t
  | plus left right => left.plus right numeric
  | minus left right => left.minus right numeric
  | times left right => left.times right numeric
  | divide left right => left.divide right numeric
  | modulo left right => left.modulo right numeric

def op : TypedArithmetic t → Operator
  | plus _ _ => .add
  | minus _ _ => .sub
  | times _ _ => .mul
  | divide _ _ => .div
  | modulo _ _ => .mod

def left : TypedArithmetic t → Typed t
  | plus left _ | minus left _ | times left _ | divide left _ | modulo left _ => left

def right : TypedArithmetic t → Typed t
  | plus _ right | minus _ right | times _ right | divide _ right | modulo _ right => right

end TypedArithmetic

/-! ### The check of operands -/

/-- Arithmetic widens to the type that both operands are used at, unless both are a bare `NULL`. -/
theorem SqlType.widen_of_fits {t left right : SqlType} (numeric : t.isNumeric = true)
    (hl : left = t ∨ left = .null) (hr : right = t ∨ right = .null) :
    left.widen right = if left = .null ∧ right = .null then .null else t := by
  revert numeric
  rcases hl with hl | hl <;> rcases hr with hr | hr <;> subst left right <;> cases t <;> decide

theorem Operator.isArithmetic_of_isComparison {op : Operator} (h : op.isComparison = true) :
    op.isArithmetic = false := by
  cases op <;> first | rfl | cases h

/-- Only arithmetic has results that are no truth values. -/
theorem Operator.Admits.eq_bool {op : Operator} {left right t : SqlType}
    (h : op.Admits left right t) (ha : op.isArithmetic = false) : t = .bool := by
  cases op with
  | add | sub | mul | div | mod => cases ha
  | isNull | isNotNull => cases h
  | and | or | like | notLike => exact h.2.2
  | eq | ne | lt | le | gt | ge | isIn | notIn => exact h.2

namespace Expr

variable {op : Operator} {l r e : Expr} {t : SqlType}

/-- What the rules admit as a truth value, the check of operands lets through. -/
theorem resultType_of_admits {left right : SqlType} (ha : op.isArithmetic = false)
    (h : op.Admits left right .bool) : resultType op left right = .ok .bool := by
  cases op with
  | add | sub | mul | div | mod => cases ha
  | isNull | isNotNull => cases h
  | and | or | like | notLike => obtain ⟨rfl | rfl, rfl | rfl, -⟩ := h <;> rfl
  | eq | ne | lt | le | gt | ge | isIn | notIn => exact if_pos (SqlType.comparable_iff.mpr h.1)

/-- An operator whose operands have types that go together passes the check. -/
theorem checked_eq_ok (hu : op.isUnary = false)
    (hm : op = .isIn ∨ op = .notIn → r.isSubquery = true)
    (h : resultType op l.type r.type = .ok t) :
    l.checked op (some r) = .ok (.binary op l r t) := by
  have fits : ¬((op = .isIn ∨ op = .notIn) ∧ (!r.isSubquery) = true) := by simpa using hm
  simp only [checked, hu, if_neg fits, h]
  rfl

/-- The check of a test lets through what the rules admit. -/
theorem checked_predicate {s : SqlType} {left : Typed t} {right : Typed s}
    (hu : op.isUnary = false) (ha : op.isArithmetic = false)
    (hm : op = .isIn ∨ op = .notIn → right.expr.isSubquery = true)
    (h : op.Admits left.expr.type right.expr.type .bool) :
    left.expr.checked op (some right.expr) = .ok (Typed.predicate op left right).expr :=
  checked_eq_ok hu hm (resultType_of_admits ha h)

theorem checked_comparison {left right : Typed t} (ho : op.isComparison = true) :
    left.expr.checked op (some right.expr) = .ok (Typed.predicate op left right).expr := by
  have admits : op.Admits left.expr.type right.expr.type .bool :=
    Operator.admits_of_isComparison ho (SqlType.mayMeet_of_fits left.fits right.fits)
  have member := Operator.ne_membership (.inl ho)
  exact checked_predicate (Operator.isUnary_of_isComparison ho)
    (Operator.isArithmetic_of_isComparison ho) (fun h => absurd h (not_or.mpr member)) admits

/-- What passes as a predicate is a truth value. -/
theorem type_of_compare (h : l.compare op r = .ok e) : e.type = .bool := by
  have ha : op.isArithmetic = false := by
    cases ha : op.isArithmetic with
    | false => rfl
    | true => rw [compare, if_pos ha] at h; cases h
  obtain ⟨-, rfl⟩ | ⟨hu, right, -, t, ht, -, rfl⟩ := eq_of_checked (checked_of_compare h)
  · rfl
  · exact (admits_of_resultType hu ht).eq_bool ha

end Expr

/-! ### Both ways -/

/-- A test of operands of known types is what the check makes of them. -/
theorem TypedTest.checked_eq (test : TypedTest) :
    test.left.checked test.op test.right = .ok test.build.expr := by
  cases test with
  | eq left right | ne left right | lt left right | le left right | gt left right
  | ge left right => exact Expr.checked_comparison rfl
  | and left right | or left right =>
    exact Expr.checked_predicate rfl rfl nofun
      (Operator.admits_of_isLogical rfl left.fits right.fits)
  | like left right | notLike left right =>
    exact Expr.checked_predicate rfl rfl nofun ⟨left.fits, right.fits, rfl⟩
  | inSubquery e q | notInSubquery e q =>
    exact Expr.checked_predicate rfl rfl (fun _ => rfl)
      ⟨SqlType.mayMeet_of_fits e.fits q.asSubquery.fits, rfl⟩
  | isNull e | isNotNull e => rfl

namespace TypedArithmetic

variable {t : SqlType}

theorem expr_build (numeric : t.isNumeric = true) (a : TypedArithmetic t) :
    (a.build numeric).expr = .binary a.op a.left.expr a.right.expr t := by
  cases a <;> rfl

theorem resultType_op (a : TypedArithmetic t) {left right : SqlType}
    (hl : left ∈ SqlType.numbers ∨ left = .null) (hr : right ∈ SqlType.numbers ∨ right = .null) :
    Expr.resultType a.op left right = .ok (left.widen right) := by
  rw [← SqlType.isNumeric_iff] at hl hr
  have fits :
      (Expr.nullOr SqlType.isNumeric left && Expr.nullOr SqlType.isNumeric right) = true := by
    simpa [Expr.nullOr, or_comm] using And.intro hl hr
  cases a <;> exact if_pos fits

/-- The check of two numbers makes arithmetic of the type that both are used at, or of the type of
`NULL` if both are a bare one. -/
theorem checked_eq (numeric : t.isNumeric = true) (a : TypedArithmetic t) :
    a.left.expr.checked a.op (some a.right.expr) =
      .ok (.binary a.op a.left.expr a.right.expr
        (if a.left.expr.type = .null ∧ a.right.expr.type = .null then .null else t)) := by
  rw [← SqlType.widen_of_fits numeric a.left.fits a.right.fits]
  have passes := a.resultType_op (a.left.mem_numbers_or_null numeric)
    (a.right.mem_numbers_or_null numeric)
  cases a <;> exact Expr.checked_eq_ok rfl nofun passes

end TypedArithmetic

/-- Where the types of operands are known, an operator makes what the check of operands makes, which
lets it pass: this holds of all tests, and of arithmetic unless both operands are a bare `NULL`.
Then both ways differ in the type of the result, which is the declared one or that of `NULL`. A
predicate put together at run time is what the check makes too; it is a truth value and never
arithmetic. -/
theorem checked_eq_build :
    (∀ test : TypedTest, test.left.checked test.op test.right = .ok test.build.expr) ∧
    (∀ (l r : Expr) (op : Operator),
      (op.isArithmetic = false → l.compare op r = l.checked op (some r)) ∧
      (op.isArithmetic = true → l.compare op r = .error (.invalidArgument (.notPredicate op))) ∧
      ∀ e, l.compare op r = .ok e → e.type = .bool) ∧
    ∀ (t : SqlType) (numeric : t.isNumeric = true) (a : TypedArithmetic t),
      let bare := a.left.expr.type = .null ∧ a.right.expr.type = .null
      (¬ bare → a.left.expr.checked a.op (some a.right.expr) = .ok (a.build numeric).expr) ∧
      (bare → t ≠ .null ∧
        (a.build numeric).expr = .binary a.op a.left.expr a.right.expr t ∧
        a.left.expr.checked a.op (some a.right.expr) =
          .ok (.binary a.op a.left.expr a.right.expr .null)) := by
  refine ⟨TypedTest.checked_eq, fun l r op => ⟨fun ha => ?_, fun ha => if_pos ha, fun e => ?_⟩,
    fun t numeric a => ?_⟩
  · exact if_neg (by rw [ha]; decide)
  · exact Expr.type_of_compare
  · intro bare
    have checked := a.checked_eq numeric
    refine ⟨fun h => ?_, fun h => ⟨?_, a.expr_build numeric, ?_⟩⟩
    · rw [checked, if_neg h, a.expr_build]
    · rintro rfl
      cases numeric
    · rw [checked, if_pos h]

/-- A bare `NULL` taken for a number may stand beside a column, where both ways agree, and beside
itself, where the sum is a number on one way only. A comparison with that sum is built either
way. -/
theorem checked_eq_build_nulls :
    ∃ absent : Typed .int, (Expr.ofValue .null).as .int = .ok absent ∧
      (let age := Typed.column .int "users" "age"
      age.expr.checked .add (some absent.expr) = .ok (age.plus absent).expr ∧
      absent.expr.checked .add (some absent.expr) =
        .ok (.binary .add (.ofValue .null) (.ofValue .null) .null) ∧
      (absent.plus absent).expr.type = .int ∧
      absent.expr.checked .lt (some (absent.plus absent).expr) =
        .ok (absent.lt (absent.plus absent)).expr) := by
  obtain ⟨tests, -, sums⟩ := checked_eq_build
  let absent : Typed .int := ⟨.ofValue .null, .inr rfl⟩
  let age := Typed.column .int "users" "age"
  refine ⟨absent, rfl, ?_, ?_, rfl, tests (.lt absent (absent.plus absent))⟩
  · exact (sums .int rfl (.plus age absent)).1 (by decide)
  · exact ((sums .int rfl (.plus absent absent)).2 (by decide)).2.2

end TypedSql
