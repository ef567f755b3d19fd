import TypedSql.Error
import TypedSql.Tree.Names

/-!
Expressions put together at run time from operands of any type. Each operator says which types its
operands may have, where a `NULL` operand fits everywhere, and what type the result has.
-/

namespace TypedSql

namespace Expr

/-- A literal of a value, of the value's own type. -/
def ofValue (v : Value) : Expr :=
  literal v v.type

/-- Whether an operand of the given type can stand where the test asks for its own types. -/
def nullOr (test : SqlType → Bool) (t : SqlType) : Bool :=
  t == .null || test t

/-- The error of an operator between operands that do not fit. -/
def mismatch (op : Operator) (left right : SqlType) : SqlError :=
  .typeMismatch op.symbol left right

/-- The type of an operator's result, if its operands fit. The right operand of a membership test
is known to be a subquery here. -/
def resultType (op : Operator) (left right : SqlType) : SqlResult SqlType :=
  let require := fun (fits : Bool) (result : SqlType) =>
    if fits then Except.ok result else .error (mismatch op left right)
  match op with
  | .like | .notLike =>
    require (nullOr SqlType.isTextual left && nullOr SqlType.isTextual right) .bool
  | .and | .or => require (nullOr (· == .bool) left && nullOr (· == .bool) right) .bool
  | .add | .sub | .mul | .div | .mod =>
    require (nullOr SqlType.isNumeric left && nullOr SqlType.isNumeric right) (left.widen right)
  | _ => require (left.comparable right) .bool

/-- An operator on its operands, with the number of operands and their types checked. -/
def checked (left : Expr) (op : Operator) (right : Option Expr) : SqlResult Expr :=
  match op.isUnary, right with
  | true, none => .ok (unary op left)
  | true, some _ => .error (.invalidArgument (.unexpectedOperand op))
  | false, none => .error (.invalidArgument (.missingOperand op))
  | false, some right =>
    if (op = .isIn ∨ op = .notIn) ∧ !right.isSubquery then
      .error (.invalidArgument (.notSubquery op))
    else (resultType op left.type right.type).map (binary op left right)

def compare (left : Expr) (op : Operator) (right : Expr) : SqlResult Expr :=
  if op.isArithmetic then .error (.invalidArgument (.notPredicate op))
  else left.checked op (some right)

def like (left pattern : Expr) : SqlResult Expr :=
  left.compare .like pattern

/-- Whether an expression may be used where one of the given type is asked for: it has the type,
or it has the type of a bare `NULL`. -/
def fits (e : Expr) (t : SqlType) : Prop :=
  e.type = t ∨ e.type = .null

instance (e : Expr) (t : SqlType) : Decidable (e.fits t) :=
  inferInstanceAs (Decidable (_ ∨ _))

end Expr

end TypedSql
