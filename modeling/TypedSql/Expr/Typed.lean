import TypedSql.Expr.Checked

/-!
Expressions whose type is known when they are written. An operand of the wrong type is no Lean
term, so that the operators need no checks; what is not known is asked for once, by `Expr.as`.
-/

namespace TypedSql

/-- An expression of the given type, or of the type of a bare `NULL`. -/
structure Typed (t : SqlType) where
  expr : Expr
  fits : expr.fits t := by exact Or.inl rfl

/-- The expression as one of the given type, if it is. -/
def Expr.as (e : Expr) (t : SqlType) : SqlResult (Typed t) :=
  if h : e.fits t then .ok ⟨e, h⟩ else .error (.typeMismatch "CAST" e.type t)

/-- The type that an expression is used at when none is named: its own, or that of no result for
a bare `NULL`. -/
def Expr.ownType (e : Expr) : SqlType :=
  if e.type = .null then .unit else e.type

/-- The expression as one of its own type. -/
def Expr.self (e : Expr) : Typed e.ownType :=
  ⟨e, by
    unfold Expr.fits Expr.ownType
    split
    · exact Or.inr ‹_›
    · exact Or.inl rfl⟩

namespace Typed

/-! ### Leaves and functions -/

def column (t : SqlType) (table name : String) : Typed t :=
  ⟨.column table name none t, Or.inl rfl⟩

/-- A column of a table under another name. -/
def columnAs (t : SqlType) (table name aliasName : String) : Typed t :=
  ⟨.column table name (some aliasName) t, Or.inl rfl⟩

/-- A literal of the given type: a value of that type, or a `NULL` declared to be of it. -/
def literal (t : SqlType) (v : Value)
    (_fits : v.type = t ∨ v.type = .null := by simp [Value.type]) : Typed t :=
  ⟨.literal v t, Or.inl rfl⟩

def null (t : SqlType) : Typed t :=
  literal t .null

/-- A plain value where an operand of the given type is asked for: a literal, if the value is of the
type or `NULL`. A number of 32 bits may stand for one of 64. -/
def ofPlain? (t : SqlType) (v : Value) : Option (Typed t) :=
  match t, v with
  | .bigInt, .int n => some (literal .bigInt (.bigInt n.toInt64))
  | t, v => if fits : v.type = t ∨ v.type = .null then some (literal t v fits) else none

def callUnchecked (t : SqlType) (name : String) (arguments : List Expr) : Typed t :=
  ⟨.call name arguments t, Or.inl rfl⟩

/-- A function that returns the given type. -/
def call (t : SqlType) (name : String) (arguments : List Expr) : SqlResult (Typed t) := do
  checkName .function name
  return callUnchecked t name arguments

/-- The number of rows. -/
def countAll : Typed .bigInt :=
  callUnchecked .bigInt "COUNT" [.literal (.int 1) .int]

variable {t : SqlType}

/-- The number of rows in which the expression is not `NULL`. -/
def count (e : Typed t) : Typed .bigInt :=
  callUnchecked .bigInt "COUNT" [e.expr]

/-- The sum of numbers, of their type. -/
def sum (e : Typed t) (_numeric : t.isNumeric = true := by decide) : Typed t :=
  callUnchecked t "SUM" [e.expr]

/-- The mean of numbers, which is always a double. -/
def avg (e : Typed t) (_numeric : t.isNumeric = true := by decide) : Typed .double :=
  callUnchecked .double "AVG" [e.expr]

def min (e : Typed t) : Typed t :=
  callUnchecked t "MIN" [e.expr]

def max (e : Typed t) : Typed t :=
  callUnchecked t "MAX" [e.expr]

/-! ### Tests -/

def isNull (e : Typed t) : Typed .bool :=
  ⟨.unary .isNull e.expr, Or.inl rfl⟩

def isNotNull (e : Typed t) : Typed .bool :=
  ⟨.unary .isNotNull e.expr, Or.inl rfl⟩

/-- A truth value made of two operands. -/
def predicate {s : SqlType} (op : Operator) (left : Typed t) (right : Typed s) : Typed .bool :=
  ⟨.binary op left.expr right.expr .bool, Or.inl rfl⟩

def eq (left right : Typed t) : Typed .bool := predicate .eq left right

def ne (left right : Typed t) : Typed .bool := predicate .ne left right

def lt (left right : Typed t) : Typed .bool := predicate .lt left right

def le (left right : Typed t) : Typed .bool := predicate .le left right

def gt (left right : Typed t) : Typed .bool := predicate .gt left right

def ge (left right : Typed t) : Typed .bool := predicate .ge left right

def and (left right : Typed .bool) : Typed .bool := predicate .and left right

def or (left right : Typed .bool) : Typed .bool := predicate .or left right

/-- The negation, which is written as a function. -/
def not (e : Typed .bool) : Typed .bool :=
  callUnchecked .bool "NOT" [e.expr]

def like (left right : Typed .text) : Typed .bool := predicate .like left right

def notLike (left right : Typed .text) : Typed .bool := predicate .notLike left right

/-! ### Arithmetic -/

/-- The result of arithmetic between two numbers of one type is of that type. -/
def arithmetic (op : Operator) (left right : Typed t) : Typed t :=
  ⟨.binary op left.expr right.expr t, Or.inl rfl⟩

def plus (left right : Typed t) (_numeric : t.isNumeric = true := by decide) : Typed t :=
  arithmetic .add left right

def minus (left right : Typed t) (_numeric : t.isNumeric = true := by decide) : Typed t :=
  arithmetic .sub left right

def times (left right : Typed t) (_numeric : t.isNumeric = true := by decide) : Typed t :=
  arithmetic .mul left right

def divide (left right : Typed t) (_numeric : t.isNumeric = true := by decide) : Typed t :=
  arithmetic .div left right

def modulo (left right : Typed t) (_numeric : t.isNumeric = true := by decide) : Typed t :=
  arithmetic .mod left right

/-! ### Case distinctions -/

/-- A case distinction: conditions with their results, and the result if none holds. -/
def caseWhen (t : SqlType) (first : Typed .bool × Typed t) (others : List (Typed .bool × Typed t))
    (otherwise : Option (Typed t)) : Typed t :=
  ⟨.caseWhen ((first :: others).map fun b => (b.1.expr, b.2.expr)) (otherwise.map (·.expr)) t,
    Or.inl rfl⟩

end Typed

/-! ### Tables -/

/-- The table of the given name, which is checked. -/
def Table.checked (name : String) : SqlResult Table := do
  checkName .table name
  return { name }

/-- The same table under an alias. -/
def Table.withAlias (t : Table) (aliasName : String) : Table :=
  { t with aliasName := some aliasName }

/-- A column of the table; the alias of the table plays no part. -/
def Table.column (t : Table) (type : SqlType) (name : String) : Typed type :=
  Typed.column type t.name name

/-- A column of the table, with its name checked. -/
def Table.checkedColumn (t : Table) (type : SqlType) (name : String) : SqlResult (Typed type) := do
  checkName .column name
  return t.column type name

end TypedSql
