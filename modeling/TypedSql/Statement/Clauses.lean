import TypedSql.Expr.Typed

/-!
The changes to clauses that the builders of all kinds share: conditions are collected under `AND`,
the rows of an insert keep to its column list, and a column is assigned once.
-/

namespace TypedSql

/-- The clauses of a statement of the library. -/
abbrev ClauseSet := Clauses Expr Statement

namespace Clauses

/-- The clauses with a condition in place of the one there was. -/
def setFilter (c : ClauseSet) (condition : Typed .bool) : ClauseSet :=
  { c with filter := some condition.expr }

/-- The clauses with a condition behind the one there was. -/
def andFilter (c : ClauseSet) (condition : Typed .bool) : ClauseSet :=
  { c with
    filter := some (match c.filter with
      | none => condition.expr
      | some existing => .binary .and existing condition.expr .bool) }

def addJoin (c : ClauseSet) (kind : JoinKind) (table : Table) (on : Typed .bool) : ClauseSet :=
  { c with joins := c.joins ++ [⟨kind, table, on.expr⟩] }

def addGroups (c : ClauseSet) (exprs : List Expr) : ClauseSet :=
  { c with groupBy := c.groupBy ++ exprs }

def setHaving (c : ClauseSet) (condition : Typed .bool) : ClauseSet :=
  { c with having := some condition.expr }

def addOrder (c : ClauseSet) (item : OrderItem Expr) : ClauseSet :=
  { c with orderBy := c.orderBy ++ [item] }

/-- A row must have as many values as there are columns. -/
def checkArity (expected found : Nat) : SqlResult Unit :=
  if expected = found then .ok () else .error (.arityMismatch expected found)

/-- The clauses with a column list, which must name columns and suit the rows there are. -/
def setColumns (c : ClauseSet) (columns : List String) : SqlResult ClauseSet := do
  if columns.isEmpty then throw (.invalidArgument .emptyColumnList)
  columns.forM (checkName .insertColumn)
  c.rows.forM fun row => checkArity columns.length row.length
  return { c with columns := some columns }

/-- The clauses with one more row, which must have values and suit the column list. The query that
rows came from so far is given up. -/
def pushRow (c : ClauseSet) (row : List Expr) : SqlResult ClauseSet := do
  if row.isEmpty then throw (.invalidArgument .emptyRow)
  c.columns.forM fun columns => checkArity columns.length row.length
  return { c with source := none, rows := c.rows ++ [row] }

/-- The clauses with a query to take rows from in place of rows of values. -/
def setSource (c : ClauseSet) (source : Statement) : ClauseSet :=
  { c with rows := [], source := some source }

/-- Assignments with one for the given column: in the place of the one it had, else at the end. -/
def assignIn (column : String) (value : Expr) : List (Assignment Expr) → List (Assignment Expr)
  | [] => [⟨column, value⟩]
  | a :: as =>
    if a.column = column then ⟨column, value⟩ :: as else a :: assignIn column value as

/-- A column that had an assignment keeps its place, and a new one comes last. -/
theorem columns_assignIn (column : String) (value : Expr) (as : List (Assignment Expr)) :
    (assignIn column value as).map (·.column) =
      if column ∈ as.map (·.column) then as.map (·.column)
      else as.map (·.column) ++ [column] := by
  induction as with
  | nil => rfl
  | cons a as ih =>
    by_cases h : a.column = column
    · simp [assignIn, h]
    · have h' : column ≠ a.column := fun e => h e.symm
      by_cases hm : column ∈ as.map (·.column) <;> simp_all [assignIn]

def assign (c : ClauseSet) (column : String) (value : Expr) : ClauseSet :=
  { c with assignments := assignIn column value c.assignments }

def setReturning (c : ClauseSet) (columns : List String) : ClauseSet :=
  { c with returning := columns }

end Clauses

/-- A count of rows, which must not be negative. -/
def nonNegative (clause : String) (n : Int64) : SqlResult Nat :=
  if n.toInt < 0 then .error (.invalidArgument (.negativeCount clause n.toInt))
  else .ok n.toInt.toNat

/-- The product of two 64-bit numbers, if it is one itself. -/
def product? (a b : Int64) : Option Int64 :=
  let product := a.toInt * b.toInt
  if Int64.minValue.toInt ≤ product ∧ product ≤ Int64.maxValue.toInt then some (a * b) else none

end TypedSql
