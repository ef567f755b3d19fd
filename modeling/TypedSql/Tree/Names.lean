import TypedSql.Error
import TypedSql.Text.Blank
import TypedSql.Tree.Fold

/-!
The check of the names in a tree. Names stand in SQL as they are, so a name that cannot be one, a
blank one or one with a NUL, is refused before a statement runs.
-/

namespace TypedSql

/-- Refuses a blank name and one with a NUL character. -/
def checkName (role : NameRole) (name : String) : SqlResult Unit :=
  if Text.isBlank name then .error (.invalidArgument (.emptyName role))
  else if name.toList.contains '\x00' then .error (.invalidArgument (.nulInName role))
  else .ok ()

/-- The check of a name that may be missing. -/
def checkName? (role : NameRole) : Option String → SqlResult Unit
  | none => .ok ()
  | some name => checkName role name

def Table.check (t : Table) : SqlResult Unit := do
  checkName .table t.name
  checkName? .tableAlias t.aliasName

/-- The checks in a list, up to the first that fails. -/
def checkAll (checks : List (SqlResult Unit)) : SqlResult Unit :=
  checks.forM id

/-- The check of a statement, given the checks of its parts: an update must set something, and
then the names are looked at clause by clause. -/
def Clauses.check (kind : StatementKind) (c : Clauses (SqlResult Unit) (SqlResult Unit)) :
    SqlResult Unit := do
  if kind = .update ∧ c.assignments.isEmpty then
    throw (.invalidState (.emptyUpdate (c.table.map (·.name))))
  checkAll (c.table.toList.map Table.check)
  checkAll (c.joins.flatMap fun j => [j.table.check, j.on])
  checkAll c.projection
  checkAll c.groupBy
  checkAll c.filter.toList
  checkAll c.having.toList
  checkAll (c.orderBy.map (·.expr))
  checkAll c.rows.flatten
  checkAll (c.assignments.flatMap fun a => [checkName .setColumn a.column, a.value])
  checkAll (c.returning.map (checkName .returningColumn))
  checkAll c.source.toList

def checkAlgebra : Algebra (SqlResult Unit) (SqlResult Unit) where
  column table column aliasName _ := do
    checkName .table table
    checkName .column column
    checkName? .columnAlias aliasName
  literal _ _ := .ok ()
  unary _ operand := operand
  binary _ left right _ := do
    left
    right
  call function arguments _ := do
    checkName .function function
    checkAll arguments
  caseWhen branches otherwise _ := do
    checkAll (branches.flatMap fun b => [b.1, b.2])
    checkAll otherwise.toList
  subquery statement _ := statement
  statement kind _ clauses := clauses.check kind

def Expr.checkNames (e : Expr) : SqlResult Unit :=
  e.fold checkAlgebra

/-- Whether a statement can be sent to a backend; the first fault is the answer. -/
def Statement.validate (s : Statement) : SqlResult Unit :=
  s.fold checkAlgebra

end TypedSql
