import TypedSql.Statement.Select

/-!
Changes to a statement whose kind is known only when the program runs. Each clause exists on some
kinds of statement; on the others the change is refused, whatever its argument.
-/

namespace TypedSql.Statement

/-- The kinds of statement that have a condition. -/
def filterable : List StatementKind := [.select, .update, .delete]

/-- Refuses an operation on a kind of statement that it is not for. -/
def require (s : Statement) (allowed : List StatementKind) (operation : String) :
    SqlResult Unit :=
  if s.kind ∈ allowed then .ok () else .error (.unsupportedOperation s.kind operation)

def mapClauses (s : Statement) (f : ClauseSet → ClauseSet) : Statement :=
  { s with clauses := f s.clauses }

def filter (s : Statement) (condition : Typed .bool) : SqlResult Statement := do
  s.require filterable "WHERE"
  return s.mapClauses (·.setFilter condition)

def andFilter (s : Statement) (condition : Typed .bool) : SqlResult Statement := do
  s.require filterable "WHERE"
  return s.mapClauses (·.andFilter condition)

/-- The query for the given expressions. The rows have the type of a single expression, and are
records otherwise. -/
def project (s : Statement) (exprs : List Expr) : SqlResult Statement := do
  s.require [.select] "SELECT list"
  let resultType := match exprs with
    | [single] => single.type
    | _ => .record
  return ⟨s.kind, resultType, { s.clauses with projection := exprs }⟩

def join (s : Statement) (kind : JoinKind) (table : Table) (on : Typed .bool) :
    SqlResult Statement := do
  s.require [.select] "JOIN"
  return s.mapClauses (·.addJoin kind table on)

def groupBy (s : Statement) (exprs : List Expr) : SqlResult Statement := do
  s.require [.select] "GROUP BY"
  return s.mapClauses (·.addGroups exprs)

def having (s : Statement) (condition : Typed .bool) : SqlResult Statement := do
  s.require [.select] "HAVING"
  return s.mapClauses (·.setHaving condition)

def orderBy (s : Statement) (expr : Expr) (direction : Direction := .ascending) :
    SqlResult Statement := do
  s.require [.select] "ORDER BY"
  return s.mapClauses (·.addOrder ⟨expr, direction⟩)

def limit (s : Statement) (n : Int64) : SqlResult Statement := do
  s.require [.select] "LIMIT"
  let n ← nonNegative "LIMIT" n
  return s.mapClauses fun c => { c with limit := some n }

def offset (s : Statement) (n : Int64) : SqlResult Statement := do
  s.require [.select] "OFFSET"
  let n ← nonNegative "OFFSET" n
  return s.mapClauses fun c => { c with offset := some n }

end TypedSql.Statement
