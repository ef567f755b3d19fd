import TypedSql.Statement.Clauses

/-!
Queries whose rows are of a known type. A builder gives a new query and leaves the old one as it
is, so a query can be the start of many.
-/

namespace TypedSql

/-- A query with rows of the given type. -/
structure Select (row : SqlType) where
  statement : Statement
  isSelect : statement.kind = .select
  hasRowType : statement.resultType = row

/-- A query that has no clauses yet. -/
def selectAs (row : SqlType) : Select row :=
  ⟨.bare .select row none, rfl, rfl⟩

def select : Select .record :=
  selectAs .record

namespace Select

variable {row : SqlType}

def mapClauses (q : Select row) (f : ClauseSet → ClauseSet) : Select row :=
  ⟨{ q.statement with clauses := f q.statement.clauses }, q.isSelect, q.hasRowType⟩

def withProjection (q : Select row) (new : SqlType) (exprs : List Expr) : Select new :=
  ⟨⟨q.statement.kind, new, { q.statement.clauses with projection := exprs }⟩, q.isSelect, rfl⟩

/-! ### Tables -/

def fromTable (q : Select row) (table : Table) : Select row :=
  q.mapClauses fun c => { c with table := some table }

def join (q : Select row) (kind : JoinKind) (table : Table) (on : Typed .bool) : Select row :=
  q.mapClauses (·.addJoin kind table on)

def innerJoin (q : Select row) (table : Table) (on : Typed .bool) : Select row :=
  q.join .inner table on

def leftJoin (q : Select row) (table : Table) (on : Typed .bool) : Select row :=
  q.join .left table on

def rightJoin (q : Select row) (table : Table) (on : Typed .bool) : Select row :=
  q.join .right table on

/-! ### Conditions and groups -/

def filter (q : Select row) (condition : Typed .bool) : Select row :=
  q.mapClauses (·.setFilter condition)

def andFilter (q : Select row) (condition : Typed .bool) : Select row :=
  q.mapClauses (·.andFilter condition)

def groupBy (q : Select row) (exprs : List Expr) : Select row :=
  q.mapClauses (·.addGroups exprs)

def having (q : Select row) (condition : Typed .bool) : Select row :=
  q.mapClauses (·.setHaving condition)

/-! ### Order and number of rows -/

def orderBy (q : Select row) (expr : Expr) (direction : Direction := .ascending) : Select row :=
  q.mapClauses (·.addOrder ⟨expr, direction⟩)

def limit (q : Select row) (n : Int64) : SqlResult (Select row) := do
  let n ← nonNegative "LIMIT" n
  return q.mapClauses fun c => { c with limit := some n }

def offset (q : Select row) (n : Int64) : SqlResult (Select row) := do
  let n ← nonNegative "OFFSET" n
  return q.mapClauses fun c => { c with offset := some n }

/-- The rows of one page, where pages are counted from one. The number of rows before the page must
be a 64-bit number. -/
def paginate (q : Select row) (page perPage : Int64) : SqlResult (Select row) :=
  if page < 1 then .error (.invalidArgument (.pageTooSmall page.toInt))
  else if perPage < 1 then .error (.invalidArgument (.perPageTooSmall perPage.toInt))
  else
    match product? (page - 1) perPage with
    | none => .error (.invalidArgument .pageOverflow)
    | some skipped => do
      let q ← q.limit perPage
      q.offset skipped

/-! ### Columns -/

/-- The query for a single expression; its rows have the type of the expression. -/
def project {t : SqlType} (q : Select row) (e : Typed t) : Select t :=
  q.withProjection t [e.expr]

/-- The query for several expressions; its rows are records. -/
def projectMany (q : Select row) (exprs : List Expr) : Select .record :=
  q.withProjection .record exprs

def asSubquery (q : Select row) : Typed row :=
  ⟨.subquery q.statement row, Or.inl rfl⟩

end Select

namespace Typed

variable {t : SqlType}

/-- Membership in the rows of a query. -/
def inSubquery (e : Typed t) (q : Select t) : Typed .bool :=
  predicate .isIn e q.asSubquery

def notInSubquery (e : Typed t) (q : Select t) : Typed .bool :=
  predicate .notIn e q.asSubquery

end Typed

end TypedSql
