import TypedSql.Statement.Select

/-!
Statements that change rows: inserts, updates and deletes of one table.
-/

namespace TypedSql

/-! ### Insert -/

/-- An insert. Its rows are values or come from a query; setting one gives up the other. -/
structure Insert where
  statement : Statement
  isInsert : statement.kind = .insert

def insertInto (table : String) : Insert :=
  ⟨.bare .insert .unit (some { name := table }), rfl⟩

namespace Insert

def withClauses (q : Insert) (c : ClauseSet) : Insert :=
  ⟨{ q.statement with clauses := c }, q.isInsert⟩

/-- The insert with a column list. -/
def columns (q : Insert) (names : List String) : SqlResult Insert :=
  (q.statement.clauses.setColumns names).map q.withClauses

/-- The insert with one more row of values. -/
def values (q : Insert) (row : List Expr) : SqlResult Insert :=
  (q.statement.clauses.pushRow row).map q.withClauses

/-- The insert of the rows of a query. -/
def fromSelect {row : SqlType} (q : Insert) (source : Select row) : Insert :=
  q.withClauses (q.statement.clauses.setSource source.statement)

def returning (q : Insert) (names : List String) : Insert :=
  q.withClauses (q.statement.clauses.setReturning names)

end Insert

/-! ### Update -/

/-- An update. A column that is set twice keeps its place and gets the later value. -/
structure Update where
  statement : Statement
  isUpdate : statement.kind = .update

def update (table : String) : Update :=
  ⟨.bare .update .unit (some { name := table }), rfl⟩

namespace Update

def withClauses (q : Update) (c : ClauseSet) : Update :=
  ⟨{ q.statement with clauses := c }, q.isUpdate⟩

/-- The update with a column set to a value; the name of the column is checked. -/
def set (q : Update) (column : String) (value : Expr) : SqlResult Update := do
  checkName .setColumn column
  return q.withClauses (q.statement.clauses.assign column value)

def filter (q : Update) (condition : Typed .bool) : Update :=
  q.withClauses (q.statement.clauses.setFilter condition)

def andFilter (q : Update) (condition : Typed .bool) : Update :=
  q.withClauses (q.statement.clauses.andFilter condition)

def returning (q : Update) (names : List String) : Update :=
  q.withClauses (q.statement.clauses.setReturning names)

end Update

/-! ### Delete -/

/-- A delete; without a condition it removes every row. -/
structure Delete where
  statement : Statement
  isDelete : statement.kind = .delete

def deleteFrom (table : String) : Delete :=
  ⟨.bare .delete .unit (some { name := table }), rfl⟩

namespace Delete

def withClauses (q : Delete) (c : ClauseSet) : Delete :=
  ⟨{ q.statement with clauses := c }, q.isDelete⟩

def filter (q : Delete) (condition : Typed .bool) : Delete :=
  q.withClauses (q.statement.clauses.setFilter condition)

def andFilter (q : Delete) (condition : Typed .bool) : Delete :=
  q.withClauses (q.statement.clauses.andFilter condition)

def returning (q : Delete) (names : List String) : Delete :=
  q.withClauses (q.statement.clauses.setReturning names)

end Delete

end TypedSql
