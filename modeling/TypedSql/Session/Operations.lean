import TypedSql.Session.Backend
import TypedSql.Statement.Change
import TypedSql.Statement.Dynamic
import TypedSql.Tree.Sql
import TypedSql.Value.Decode

/-!
Statements run against a backend. Every operation checks the statement first and then makes one
call at most; what the rows of an answer are read as is up to the caller.
-/

namespace TypedSql

namespace Backend

variable {σ α : Type} (b : Backend σ) {row : SqlType}

/-! ### Rows, as a reader makes them -/

/-- The rows of a statement that has been checked, each as the reader makes it. -/
def readRows (s : Statement) (read : Record → SqlResult α) : Session σ (List α) := do
  let rows ← b.query s.toSql
  Session.ofResult (rows.mapM read)

def readAll (q : Select row) (read : Record → SqlResult α) : Session σ (List α) := do
  Session.ofResult q.statement.validate
  b.readRows q.statement read

/-- The only row of a query, or none; more are an error. -/
def readOptional (q : Select row) (read : Record → SqlResult α) : Session σ (Option α) := do
  match ← b.readAll q read with
  | [] => return none
  | [r] => return some r
  | rows => throw (.tooManyRows 1 rows.length)

/-- The only row of a query; none and more are errors. -/
def readOne (q : Select row) (read : Record → SqlResult α) : Session σ α := do
  match ← b.readOptional q read with
  | some r => return r
  | none => throw (.notFound .expectedRow)

/-- The first row of a query, which is asked for one row only. -/
def readFirst (q : Select row) (read : Record → SqlResult α) : Session σ (Option α) := do
  let limited ← Session.ofResult (q.limit 1)
  return (← b.readAll limited read).head?

/-- Runs an insert and reads what it returns of the new rows; it must return something. -/
def readReturning (q : Insert) (read : Record → SqlResult α) : Session σ (List α) := do
  Session.ofResult q.statement.validate
  if q.statement.clauses.returning.isEmpty then throw (.invalidState .missingReturning)
  b.readRows q.statement read

/-! ### Rows of values -/

def fetchAll (q : Select row) (type : RowType) : Session σ (List Record) :=
  b.readAll q (Record.decode type)

def fetchOptional (q : Select row) (type : RowType) : Session σ (Option Record) :=
  b.readOptional q (Record.decode type)

def fetchOne (q : Select row) (type : RowType) : Session σ Record :=
  b.readOne q (Record.decode type)

def fetchFirst (q : Select row) (type : RowType) : Session σ (Option Record) :=
  b.readFirst q (Record.decode type)

def insertReturning (q : Insert) (type : RowType) : Session σ (List Record) :=
  b.readReturning q (Record.decode type)

/-- The SQL that counts the rows of a query. -/
def countSql (s : Statement) : String :=
  "SELECT COUNT(*) FROM (" ++ s.toSql ++ ") AS count_query"

/-- The number of rows of a query, counted by the backend. -/
def fetchCount (q : Select row) : Session σ Int64 := do
  Session.ofResult q.statement.validate
  match ← b.query (countSql q.statement) with
  | [] => throw (.notFound .countRow)
  | r :: _ => Session.ofResult (Record.readAt Value.decodeInt64 r 0)

/-! ### Changes and statements of unknown kind -/

/-- Runs a statement that changes rows: how many it changed. -/
def change (s : Statement) : Session σ Nat := do
  Session.ofResult s.validate
  b.execute s.toSql

def runInsert (q : Insert) : Session σ Nat :=
  b.change q.statement

def runUpdate (q : Update) : Session σ Nat :=
  b.change q.statement

def runDelete (q : Delete) : Session σ Nat :=
  b.change q.statement

/-- The rows of a statement of any kind, which must be a query. -/
def fetchRecords (s : Statement) : Session σ (List Record) := do
  Session.ofResult (s.require [.select] "row fetch")
  Session.ofResult s.validate
  b.query s.toSql

def executeStatement (s : Statement) : Session σ Nat := do
  Session.ofResult (s.require [.insert, .update, .delete] "execute_update")
  b.change s

end Backend

end TypedSql
