import TypedSql.Statement.Change
import TypedSql.Tree.Inspect
import TypedSql.Tree.Sql

/-!
The developer's view of the statements of each kind: the kind of the builder and the SQL.
-/

namespace TypedSql

open Inspect Text

/-- A query with its SQL and the type of its rows. -/
def Select.inspect {row : SqlType} (q : Select row) : String :=
  record "SelectStmt"
    [("sql", escaped q.statement.toSql), ("result_type", q.statement.resultType.tagWord)]

def Insert.inspect (q : Insert) : String :=
  record "InsertStmt" [("sql", escaped q.statement.toSql)]

def Update.inspect (q : Update) : String :=
  record "UpdateStmt" [("sql", escaped q.statement.toSql)]

def Delete.inspect (q : Delete) : String :=
  record "DeleteStmt" [("sql", escaped q.statement.toSql)]

end TypedSql
