/-!
The words that distinguish statements and their clauses: the four kinds of statement, the kinds of
join, the directions of a sort.
-/

namespace TypedSql

inductive StatementKind where
  | select
  | insert
  | update
  | delete
  deriving DecidableEq, Repr, Inhabited

def StatementKind.keyword : StatementKind → String
  | select => "SELECT"
  | insert => "INSERT"
  | update => "UPDATE"
  | delete => "DELETE"

/-- The kind whose statements begin with the given keyword. -/
def StatementKind.ofKeyword? (keyword : String) : Option StatementKind :=
  [select, insert, update, delete].find? (·.keyword == keyword)

/-- The kind's name in the developer's view of a statement. -/
def StatementKind.tagWord : StatementKind → String
  | select => "Select"
  | insert => "Insert"
  | update => "Update"
  | delete => "Delete"

/-- Which rows without a partner a join keeps. -/
inductive JoinKind where
  | inner
  | left
  | right
  deriving DecidableEq, Repr, Inhabited

def JoinKind.keyword : JoinKind → String
  | inner => "INNER JOIN"
  | left => "LEFT JOIN"
  | right => "RIGHT JOIN"

def JoinKind.tagWord : JoinKind → String
  | inner => "Inner"
  | left => "Left"
  | right => "Right"

inductive Direction where
  | ascending
  | descending
  deriving DecidableEq, Repr, Inhabited

def Direction.keyword : Direction → String
  | ascending => "ASC"
  | descending => "DESC"

def Direction.tagWord : Direction → String
  | ascending => "Asc"
  | descending => "Desc"

end TypedSql
