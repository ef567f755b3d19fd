import TypedSql.Duration
import TypedSql.Expr.Operator
import TypedSql.SqlType
import TypedSql.Statement.Kind
import TypedSql.Text.Escaped

/-!
What can go wrong when statements are built, checked and run. Each error is its cause; its wording
is made in `SqlError.message` and nowhere else.
-/

namespace TypedSql

/-- What a name names. -/
inductive NameRole where
  | table
  | tableAlias
  | column
  | columnAlias
  | function
  | insertColumn
  | setColumn
  | returningColumn
  deriving DecidableEq, Repr

def NameRole.describe : NameRole → String
  | table => "table name"
  | tableAlias => "table alias"
  | column => "column name"
  | columnAlias => "column alias"
  | function => "function name"
  | insertColumn => "INSERT column name"
  | setColumn => "SET column name"
  | returningColumn => "RETURNING column name"

/-- Why an argument is refused. -/
inductive ArgumentFault where
  | emptyName (role : NameRole)
  | nulInName (role : NameRole)
  | unexpectedOperand (op : Operator)
  | missingOperand (op : Operator)
  | notSubquery (op : Operator)
  | notPredicate (op : Operator)
  | emptyColumnList
  | emptyRow
  | negativeCount (clause : String) (count : Int)
  | pageTooSmall (page : Int)
  | perPageTooSmall (perPage : Int)
  | pageOverflow
  | notMilliseconds (key raw : String)
  | other (text : String)
  deriving DecidableEq, Repr

def ArgumentFault.text : ArgumentFault → String
  | emptyName role => role.describe ++ " must not be empty"
  | nulInName role => role.describe ++ " cannot contain NUL character"
  | unexpectedOperand op => op.symbol ++ " does not take a right operand"
  | missingOperand op => op.symbol ++ " requires a right operand"
  | notSubquery op => op.symbol ++ " requires a subquery as its right operand"
  | notPredicate op => op.symbol ++ " is not a predicate operator"
  | emptyColumnList => "column list must not be empty"
  | emptyRow => "value row must not be empty"
  | negativeCount clause n => clause ++ " must be non-negative, got " ++ toString n
  | pageTooSmall n => "page must be >= 1, got " ++ toString n
  | perPageTooSmall n => "per_page must be >= 1, got " ++ toString n
  | pageOverflow => "page offset overflows"
  | notMilliseconds key raw => key ++ " must be milliseconds, got " ++ Text.escaped raw
  | other text => text

/-- Why a statement cannot be run as it is. -/
inductive StateFault where
  /-- An update that sets nothing, with its table if it has one. -/
  | emptyUpdate (table : Option String)
  | missingReturning
  | other (text : String)
  deriving DecidableEq, Repr

def StateFault.text : StateFault → String
  | emptyUpdate table => "UPDATE " ++ table.getD "?" ++ " has no SET assignments"
  | missingReturning => "execute_insert requires RETURNING to read generated keys"
  | other text => text

/-- Why a value could not be read from a column. -/
inductive DecodeFault where
  | unexpectedNull (expected : SqlType)
  | wrongType (expected found : SqlType)
  | outOfRange (literal : String) (expected : SqlType)
  | missingColumn
  | unsupportedType (name : String)
  | malformedCell (column : Nat)
  | other (text : String)
  deriving DecidableEq, Repr

def DecodeFault.text : DecodeFault → String
  | unexpectedNull expected => "unexpected NULL for " ++ expected.name
  | wrongType expected found => "expected " ++ expected.name ++ ", found " ++ found.name
  | outOfRange literal expected => "value " ++ literal ++ " out of range for " ++ expected.name
  | missingColumn => "column index out of range"
  | unsupportedType name => "unsupported column type " ++ name
  | malformedCell column => "error deserializing column " ++ toString column
  | other text => text

/-- What was looked for and not there. -/
inductive Absence where
  | countRow
  | expectedRow
  | other (text : String)
  deriving DecidableEq, Repr

def Absence.text : Absence → String
  | countRow => "COUNT query returned no rows"
  | expectedRow => "Expected one row, got none"
  | other text => text

/-- A failure that the backend reports: its text, and its five-character state if it has one. -/
structure BackendFault where
  text : String
  state : Option String := none
  deriving DecidableEq, Repr

inductive SqlError where
  /-- An argument that no statement or expression can take. -/
  | invalidArgument (fault : ArgumentFault)
  /-- An operator on operands of types that do not go together. -/
  | typeMismatch (operator : String) (left right : SqlType)
  /-- A row of another length than the column list. -/
  | arityMismatch (expected found : Nat)
  /-- A clause or an operation that the kind of statement does not have. -/
  | unsupportedOperation (kind : StatementKind) (operation : String)
  /-- A kind of expression that a visitor does not handle. -/
  | unsupportedExpression (variety : String)
  /-- A statement that cannot be run. -/
  | invalidState (fault : StateFault)
  | backend (fault : BackendFault)
  | decode (column : String) (fault : DecodeFault)
  | notFound (absence : Absence)
  | tooManyRows (expected found : Nat)
  | timeout (limit : Duration)
  | connection (text : String)
  | pool (text : String)
  deriving DecidableEq, Repr

namespace SqlError

/-- The wording of an error. -/
def message : SqlError → String
  | invalidArgument fault => "Invalid argument: " ++ fault.text
  | typeMismatch operator left right =>
    "Type mismatch: " ++ operator ++ " cannot be applied to " ++ left.name ++ " and " ++ right.name
  | arityMismatch expected found =>
    "Number of values (" ++ toString found ++ ") must match number of columns (" ++
      toString expected ++ ")"
  | unsupportedOperation kind operation =>
    operation ++ " is not supported on " ++ kind.keyword ++ " statements"
  | unsupportedExpression variety => "Unsupported expression: " ++ variety
  | invalidState fault => "Invalid state: " ++ fault.text
  | backend fault => "Backend error: " ++ fault.text
  | decode column fault => "Decode error on column '" ++ column ++ "': " ++ fault.text
  | notFound absence => "Not found: " ++ absence.text
  | tooManyRows expected found =>
    "Expected " ++ toString expected ++ " row(s), got " ++ toString found
  | timeout limit => "Query timeout after " ++ limit.text
  | connection text => "Connection error: " ++ text
  | pool text => "Pool error: " ++ text

def isNotFound : SqlError → Bool
  | notFound _ => true
  | _ => false

def isTimeout : SqlError → Bool
  | timeout _ => true
  | _ => false

def isBackend : SqlError → Bool
  | backend _ => true
  | _ => false

/-- The text of the failure that the backend reported, if this is one. -/
def backendText? : SqlError → Option String
  | backend fault => some fault.text
  | _ => none

end SqlError

abbrev SqlResult (α : Type) := Except SqlError α

end TypedSql
