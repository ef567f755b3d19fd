import TypedSql.Postgres.Cell
import TypedSql.Session.Backend
import TypedSql.Text.Blank
import TypedSql.Text.Numeral

/-!
Rows from a PostgreSQL server. A row is read column by column, and its first column that cannot be
read, for its type or for its bytes, is the error. A connection with its server is a backend.
-/

namespace TypedSql.Postgres

structure Column where
  name : String
  oid : Nat
  deriving DecidableEq, Repr

/-- The cells of a row, `none` for `NULL`. -/
abbrev Row := List (Option Cell)

/-- Makes a value of the cell of a column, which is the column of the given index. -/
abbrev Decoder := (index : Nat) → Column → Option Cell → SqlResult Value

/-- The decoder that reads the bytes of a cell as given. A cell without bytes is `NULL`. -/
def Decoder.of (read : (oid : Nat) → Cell → Option Value) : Decoder
  | _, _, none => .ok .null
  | index, column, some bytes =>
    match read column.oid bytes with
    | some v => .ok v
    | none => .error (.decode column.name (.malformedCell index))

namespace Driver

variable (d : Driver)

def decodeScalar (type : SqlType) : Decoder :=
  .of fun oid bytes => (d.scalar? type oid bytes).map (.ofScalar type)

/-- Numbers of single precision are read as such and then widened. -/
def decodeDouble : Decoder := fun index column cell =>
  if column.oid = singleOid then
    Decoder.of (fun _ bytes => (d.single? bytes).map fun bits => .double (.ofSingleBits bits))
      index column cell
  else d.decodeScalar .double index column cell

/-- The types that there is a decoder for. -/
def decoders : List (SqlType × Decoder) := [
  (.bool, d.decodeScalar .bool),
  (.smallInt, d.decodeScalar .smallInt),
  (.int, d.decodeScalar .int),
  (.bigInt, d.decodeScalar .bigInt),
  (.double, d.decodeDouble),
  (.decimal, d.decodeScalar .decimal),
  (.text, d.decodeScalar .text),
  (.date, d.decodeScalar .date),
  (.time, d.decodeScalar .time),
  (.timestamp, d.decodeScalar .timestamp),
  (.timestampTz, d.decodeScalar .timestampTz),
  (.uuid, d.decodeScalar .uuid),
  (.json, d.decodeScalar .json)]

/-- The value of the cell of a column, which is the column of the given index. -/
def readCell : Decoder := fun index column cell =>
  match (sqlType? column.oid).bind fun type => d.decoders.lookup type with
  | none => .error (.decode column.name (.unsupportedType (typeName column.oid)))
  | some decode => decode index column cell

/-- The values of the cells of a row, in the order of its columns. -/
def readRow (columns : List Column) (row : Row) : SqlResult Record :=
  (columns.zip row).zipIdx.mapM fun ((column, cell), index) => d.readCell index column cell

/-- All rows as records; the first that cannot be read decides. -/
def readRows (columns : List Column) (rows : List Row) : SqlResult (List Record) :=
  rows.mapM (d.readRow columns)

end Driver

/-- What a server answers: rows and a tag that says what was done, or a failure with its state. -/
inductive Answer where
  | done (columns : List Column) (rows : List Row) (tag : String)
  | failed (state : String)

/-- The number of rows that a tag reports: its last word if that is a number, else zero. -/
def affectedRows (tag : String) : Nat :=
  match (tag.splitOn " ").getLast? with
  | none => 0
  | some word =>
    let ds := match word.toList with
      | '+' :: cs => cs
      | cs => cs
    match Text.readDigits? ds with
    | some n => if n < UInt64.size then n else 0
    | none => 0

/-- A way to a server. -/
inductive Connection where
  /-- A connection whose server gives the same answer to all it is asked. -/
  | live (answer : Answer)
  /-- A pool of connections that gives out no more. -/
  | closedPool

/-- What a failure that the server reports reads as; its own words stay behind its state. -/
def serverFailure (state : String) : SqlError :=
  .backend { text := "db error", state := some state }

/-- The error of a closed pool. -/
def poolClosed : SqlError :=
  .pool "Pool has been closed"

/-- The rows that a connection answers a query with. -/
def Connection.query : Connection → SqlResult (List Record)
  | .live (.done columns rows _) => Driver.binary.readRows columns rows
  | .live (.failed state) => .error (serverFailure state)
  | .closedPool => .error poolClosed

/-- The number of rows that a connection answers a command with. -/
def Connection.execute : Connection → SqlResult Nat
  | .live (.done _ _ tag) => .ok (affectedRows tag)
  | .live (.failed state) => .error (serverFailure state)
  | .closedPool => .error poolClosed

def Connection.backend (c : Connection) : Backend Unit where
  query _ := Session.ofResult c.query
  execute _ := Session.ofResult c.execute

end TypedSql.Postgres
