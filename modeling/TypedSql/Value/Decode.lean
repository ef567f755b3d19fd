import TypedSql.Error
import TypedSql.Value.Scalar

/-!
Fetched values read as scalars of a wanted type. Integers widen, and narrow where they fit; integers
and decimals become doubles, integers decimals; a local timestamp and a moment stand for each
other; every other value is read only as its own type. What is wanted of a column can also be
whatever is there, or nothing where there is `NULL`. Rows are read column by column as tuples.
-/

namespace TypedSql

namespace Value

/-- The fault of a value that is not of the expected type. -/
def mismatch (expected : SqlType) (v : Value) : DecodeFault :=
  if v.isNull then .unexpectedNull expected else .wrongType expected v.type

/-- The integer of a value that holds one. -/
def integer? : Value → Option Int
  | smallInt n => some n.toInt
  | int n => some n.toInt
  | bigInt n => some n.toInt
  | _ => none

/-- The integer of a value, which must lie between the limits of the expected type. -/
def decodeInteger (expected : SqlType) (least greatest : Int) (v : Value) :
    Except DecodeFault Int :=
  match v.integer? with
  | some i => if least ≤ i ∧ i ≤ greatest then .ok i else .error (.outOfRange v.literal expected)
  | none => .error (mismatch expected v)

/-- A value read as a 64-bit integer. -/
def decodeInt64 (v : Value) : Except DecodeFault Int64 :=
  (decodeInteger .bigInt Int64.minValue.toInt Int64.maxValue.toInt v).map Int64.ofInt

/-- A value read as a scalar of the given type. -/
def decodeScalar : (expected : SqlType) → Value → Except DecodeFault expected.Scalar
  | .bool, bool b => .ok b
  | .smallInt, v =>
    (decodeInteger .smallInt Int16.minValue.toInt Int16.maxValue.toInt v).map Int16.ofInt
  | .int, v => (decodeInteger .int Int32.minValue.toInt Int32.maxValue.toInt v).map Int32.ofInt
  | .bigInt, v => v.decodeInt64
  | .double, double x => .ok x
  | .double, smallInt n => .ok (Double.ofInt n.toInt)
  | .double, int n => .ok (Double.ofInt n.toInt)
  | .double, bigInt n => .ok (Double.ofInt n.toInt)
  | .double, decimal d => .ok d.toDouble
  | .decimal, decimal d => .ok d
  | .decimal, smallInt n => .ok (Decimal.ofInt64 n.toInt64)
  | .decimal, int n => .ok (Decimal.ofInt64 n.toInt64)
  | .decimal, bigInt n => .ok (Decimal.ofInt64 n)
  | .text, text s => .ok s
  | .date, date d => .ok d
  | .time, time t => .ok t
  | .timestamp, timestamp t => .ok t
  | .timestamp, timestampTz t => .ok t
  | .timestampTz, timestampTz t => .ok t
  | .timestampTz, timestamp t => .ok t
  | .uuid, uuid u => .ok u
  | .json, json j => .ok j
  | expected, v => .error (mismatch expected v)

end Value

/-! ### Columns -/

/-- What is wanted of a column. -/
inductive Wanted where
  /-- A scalar of the type; `NULL` is refused. -/
  | scalar (type : SqlType)
  /-- Whatever is there. -/
  | value
  /-- What is wanted of a value that is not `NULL`, and nothing of `NULL`. -/
  | optional (wanted : Wanted)
  deriving DecidableEq, Repr

namespace Wanted

/-- What a column is read as. -/
def Content : Wanted → Type
  | scalar t => t.Scalar
  | value => Value
  | optional w => Option w.Content

def read : (w : Wanted) → Value → Except DecodeFault w.Content
  | scalar t, v => v.decodeScalar t
  | value, v => .ok v
  | optional _, .null => .ok none
  | optional w, v => (w.read v).map some

/-- The value that stands for what was read. -/
def toValue : (w : Wanted) → w.Content → Value
  | scalar t, x => .ofScalar t x
  | value, v => v
  | optional _, none => .null
  | optional w, some x => w.toValue x

end Wanted

/-- What a column is declared to be read as. -/
inductive ColumnType where
  | required (type : SqlType)
  | nullable (type : SqlType)
  | any
  deriving DecidableEq, Repr

def ColumnType.wanted : ColumnType → Wanted
  | required t => .scalar t
  | nullable t => .optional (.scalar t)
  | any => .value

namespace Value

/-- A value read as a column of the given type. -/
def decodeColumn (column : ColumnType) (v : Value) : Except DecodeFault Value :=
  (column.wanted.read v).map column.wanted.toValue

/-- A value read by itself; an error calls its column `?`. -/
def decode (column : ColumnType) (v : Value) : SqlResult Value :=
  (v.decodeColumn column).mapError (.decode "?")

end Value

/-! ### Rows -/

/-- Tuples of what is read of columns. -/
inductive Tuple : List Wanted → Type where
  | nil : Tuple []
  | cons {w : Wanted} {ws : List Wanted} (x : w.Content) (xs : Tuple ws) : Tuple (w :: ws)

/-- The row of the values that stand for the parts of a tuple. -/
def Tuple.toRecord : {ws : List Wanted} → Tuple ws → Record
  | [], nil => []
  | w :: _, cons x xs => w.toValue x :: xs.toRecord

namespace Record

/-- What the given reader makes of one column. An error carries the index of the column. -/
def readAt {α : Type} (read : Value → Except DecodeFault α) (r : Record) (index : Nat) :
    SqlResult α :=
  match r[index]? with
  | none => .error (.decode (toString index) .missingColumn)
  | some v => (read v).mapError (.decode (toString index))

def decodeAt (column : ColumnType) (r : Record) (index : Nat) : SqlResult Value :=
  readAt (Value.decodeColumn column) r index

/-- The columns from `index` on, the first failure deciding. -/
def readTupleFrom (r : Record) (index : Nat) : (ws : List Wanted) → SqlResult (Tuple ws)
  | [] => .ok .nil
  | w :: ws => do
    let x ← readAt w.read r index
    let xs ← r.readTupleFrom (index + 1) ws
    return .cons x xs

/-- The first columns of a row; further columns are passed over. -/
def readTuple (r : Record) (ws : List Wanted) : SqlResult (Tuple ws) :=
  r.readTupleFrom 0 ws

end Record

/-- What a row is read as. -/
inductive RowType where
  /-- The row as it is. -/
  | whole
  /-- The first columns, each as a type of its own; further columns are passed over. -/
  | columns (types : List ColumnType)
  deriving DecidableEq, Repr

/-- A row read as the given type: its values, one for each column wanted. -/
def Record.decode (type : RowType) (r : Record) : SqlResult Record :=
  match type with
  | .whole => .ok r
  | .columns types => (r.readTuple (types.map ColumnType.wanted)).map Tuple.toRecord

/-- Rows read one after another; the first that fails decides. -/
def decodeRows (type : RowType) (rows : List Record) : SqlResult (List Record) :=
  rows.mapM (Record.decode type)

end TypedSql
