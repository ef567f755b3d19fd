import TypedSql.Value.Basic

/-!
What values hold, apart from their tags. A type tag stands for a type of scalars, and a scalar of
the type makes a value that carries the tag.
-/

namespace TypedSql

/-- The scalars of a type. A bare `NULL` holds none, and rows and missing results are no values. -/
def SqlType.Scalar : SqlType → Type
  | .bool => Bool
  | .smallInt => Int16
  | .int => Int32
  | .bigInt => Int64
  | .double => Double
  | .decimal => Decimal
  | .text => String
  | .date => Date
  | .time => Time
  | .timestamp | .timestampTz => Timestamp
  | .uuid => Uuid
  | .json => Json
  | .null | .record | .unit => Empty

/-- The value that holds a scalar. -/
def Value.ofScalar : (t : SqlType) → t.Scalar → Value
  | .bool, b => bool b
  | .smallInt, n => smallInt n
  | .int, n => int n
  | .bigInt, n => bigInt n
  | .double, x => double x
  | .decimal, d => decimal d
  | .text, s => text s
  | .date, d => date d
  | .time, t => time t
  | .timestamp, t => timestamp t
  | .timestampTz, t => timestampTz t
  | .uuid, u => uuid u
  | .json, j => json j
  | .null, x | .record, x | .unit, x => Empty.elim x

@[simp] theorem Value.type_ofScalar (t : SqlType) (x : t.Scalar) : (ofScalar t x).type = t := by
  cases t with
  | null | record | unit => cases x
  | _ => rfl

theorem Value.ofScalar_ne_null (t : SqlType) (x : t.Scalar) : ofScalar t x ≠ null := by
  cases t with
  | null | record | unit => cases x
  | _ => exact nofun

end TypedSql
