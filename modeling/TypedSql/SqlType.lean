/-!
The type tags that expressions, values and rows carry, with the two relations the checks of
operators rest on: which types may meet in a comparison, and how arithmetic widens.
-/

namespace TypedSql

inductive SqlType where
  /-- The type of a bare `NULL`. -/
  | null
  | bool
  | smallInt
  | int
  | bigInt
  | double
  | decimal
  | text
  | date
  | time
  | timestamp
  | timestampTz
  | uuid
  | json
  /-- A row of several columns. -/
  | record
  /-- No result, as for a statement that only changes rows. -/
  | unit
  deriving DecidableEq, Repr, Inhabited

namespace SqlType

def all : List SqlType :=
  [null, bool, smallInt, int, bigInt, double, decimal, text, date, time, timestamp, timestampTz,
    uuid, json, record, unit]

/-- The name used in messages. -/
def name : SqlType → String
  | null => "null"
  | bool => "bool"
  | smallInt => "smallint"
  | int => "int"
  | bigInt => "bigint"
  | double => "double"
  | decimal => "decimal"
  | text => "text"
  | date => "date"
  | time => "time"
  | timestamp => "timestamp"
  | timestampTz => "timestamptz"
  | uuid => "uuid"
  | json => "json"
  | record => "record"
  | unit => "unit"

/-- The word that tags a value of the type in its stored form. -/
def tagWord : SqlType → String
  | null => "Null"
  | bool => "Bool"
  | smallInt => "SmallInt"
  | int => "Int"
  | bigInt => "BigInt"
  | double => "Double"
  | decimal => "Decimal"
  | text => "Text"
  | date => "Date"
  | time => "Time"
  | timestamp => "Timestamp"
  | timestampTz => "TimestampTz"
  | uuid => "Uuid"
  | json => "Json"
  | record => "Record"
  | unit => "Unit"

/-- The type a tag word stands for; case counts. -/
def ofTagWord? (word : String) : Option SqlType :=
  all.find? (·.tagWord == word)

def ofName? (name : String) : Option SqlType :=
  all.find? (·.name == name)

def isNumeric : SqlType → Bool
  | smallInt | int | bigInt | double | decimal => true
  | _ => false

def isTextual : SqlType → Bool
  | text => true
  | _ => false

def isTemporal : SqlType → Bool
  | date | time | timestamp | timestampTz => true
  | _ => false

/-- The types that name a day. -/
def isDatelike : SqlType → Bool
  | date | timestamp | timestampTz => true
  | _ => false

/-- Whether values of the two types may meet in a comparison: equal types, `NULL` with anything,
numbers with numbers, days with days. -/
def comparable (a b : SqlType) : Bool :=
  a == b || a == null || b == null || (a.isNumeric && b.isNumeric) ||
    (a.isDatelike && b.isDatelike)

/-- The place of a numeric type in the order of widening; all other types come first. -/
def width : SqlType → Nat
  | smallInt => 1
  | int => 2
  | bigInt => 3
  | decimal => 4
  | double => 5
  | _ => 0

/-- The type of an arithmetic result: the wider operand type, the left one when `NULL` is on the
right. -/
def widen (a b : SqlType) : SqlType :=
  if b = null ∨ b.width ≤ a.width then a else b

@[simp] theorem ofTagWord?_tagWord (t : SqlType) : ofTagWord? t.tagWord = some t := by
  cases t <;> decide

end SqlType

end TypedSql
