import TypedSql.Calendar.Timestamp
import TypedSql.Decimal.Basic
import TypedSql.Double.Printer
import TypedSql.Json.Printer
import TypedSql.SqlType
import TypedSql.Text.Quoted
import TypedSql.Uuid

/-!
SQL values and the literals they are written as. A literal is either bare, like a number, or a
payload between quotes; `Value.form` says which, so that what stands inside the quotes of a
text can be told from what the text says itself.
-/

namespace TypedSql

inductive Value where
  | null
  | bool (b : Bool)
  | smallInt (n : Int16)
  | int (n : Int32)
  | bigInt (n : Int64)
  | double (x : Double)
  | decimal (d : Decimal)
  | text (s : String)
  | date (d : Date)
  | time (t : Time)
  /-- A local date and time. -/
  | timestamp (t : Timestamp)
  /-- A moment, in universal time. -/
  | timestampTz (t : Timestamp)
  | uuid (u : Uuid)
  | json (j : Json)
  deriving Repr, Inhabited

/-- A row, as a list of the values of its columns. -/
abbrev Record := List Value

/-- How a literal is written. -/
inductive LiteralForm where
  | bare (text : List Char)
  | quoted (payload : List Char)
  deriving DecidableEq, Repr

def LiteralForm.text : LiteralForm → List Char
  | bare text => text
  | quoted payload => Text.quote payload

namespace Value

open Text

def type : Value → SqlType
  | null => .null
  | bool _ => .bool
  | smallInt _ => .smallInt
  | int _ => .int
  | bigInt _ => .bigInt
  | double _ => .double
  | decimal _ => .decimal
  | text _ => .text
  | date _ => .date
  | time _ => .time
  | timestamp _ => .timestamp
  | timestampTz _ => .timestampTz
  | uuid _ => .uuid
  | json _ => .json

def isNull : Value → Bool
  | null => true
  | _ => false

/-- A double: bare if it is finite, else one of three quoted words. -/
def doubleForm (x : Double) : LiteralForm :=
  if x.isFinite then .bare (x.render .sql)
  else if x.isNaN then .quoted "NaN".toList
  else if x.isNegative then .quoted "-Infinity".toList
  else .quoted "Infinity".toList

/-- How a value is written as a literal. -/
def form : Value → LiteralForm
  | null => .bare "NULL".toList
  | bool true => .bare "true".toList
  | bool false => .bare "false".toList
  | smallInt n => .bare (signedDigits n.toInt)
  | int n => .bare (signedDigits n.toInt)
  | bigInt n => .bare (signedDigits n.toInt)
  | double x => doubleForm x
  | decimal d => .bare d.toText
  | text s => .quoted s.toList
  | date d => .quoted d.toText
  | time t => .quoted t.toText
  | timestamp t => .quoted t.toText
  | timestampTz t => .quoted t.toUtcText
  | uuid u => .quoted u.toText
  | json j => .quoted j.toText

def literalText (v : Value) : List Char :=
  v.form.text

/-- The literal as it stands in SQL. -/
def literal (v : Value) : String :=
  String.ofList v.literalText

theorem isNull_iff (v : Value) : v.isNull = true ↔ v = null := by
  cases v <;> simp [isNull]

theorem type_eq_null_iff (v : Value) : v.type = .null ↔ v = null := by
  cases v <;> simp [type]

end Value

end TypedSql
