import TypedSql.Calendar.Parser
import TypedSql.Decimal.Parser
import TypedSql.Json.Parser
import TypedSql.Value.Basic

/-!
The stored form of values, rows and types as JSON: a value is an object whose one key is the word
for its type, `NULL` and a type are that word alone, and a row is an array.
-/

namespace TypedSql

open Text

namespace JsonNumber

/-- The number as an integer, if it is written as one. -/
def integer? : JsonNumber → Option Int
  | natural n => some n.toNat
  | negative n => some n.toInt
  | real _ => none

/-- The number as a double. -/
def toDouble : JsonNumber → Double
  | natural n => Double.ofInt n.toNat
  | negative n => Double.ofInt n.toInt
  | real x => x

/-- The JSON number for an integer of 64 bits. -/
def ofInt64 (n : Int64) : JsonNumber :=
  if n < 0 then negative n else natural n.toUInt64

end JsonNumber

namespace Value

/-- The payload of a value as JSON. -/
def taggedPayload : Value → Json
  | null => .null
  | bool b => .bool b
  | smallInt n => .number (.ofInt64 n.toInt64)
  | int n => .number (.ofInt64 n.toInt64)
  | bigInt n => .number (.ofInt64 n)
  | double x => .number (.real x)
  | decimal d => .string (String.ofList d.toText)
  | text s => .string s
  | date d => .string (String.ofList d.toText)
  | time t => .string (String.ofList t.toText)
  | timestamp t => .string (String.ofList t.toText)
  | timestampTz t => .string (String.ofList t.toUtcText)
  | uuid u => .string (String.ofList u.toText)
  | json j => j

def toTagged (v : Value) : Json :=
  match v with
  | null => .string v.type.tagWord
  | v => .object [(v.type.tagWord, v.taggedPayload)]

/-- The integer of a JSON number that lies between the given limits. -/
def payloadInteger? (least greatest : Int) : Json → Option Int
  | .number n => do
    let i ← n.integer?
    if least ≤ i ∧ i ≤ greatest then some i else none
  | _ => none

/-- A decimal from its text, from an integer or from a double, which counts by its shortest
digits. -/
def payloadDecimal? : Json → Option Decimal
  | .string s => Decimal.ofText? s.toList
  | .number (.real x) => Decimal.ofPlainText? x.expanded
  | .number n => n.integer?.bind (Decimal.ofParts? · 0)
  | _ => none

/-- The string of a payload, read by the given reader. -/
def payloadText? {α : Type} (read : List Char → Option α) : Json → Option α
  | .string s => read s.toList
  | _ => none

/-- A value of the given type from its payload. The fields of a JSON payload are put in order. -/
def ofPayload? (type : SqlType) (payload : Json) : Option Value :=
  match type, payload with
  | .null, .null => some null
  | .bool, .bool b => some (bool b)
  | .smallInt, j =>
    (payloadInteger? Int16.minValue.toInt Int16.maxValue.toInt j).map (smallInt <| Int16.ofInt ·)
  | .int, j =>
    (payloadInteger? Int32.minValue.toInt Int32.maxValue.toInt j).map (int <| Int32.ofInt ·)
  | .bigInt, j =>
    (payloadInteger? Int64.minValue.toInt Int64.maxValue.toInt j).map (bigInt <| Int64.ofInt ·)
  | .double, .number n => some (double n.toDouble)
  | .decimal, j => (payloadDecimal? j).map decimal
  | .text, .string s => some (text s)
  | .date, j => (payloadText? Date.ofText? j).map date
  | .time, j => (payloadText? Time.ofText? j).map time
  | .timestamp, j => (payloadText? Timestamp.ofText? j).map timestamp
  | .timestampTz, j => (payloadText? Timestamp.ofOffsetText? j).map timestampTz
  | .uuid, j => (payloadText? Uuid.ofText? j).map uuid
  | .json, j => some (json j.normalize)
  | _, _ => none

/-- A value from its stored form, where `{"Null": null}` stands for `"Null"` too. The form is JSON
with its objects as they were written. -/
def ofTagged? : Json → Option Value
  | .string word => if word = SqlType.null.tagWord then some null else none
  | .object [(word, payload)] => do ofPayload? (← SqlType.ofTagWord? word) payload
  | _ => none

def toTaggedText (v : Value) : String :=
  String.ofList v.toTagged.toText

/-- A value from the text of its stored form. -/
def ofTaggedText? (s : String) : Option Value :=
  (Json.ofRawText? s.toList).bind ofTagged?

end Value

def Record.toTagged (r : Record) : Json :=
  .array (r.map Value.toTagged)

def Record.toTaggedText (r : Record) : String :=
  String.ofList (Record.toTagged r).toText

/-- A row from the text of its stored form. -/
def Record.ofTaggedText? (s : String) : Option Record := do
  match ← Json.ofRawText? s.toList with
  | .array items => items.mapM Value.ofTagged?
  | _ => none

/-- The text of the stored form of a type. -/
def SqlType.toTaggedText (t : SqlType) : String :=
  String.ofList (Json.string t.tagWord).toText

/-- A type from the text of its stored form: its word, alone or as the key of `null`. -/
def SqlType.ofTaggedText? (s : String) : Option SqlType := do
  match ← Json.ofRawText? s.toList with
  | .string word => SqlType.ofTagWord? word
  | .object [(word, .null)] => SqlType.ofTagWord? word
  | _ => none

end TypedSql
