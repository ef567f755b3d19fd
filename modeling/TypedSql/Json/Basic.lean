import TypedSql.Double.Basic

/-!
JSON documents. A number is a natural number below `2 ^ 64`, a negative one down to `-2 ^ 63`, or a
double, and the three are different even where they denote the same quantity. The fields of an
object are kept in the order of their keys, each key once.
-/

namespace TypedSql

inductive JsonNumber where
  | natural (n : UInt64)
  | negative (n : Int64)
  | real (x : Double)
  deriving DecidableEq, Repr, Inhabited

inductive Json where
  | null
  | bool (b : Bool)
  | number (n : JsonNumber)
  | string (s : String)
  | array (items : List Json)
  | object (fields : List (String × Json))
  deriving Repr, Inhabited

namespace JsonNumber

/-- Equality of numbers: doubles as quantities, so zeros of either sign are equal. -/
def same : JsonNumber → JsonNumber → Bool
  | natural a, natural b => a == b
  | negative a, negative b => a == b
  | real a, real b => a.numericEq b
  | _, _ => false

end JsonNumber

namespace Json

mutual

/-- Equality of documents, where numbers are equal as `JsonNumber.same` has it. -/
def same : Json → Json → Bool
  | null, null => true
  | bool a, bool b => a == b
  | number a, number b => a.same b
  | string a, string b => a == b
  | array a, array b => sameItems a b
  | object a, object b => sameFields a b
  | _, _ => false

def sameItems : List Json → List Json → Bool
  | [], [] => true
  | a :: as, b :: bs => same a b && sameItems as bs
  | _, _ => false

/-- Equality of lists of fields, key by key. -/
def sameFields : List (String × Json) → List (String × Json) → Bool
  | [], [] => true
  | (k, a) :: as, (l, b) :: bs => k == l && same a b && sameFields as bs
  | _, _ => false

end

/-- The fields with one more: put where its key belongs, or in the place of the field that has its
key. -/
def insertField (key : String) (value : Json) : List (String × Json) → List (String × Json)
  | [] => [(key, value)]
  | (k, v) :: fields =>
    if key < k then (key, value) :: (k, v) :: fields
    else if key = k then (key, value) :: fields
    else (k, v) :: insertField key value fields

mutual

/-- The document with the fields of every object in order, of several with one key the last. -/
def normalize : Json → Json
  | null => null
  | bool b => bool b
  | number n => number n
  | string s => string s
  | array items => array (normalizeItems items)
  | object fields => object (normalizeFields fields [])

def normalizeItems : List Json → List Json
  | [] => []
  | j :: js => normalize j :: normalizeItems js

/-- The fields normalized and put one by one into those that are there already. -/
def normalizeFields : List (String × Json) → List (String × Json) → List (String × Json)
  | [], acc => acc
  | (k, j) :: fields, acc => normalizeFields fields (insertField k (normalize j) acc)

end

end Json

end TypedSql
