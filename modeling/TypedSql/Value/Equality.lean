import TypedSql.Value.Basic

/-!
Equality of values and what of a value goes into its hash. Doubles are equal when their bits are,
decimals when they are the same number, JSON documents part by part with doubles as quantities;
all else is equal only to itself.
-/

namespace TypedSql

inductive HashDatum where
  | tag (name : String)
  | integer (i : Int)
  | text (s : String)
  | flag (b : Bool)
  /-- The length of a list, ahead of its items. -/
  | length (n : Nat)
  deriving DecidableEq, Repr

namespace Value

def same : Value → Value → Bool
  | null, null => true
  | bool a, bool b => a == b
  | smallInt a, smallInt b => a == b
  | int a, int b => a == b
  | bigInt a, bigInt b => a == b
  | double a, double b => a == b
  | decimal a, decimal b => a.numericEq b
  | text a, text b => a == b
  | date a, date b => a == b
  | time a, time b => a == b
  | timestamp a, timestamp b => a == b
  | timestampTz a, timestampTz b => a == b
  | uuid a, uuid b => a == b
  | json a, json b => a.same b
  | _, _ => false

instance : BEq Value := ⟨same⟩

def dateHash (d : Date) : List HashDatum :=
  [.integer d.year, .integer d.month, .integer d.day]

def timeHash (t : Time) : List HashDatum :=
  [.integer t.secondOfDay, .integer t.nanosecond]

/-- The payload's part of a hash. A JSON document goes in by its text. -/
def payloadHash : Value → List HashDatum
  | null => []
  | bool b => [.flag b]
  | smallInt n => [.integer n.toInt]
  | int n => [.integer n.toInt]
  | bigInt n => [.integer n.toInt]
  | double x => [.integer x.bits.toNat]
  | decimal d => [.integer d.key.1, .integer d.key.2]
  | text s => [.text s]
  | date d => dateHash d
  | time t => timeHash t
  | timestamp t => dateHash t.date ++ timeHash t.time
  | timestampTz t => dateHash t.date ++ timeHash t.time
  | uuid u => [.integer u.bits.toNat]
  | json j => [.text (String.ofList j.toText)]

/-- What goes into the hash of a value: its kind and its payload. -/
def hashData (v : Value) : List HashDatum :=
  .tag v.type.tagWord :: v.payloadHash

end Value

def Record.hashData (r : Record) : List HashDatum :=
  .length r.length :: r.flatMap Value.hashData

/-- The number of elements of a hash set filled with the given items in order: an item is new
unless one that is equal to it and has the same hash came before. -/
def distinctCount {α : Type} (same : α → α → Bool) (hash : α → List HashDatum) (items : List α) :
    Nat :=
  let add := fun (kept : List α) (x : α) =>
    if kept.any fun y => hash y == hash x && same y x then kept else kept ++ [x]
  (items.foldl add []).length

end TypedSql
