import TypedSql.Error
import TypedSql.Json.Parser
import TypedSql.Postgres.Type
import TypedSql.Value.Scalar

/-!
The binary form of PostgreSQL values. Numbers are big-endian and of exactly the size of their
type, days and moments count from the beginning of the year 2000, and a decimal is a run of digits
to the base ten thousand.
-/

namespace TypedSql.Postgres

/-- The bytes of a cell. -/
abbrev Cell := List UInt8

/-- The number that bytes denote, the first byte the most significant. -/
def unsigned (bytes : Cell) : Nat :=
  bytes.foldl (fun n b => 256 * n + b.toNat) 0

/-- The number that bytes denote in two's complement. -/
def signed (bytes : Cell) : Int :=
  Int.bmod (unsigned bytes) (Nat.pow 256 bytes.length)

/-- The signed number of a cell of exactly the given size. -/
def signedOfSize? (size : Nat) (bytes : Cell) : Option Int :=
  if bytes.length = size then some (signed bytes) else none

/-- The unsigned number of a cell of exactly the given size. -/
def unsignedOfSize? (size : Nat) (bytes : Cell) : Option Nat :=
  if bytes.length = size then some (unsigned bytes) else none

def text? (bytes : Cell) : Option String :=
  String.fromUTF8? ⟨bytes.toArray⟩

/-- The first day that days and moments are counted from. -/
def epoch : Date := { year := 2000, month := 1, day := 1 }

/-- The time so many microseconds after midnight, where a day follows upon the day before. -/
def timeOfMicroseconds? (microseconds : Int) : Option Time :=
  let ofDay := (microseconds % 86400000000).toNat
  Time.ofSecondOfDay? (ofDay / 1000000) (ofDay % 1000000 * 1000)

/-! ### Decimals -/

/-- The parts of a decimal: the power of ten thousand of its first group, the sign, the number of
digits to show behind the point, and the groups of four digits. -/
structure Numeric where
  weight : Int
  negative : Bool
  scale : Nat
  groups : List Nat

/-- So many numbers of two bytes. Bytes behind them are passed over. -/
def shorts? : Nat → Cell → Option (List Nat)
  | 0, _ => some []
  | n + 1, a :: b :: bytes => (shorts? n bytes).map (unsigned [a, b] :: ·)
  | _ + 1, _ => none

/-- The parts of a decimal from its cell. Signs from `0xC000` on mark what is not a number or not
finite, which have no decimal. -/
def numeric? (bytes : Cell) : Option Numeric := do
  match ← shorts? 4 bytes with
  | [count, weight, sign, scale] =>
    let groups ← shorts? count (bytes.drop 8)
    if 0xC000 ≤ sign then none
    else return { weight := Int.bmod weight 65536, negative := sign == 0x4000, scale, groups }
  | _ => none

/-- What a group adds, as a mantissa and a scale. Digits up to the 28th behind the point count; the
group after them only rounds. -/
def groupTerm (exponent : Int) (group : Nat) : Nat × Nat :=
  if 0 ≤ exponent then (group * Nat.pow 10 exponent.natAbs, 0)
  else if exponent.natAbs ≤ 28 then (group, exponent.natAbs)
  else if exponent.natAbs = 32 ∧ 5000 ≤ group then (1, 28)
  else (0, 0)

/-- A number with as many of its places as there is room for, a half to the even neighbour. None if
the whole part alone is too large. -/
def roundToRoom? (n dropped : Nat) : Nat → Option (Nat × Nat)
  | 0 =>
    let mantissa := Double.roundHalfEven n (Nat.pow 10 dropped)
    if mantissa < Decimal.limit then some (mantissa, 0) else none
  | scale + 1 =>
    let mantissa := Double.roundHalfEven n (Nat.pow 10 dropped)
    if mantissa < Decimal.limit then some (mantissa, scale + 1)
    else roundToRoom? n (dropped + 1) scale

/-- The sum of two numbers given by mantissa and scale. -/
def addTerms? (a b : Nat × Nat) : Option (Nat × Nat) :=
  let scale := max a.2 b.2
  roundToRoom? (a.1 * Nat.pow 10 (scale - a.2) + b.1 * Nat.pow 10 (scale - b.2)) 0 scale

/-- How many groups of the whole part are left out because they and all behind them are zero. -/
def Numeric.omitted (n : Numeric) : Int :=
  n.weight + 1 - n.groups.length

/-- The number without its sign, the groups added one after the other. None if it is too large, or
if the power of ten for the groups left out is, even of a zero. -/
def Numeric.magnitude? (n : Numeric) : Option (Nat × Nat) :=
  if 28 < 4 * n.omitted then none
  else
    n.groups.zipIdx.foldlM
      (fun total entry => addTerms? total (groupTerm (4 * (n.weight - (entry.2 : Nat))) entry.1))
      (0, 0)

/-- The number at the wanted scale, or at the largest below it that has room. -/
def rescale (mantissa scale : Nat) : Nat → Nat × Nat
  | 0 => (Decimal.toScale mantissa scale 0, 0)
  | wanted + 1 =>
    let m := Decimal.toScale mantissa scale (wanted + 1)
    if m < Decimal.limit then (m, wanted + 1) else rescale mantissa scale wanted

def decimal? (bytes : Cell) : Option Decimal := do
  let n ← numeric? bytes
  let (mantissa, scale) ← n.magnitude?
  let (mantissa, scale) := rescale mantissa scale (min n.scale 28)
  Decimal.ofSigned? n.negative mantissa scale

/-! ### Scalars -/

def json? (oid : Nat) (bytes : Cell) : Option Json := do
  let bytes ←
    if oid = binaryJsonOid then
      match bytes with
      | 1 :: bytes => some bytes
      | _ => none
    else some bytes
  Json.ofText? (← text? bytes).toList

/-- The scalar of the given type that a cell holds. The identifier is that of the column's type. -/
def scalar? : (type : SqlType) → (oid : Nat) → Cell → Option type.Scalar
  | .bool, _, bytes => (unsignedOfSize? 1 bytes).map (· != 0)
  | .smallInt, _, bytes => (signedOfSize? 2 bytes).map Int16.ofInt
  | .int, _, bytes => (signedOfSize? 4 bytes).map Int32.ofInt
  | .bigInt, _, bytes => (signedOfSize? 8 bytes).map Int64.ofInt
  | .double, _, bytes => (unsignedOfSize? 8 bytes).map fun n => ⟨UInt64.ofNat n⟩
  | .decimal, _, bytes => decimal? bytes
  | .text, _, bytes => text? bytes
  | .date, _, bytes => (signedOfSize? 4 bytes).bind epoch.addDays?
  | .time, _, bytes => (signedOfSize? 8 bytes).bind timeOfMicroseconds?
  | .timestamp, _, bytes | .timestampTz, _, bytes =>
    (signedOfSize? 8 bytes).bind (Timestamp.ofMicroseconds? epoch)
  | .uuid, _, bytes => if bytes.length = 16 then some (Uuid.ofBytes bytes) else none
  | .json, oid, bytes => json? oid bytes
  | .null, _, _ | .record, _, _ | .unit, _, _ => none

/-- The bits of the single-precision number that a cell holds. -/
def single? (bytes : Cell) : Option UInt32 :=
  (unsignedOfSize? 4 bytes).map UInt32.ofNat

/-- What reads the bytes of cells: for each type of scalar, and for numbers of single precision. -/
structure Driver where
  scalar? : (type : SqlType) → (oid : Nat) → Cell → Option type.Scalar
  single? : Cell → Option UInt32

/-- The driver for the binary form. -/
def Driver.binary : Driver := ⟨Postgres.scalar?, Postgres.single?⟩

end TypedSql.Postgres
