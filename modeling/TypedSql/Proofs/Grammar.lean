import TypedSql.Proofs.Reader
import TypedSql.Proofs.Shape

/-!
A reader of SQL as trees write it. It gives the shape of the tree: the kind of a statement and its
clauses, the nesting of operators, and each literal as the text it is written as.
-/

namespace TypedSql

open Text Reader

/-- The characters that end a word. -/
def isDelimiter (c : Char) : Bool :=
  c == ' ' || c == ',' || c == '(' || c == ')'

/-- The characters that the name of a table or of a column starts with. -/
def isNameHead (c : Char) : Bool :=
  c.isLower || c == '_'

namespace Reader

def word : Reader (List Char) :=
  fun text => some (text.takeWhile (!isDelimiter ·), text.dropWhile (!isDelimiter ·))

def name : Reader String := do
  let w ← word
  return String.ofList w

def number : Reader Nat :=
  fun text => some (digitsValue (text.takeWhile Char.isDigit), text.dropWhile Char.isDigit)

/-- The payload of a string behind its opening quote, and what follows the string. -/
def payload : List Char → Option (List Char × List Char)
  | [] => none
  | '\'' :: '\'' :: text => (payload text).map fun p => ('\'' :: p.1, p.2)
  | '\'' :: text => some ([], text)
  | c :: text => (payload text).map fun p => (c :: p.1, p.2)

def binaryOp : Reader Operator :=
  fun text => Operator.all.findSome? fun op =>
    if op.isUnary then none
    else (after? (' ' :: (op.symbol.toList ++ [' '])) text).map (op, ·)

/-- Reads an operator behind its operand, if there is one. -/
def suffix : Reader (Option Operator) := do
  if ← accept " IS NULL" then
    return some .isNull
  else if ← accept " IS NOT NULL" then
    return some .isNotNull
  else
    return none

def tableAlias : Reader (Option String)
  | ' ' :: c :: text =>
    if isNameHead c then (name (c :: text)).map fun p => (some p.1, p.2)
    else some (none, ' ' :: c :: text)
  | text => some (none, text)

def direction : Reader Direction := do
  if ← accept " ASC" then
    return .ascending
  else
    expect " DESC"
    return .descending

def table : Reader Table := do
  let n ← name
  let aliasName ← tableAlias
  return ⟨n, aliasName⟩

end Reader

/-- An operand under the operators that follow it, the innermost first. -/
def Shape.withSuffixes (x : Shape) (ops : List Operator) : Shape :=
  ops.foldl (fun x op => .unary op x) x

/-- The readers of the parts of a tree. An operand is an expression as it stands next to an
operator between operands. -/
structure Readers where
  operand : Reader Shape
  statement : Reader StatementShape

namespace Readers

/-! The readers take the readers of the parts and a number that no loop goes beyond. -/

variable (parts : Readers) (n : Nat)

def expr : Reader Shape := do
  let x ← parts.operand
  let ops ← many n suffix
  return x.withSuffixes ops

/-- Reads what is left of an operand behind an opening parenthesis: an operator with its operands,
or an operand with operators behind it. -/
def parenthesized : Reader Shape := do
  let x ← parts.operand
  let ops ← many n suffix
  if ops.isEmpty then
    let op ← binaryOp
    let y ← parts.operand
    expect ")"
    return .binary op x y
  else
    expect ")"
    return x.withSuffixes ops

/-- Reads the arguments of a function behind the opening parenthesis. -/
def arguments : Reader (List Shape) := do
  if ← accept ")" then
    return []
  else
    let es ← commas n (parts.expr n)
    expect ")"
    return es

def branch : Reader (Shape × Shape) := do
  let c ← parts.expr n
  expect " THEN "
  let r ← parts.expr n
  return (c, r)

def caseWhen : Reader Shape := do
  let branches ← many n (clause " WHEN " (parts.branch n))
  let otherwise ← clause " ELSE " (parts.expr n)
  expect " END"
  return .caseWhen branches otherwise

/-- Reads what is left of an operand that starts with the given word. -/
def behindWord (w : List Char) : Reader Shape := do
  if ← accept "(" then
    let es ← parts.arguments n
    return .call (String.ofList w) es
  else if w = "CASE".toList then
    parts.caseWhen n
  else if w.head?.any isNameHead && w.contains '.' then
    let aliasName ← clause " AS " name
    return .column (String.ofList (w.takeWhile (· ≠ '.')))
      (String.ofList ((w.dropWhile (· ≠ '.')).drop 1)) aliasName
  else
    return .literal w

def nextOperand : Reader Shape := do
  if ← ahead "(SELECT " then
    expect "("
    let s ← parts.statement
    expect ")"
    return .subquery s
  else if ← accept "(" then
    parts.parenthesized n
  else if ← accept "'" then
    let p ← (payload : Reader (List Char))
    return .literal (quote p)
  else
    let w ← word
    parts.behindWord n w

/-! Statements -/

def projection : Reader (List Shape) := do
  if ← accept "*" then
    return []
  else
    commas n (parts.expr n)

def join : Reader (Option (Join Shape)) := do
  if ← accept " INNER JOIN " then
    let j ← joined .inner
    return some j
  else if ← accept " LEFT JOIN " then
    let j ← joined .left
    return some j
  else if ← accept " RIGHT JOIN " then
    let j ← joined .right
    return some j
  else
    return none
where
  joined (kind : JoinKind) : Reader (Join Shape) := do
    let t ← table
    expect " ON "
    let on ← parts.expr n
    return ⟨kind, t, on⟩

def orderItem : Reader (OrderItem Shape) := do
  let e ← parts.expr n
  let d ← direction
  return ⟨e, d⟩

/-- Reads a list behind a keyword; no list if the keyword does not come next. -/
def listClause {α : Type} (keyword : String) (item : Reader α) : Reader (List α) := do
  let items ← clause keyword (commas n item)
  return items.getD []

def row : Reader (List Shape) := do
  expect "("
  let es ← commas n (parts.expr n)
  expect ")"
  return es

def assignment : Reader (Assignment Shape) := do
  let c ← name
  expect " = "
  let e ← parts.expr n
  return ⟨c, e⟩

/-- Reads assignments, of which there are none unless a name comes next. -/
def assignments : Reader (List (Assignment Shape)) :=
  fun text => if text.head?.any isNameHead then commas n (parts.assignment n) text
    else some ([], text)

def columnList : Reader (List String) := do
  let names ← commas n name
  expect ")"
  return names

def select : Reader StatementShape := do
  let projection ← parts.projection n
  let t ← clause " FROM " table
  let joins ← many n (parts.join n)
  let filter ← clause " WHERE " (parts.expr n)
  let groupBy ← listClause n " GROUP BY " (parts.expr n)
  let having ← clause " HAVING " (parts.expr n)
  let orderBy ← listClause n " ORDER BY " (parts.orderItem n)
  let limit ← clause " LIMIT " number
  let offset ← clause " OFFSET " number
  return ⟨.select,
    { table := t, projection, joins, filter, groupBy, having, orderBy, limit, offset }⟩

/-- Reads the query that an insert takes its rows from, if one comes next. -/
def source : Reader (Option StatementShape) := do
  if ← ahead " SELECT " then
    expect " "
    let s ← parts.statement
    return some s
  else
    return none

def insert : Reader StatementShape := do
  let t ← name
  let columns ← clause " (" (columnList n)
  let rows ← listClause n " VALUES " (parts.row n)
  let source ← parts.source
  let returning ← listClause n " RETURNING " name
  return ⟨.insert, { table := some ⟨t, none⟩, columns, rows, source, returning }⟩

def update : Reader StatementShape := do
  let t ← name
  expect " SET "
  let assignments ← parts.assignments n
  let filter ← clause " WHERE " (parts.expr n)
  let returning ← listClause n " RETURNING " name
  return ⟨.update, { table := some ⟨t, none⟩, assignments, filter, returning }⟩

def delete : Reader StatementShape := do
  let t ← name
  let filter ← clause " WHERE " (parts.expr n)
  let returning ← listClause n " RETURNING " name
  return ⟨.delete, { table := some ⟨t, none⟩, filter, returning }⟩

def nextStatement : Reader StatementShape := do
  if ← accept "SELECT " then
    parts.select n
  else if ← accept "INSERT INTO " then
    parts.insert n
  else if ← accept "UPDATE " then
    parts.update n
  else
    expect "DELETE FROM "
    parts.delete n

end Readers

/-- The readers of trees of at most the given depth. -/
def readers : Nat → Readers
  | 0 => ⟨fun _ => none, fun _ => none⟩
  | n + 1 => ⟨(readers n).nextOperand n, (readers n).nextStatement n⟩

end TypedSql
