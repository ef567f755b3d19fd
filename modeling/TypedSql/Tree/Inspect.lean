import TypedSql.Text.Escaped
import TypedSql.Tree.Fold

/-!
The developer's view of values and trees: every node by its name with its fields, in one line, so
that two trees that look alike in SQL can be told apart.
-/

namespace TypedSql

open Text

namespace Inspect

def commas (items : List String) : String :=
  ", ".intercalate items

def list (items : List String) : String :=
  "[" ++ commas items ++ "]"

/-- A name with its only argument. -/
def wrapped (name argument : String) : String :=
  name ++ "(" ++ argument ++ ")"

/-- A name with named fields. -/
def record (name : String) (fields : List (String × String)) : String :=
  name ++ " \x7b " ++ commas (fields.map fun f => f.1 ++ ": " ++ f.2) ++ " \x7d"

def option : Option String → String
  | none => "None"
  | some s => wrapped "Some" s

/-- A double: like its SQL literal if it is finite. -/
def double (x : Double) : String :=
  if x.isFinite then String.ofList (x.render .sql)
  else if x.isNaN then "NaN"
  else if x.isNegative then "-inf"
  else "inf"

mutual

def json : Json → String
  | .null => "Null"
  | .bool b => wrapped "Bool" (toString b)
  | .number n => wrapped "Number" (String.ofList (Json.numberText n))
  | .string s => wrapped "String" (escaped s)
  | .array items => "Array " ++ list (jsonItems items)
  | .object fields => "Object \x7b" ++ commas (jsonFields fields) ++ "\x7d"

def jsonItems : List Json → List String
  | [] => []
  | j :: js => json j :: jsonItems js

def jsonFields : List (String × Json) → List String
  | [] => []
  | (k, j) :: fields => (escaped k ++ ": " ++ json j) :: jsonFields fields

end

def value (v : Value) : String :=
  let payload? : Option String := match v with
    | .null => none
    | .bool b => some (toString b)
    | .smallInt n => some (toString n.toInt)
    | .int n => some (toString n.toInt)
    | .bigInt n => some (toString n.toInt)
    | .double x => some (double x)
    | .decimal d => some (String.ofList d.toText)
    | .text s => some (escaped s)
    | .date d => some (String.ofList d.toText)
    | .time t => some (String.ofList t.toText)
    | .timestamp t => some (String.ofList t.toText)
    | .timestampTz t => some (String.ofList t.toUtcText)
    | .uuid u => some (String.ofList u.toText)
    | .json j => some (json j)
  match payload? with
  | none => v.type.tagWord
  | some s => wrapped v.type.tagWord s

def table (t : Table) : String :=
  record "Table" [("name", escaped t.name), ("alias", option (t.aliasName.map escaped))]

/-- An expression in a place where any expression may stand. -/
def part (e : String) : String :=
  wrapped "AnyExpr" e

/-- The clauses of a statement. -/
def clauses (c : Clauses String String) : String :=
  let pair := fun a b : String => "(" ++ a ++ ", " ++ b ++ ")"
  record "ClauseBag" [
    ("table", option (c.table.map table)),
    ("projection", list (c.projection.map part)),
    ("joins", list (c.joins.map fun j => record "Join"
      [("kind", j.kind.tagWord), ("table", table j.table), ("on", part j.on)])),
    ("filter", option (c.filter.map part)),
    ("group_by", list (c.groupBy.map part)),
    ("having", option (c.having.map part)),
    ("order_by", list (c.orderBy.map fun o => record "OrderBy"
      [("expr", part o.expr), ("direction", o.direction.tagWord)])),
    ("limit", option (c.limit.map toString)),
    ("offset", option (c.offset.map toString)),
    ("columns", option (c.columns.map fun names => list (names.map escaped))),
    ("rows", list (c.rows.map fun row => list (row.map part))),
    ("source", option c.source),
    ("assignments", list (c.assignments.map fun a => pair (escaped a.column) (part a.value))),
    ("returning", list (c.returning.map escaped))]

def algebra : Algebra String String where
  column table column aliasName type :=
    wrapped "Column" (record "ColumnRef" [("table", escaped table), ("column", escaped column),
      ("alias", option (aliasName.map escaped)), ("ty", type.tagWord)])
  literal v type :=
    wrapped "Literal" (record "Literal" [("value", value v), ("ty", type.tagWord)])
  unary op operand :=
    wrapped "Binary" (record "BinaryOp" [("left", part operand), ("op", op.tagWord),
      ("right", option none), ("ty", SqlType.bool.tagWord)])
  binary op left right type :=
    wrapped "Binary" (record "BinaryOp" [("left", part left), ("op", op.tagWord),
      ("right", option (some (part right))), ("ty", type.tagWord)])
  call function arguments type :=
    wrapped "Function" (record "FunctionCall" [("name", escaped function),
      ("args", list (arguments.map part)), ("ty", type.tagWord)])
  caseWhen branches otherwise type :=
    wrapped "Case" (record "CaseWhen"
      [("branches", list (branches.map fun b => "(" ++ part b.1 ++ ", " ++ part b.2 ++ ")")),
        ("otherwise", option (otherwise.map part)), ("ty", type.tagWord)])
  subquery statement type :=
    wrapped "Subquery" (record "Subquery" [("statement", statement), ("ty", type.tagWord)])
  statement kind resultType c :=
    record "Statement" [("kind", kind.tagWord), ("result_type", resultType.tagWord),
      ("clauses", clauses c)]

end Inspect

/-- The developer's view of an expression. -/
def Expr.inspect (e : Expr) : String :=
  Inspect.wrapped "Expr" (e.fold Inspect.algebra)

end TypedSql
