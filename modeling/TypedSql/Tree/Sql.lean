import TypedSql.Tree.Fold

/-!
The SQL text of expressions and statements, with all literals written out. The text of a tree is
put together from the texts of its parts and depends on nothing else but whether an operand ends
with an operator of its own, for which it gets parentheses.
-/

namespace TypedSql

open Text

/-- Texts with a comma and a space between them. -/
def commaSeparated (texts : List (List Char)) : List Char :=
  List.intercalate ", ".toList texts

/-! ### Expressions -/

/-- The text of an expression, and whether an operator behind its operand ends it. -/
structure Fragment where
  text : List Char
  endsWithOperator : Bool := false

namespace Fragment

/-- A column with its table, never under the alias of the table. -/
def column (table column : String) (aliasName : Option String) : Fragment :=
  let aliasText := match aliasName with
    | none => []
    | some a => " AS ".toList ++ a.toList
  ⟨table.toList ++ '.' :: (column.toList ++ aliasText), false⟩

/-- The text as an operand of an operator between operands. -/
def asOperand (f : Fragment) : List Char :=
  if f.endsWithOperator then '(' :: (f.text ++ [')']) else f.text

def unary (op : Operator) (operand : Fragment) : Fragment :=
  ⟨operand.text ++ ' ' :: op.symbol.toList, true⟩

def binary (op : Operator) (left right : Fragment) : Fragment :=
  ⟨'(' :: (left.asOperand ++ ' ' :: (op.symbol.toList ++ ' ' :: (right.asOperand ++ [')']))),
    false⟩

def call (function : String) (arguments : List Fragment) : Fragment :=
  ⟨function.toList ++ '(' :: (commaSeparated (arguments.map text) ++ [')']), false⟩

/-- One condition of a case distinction with its result. -/
def branch (b : Fragment × Fragment) : List Char :=
  " WHEN ".toList ++ b.1.text ++ " THEN ".toList ++ b.2.text

def caseWhen (branches : List (Fragment × Fragment)) (otherwise : Option Fragment) : Fragment :=
  let elseText := match otherwise with
    | none => []
    | some f => " ELSE ".toList ++ f.text
  ⟨"CASE".toList ++ branches.flatMap branch ++ elseText ++ " END".toList, false⟩

def subquery (statement : List Char) : Fragment :=
  ⟨'(' :: (statement ++ [')']), false⟩

end Fragment

/-! ### Statements -/

namespace Clauses

/-- A keyword and what follows it, if there is anything. -/
def optional (keyword : String) : Option (List Char) → List Char
  | none => []
  | some text => keyword.toList ++ text

/-- A keyword and a list, if it has any items. -/
def optionalList (keyword : String) (texts : List (List Char)) : List Char :=
  if texts.isEmpty then [] else keyword.toList ++ commaSeparated texts

def tableText (t : Table) : List Char :=
  t.name.toList ++ optional " " (t.aliasName.map String.toList)

/-- A join behind what it is joined to. -/
def joinText (j : Join (List Char)) : List Char :=
  ' ' :: (j.kind.keyword.toList ++ ' ' :: (tableText j.table ++ " ON ".toList ++ j.on))

def orderText (o : OrderItem (List Char)) : List Char :=
  o.expr ++ ' ' :: o.direction.keyword.toList

/-- A row of values in parentheses. -/
def rowText (row : List (List Char)) : List Char :=
  '(' :: (commaSeparated row ++ [')'])

def assignmentText (a : Assignment (List Char)) : List Char :=
  a.column.toList ++ " = ".toList ++ a.value

variable (c : Clauses (List Char) (List Char))

def targetText : List Char :=
  (c.table.map (·.name.toList)).getD []

def whereText : List Char :=
  optional " WHERE " c.filter

def returningText : List Char :=
  optionalList " RETURNING " (c.returning.map String.toList)

def selectText : List Char :=
  "SELECT ".toList ++
    (if c.projection.isEmpty then ['*'] else commaSeparated c.projection) ++
    optional " FROM " (c.table.map tableText) ++
    c.joins.flatMap joinText ++
    c.whereText ++
    optionalList " GROUP BY " c.groupBy ++
    optional " HAVING " c.having ++
    optionalList " ORDER BY " (c.orderBy.map orderText) ++
    optional " LIMIT " (c.limit.map digits) ++
    optional " OFFSET " (c.offset.map digits)

/-- The rows of an insert: the values if there are any, else the query they come from. -/
def rowsText : List Char :=
  if c.rows.isEmpty then optional " " c.source
  else " VALUES ".toList ++ commaSeparated (c.rows.map rowText)

def columnsText : List Char :=
  match c.columns with
  | none => []
  | some names => " (".toList ++ commaSeparated (names.map String.toList) ++ [')']

def insertText : List Char :=
  "INSERT INTO ".toList ++ c.targetText ++ c.columnsText ++ c.rowsText ++ c.returningText

def updateText : List Char :=
  "UPDATE ".toList ++ c.targetText ++ " SET ".toList ++
    commaSeparated (c.assignments.map assignmentText) ++ c.whereText ++ c.returningText

def deleteText : List Char :=
  "DELETE FROM ".toList ++ c.targetText ++ c.whereText ++ c.returningText

def text : StatementKind → List Char
  | .select => c.selectText
  | .insert => c.insertText
  | .update => c.updateText
  | .delete => c.deleteText

end Clauses

def sqlAlgebra : Algebra Fragment (List Char) where
  column table column aliasName _ := .column table column aliasName
  literal value _ := ⟨value.literalText, false⟩
  unary := .unary
  binary op left right _ := .binary op left right
  call function arguments _ := .call function arguments
  caseWhen branches otherwise _ := .caseWhen branches otherwise
  subquery statement _ := .subquery statement
  statement kind _ clauses := (clauses.map Fragment.text id).text kind

/-- The text of an expression, with what its use as an operand depends on. -/
def Expr.fragment (e : Expr) : Fragment :=
  e.fold sqlAlgebra

/-- The characters of an expression. -/
def Expr.sqlText (e : Expr) : List Char :=
  e.fragment.text

def Expr.toSql (e : Expr) : String :=
  String.ofList e.sqlText

def Statement.sqlText (s : Statement) : List Char :=
  s.fold sqlAlgebra

def Statement.toSql (s : Statement) : String :=
  String.ofList s.sqlText

instance : ToString Expr := ⟨Expr.toSql⟩

instance : ToString Statement := ⟨Statement.toSql⟩

/-- Parentheses as an operand are for the expressions that end with an operator. -/
theorem Expr.fragment_endsWithOperator (e : Expr) :
    e.fragment.endsWithOperator = e.isUnary := by
  cases e <;> simp only [Expr.fragment, Expr.fold_column, Expr.fold_literal, Expr.fold_unary,
    Expr.fold_binary, Expr.fold_call, Expr.fold_caseWhen, Expr.fold_subquery] <;> rfl

end TypedSql
