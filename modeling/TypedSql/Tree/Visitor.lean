import TypedSql.Error
import TypedSql.Tree.Sql

/-!
Visitors: consumers that treat each variety of expression in their own way and keep a context on
the way. A visitor may leave functions, case distinctions and subqueries alone; it then stops at
the first of them with an error that names the variety.
-/

namespace TypedSql

/-- A visit: it may change the context, also when it ends with an error. -/
abbrev Visit (κ α : Type) := ExceptT SqlError (StateM κ) α

/-- The answer to a variety of expression that a visitor does not handle. -/
def Visit.unsupported {κ α : Type} (variety : String) : Visit κ α :=
  throw (.unsupportedExpression variety)

/-- How each variety of expression is visited. Operators get the visits of their operands beside
the operands themselves. -/
structure Visitor (κ α : Type) where
  column : String → String → Option String → Visit κ α
  literal : Value → Visit κ α
  unary : Operator → Expr → Visit κ α → Visit κ α
  binary : Operator → Expr → Expr → Visit κ α → Visit κ α → Visit κ α
  call : String → List Expr → Visit κ α := fun _ _ => Visit.unsupported "FunctionCall"
  caseWhen : List (Expr × Expr) → Option Expr → Visit κ α :=
    fun _ _ => Visit.unsupported "Conditional"
  subquery : Statement → Visit κ α := fun _ => Visit.unsupported "Subquery"

def Expr.accept {κ α : Type} (v : Visitor κ α) : Expr → Visit κ α
  | .column table name aliasName _ => v.column table name aliasName
  | .literal value _ => v.literal value
  | .unary op operand => v.unary op operand (operand.accept v)
  | .binary op left right _ => v.binary op left right (left.accept v) (right.accept v)
  | .call function arguments _ => v.call function arguments
  | .caseWhen branches otherwise _ => v.caseWhen branches otherwise
  | .subquery statement _ => v.subquery statement

/-- The visitor that writes SQL. Each variety is written by itself, from the texts of its parts. -/
def Visitor.sql : Visitor Unit (List Char) where
  column table column aliasName := pure (Fragment.column table column aliasName).text
  literal value := pure value.literalText
  unary op operand _ := pure (Fragment.unary op operand.fragment).text
  binary op left right _ _ := pure (Fragment.binary op left.fragment right.fragment).text
  call function arguments := pure (Fragment.call function (arguments.map Expr.fragment)).text
  caseWhen branches otherwise :=
    pure (Fragment.caseWhen (branches.map fun b => (b.1.fragment, b.2.fragment))
      (otherwise.map Expr.fragment)).text
  subquery statement := pure (Fragment.subquery statement.sqlText).text

/-- Runs a visit from a context: its result, and the context it leaves. -/
def Visit.runFrom {κ α : Type} (visit : Visit κ α) (context : κ) : SqlResult α × κ :=
  Id.run (StateT.run (ExceptT.run visit) context)

/-- What an outline of operators has come to: the depth it is at, and its lines. -/
structure Outline where
  depth : Nat := 0
  lines : List String := []
  deriving DecidableEq, Repr

namespace Outline

/-- Adds a line at the present depth. -/
def line (text : String) : Visit Outline Unit :=
  modify fun o => { o with lines := o.lines ++ [toString o.depth ++ ":" ++ text] }

/-- Visits the operands of an operator one level deeper. A visit that fails stays at its depth. -/
def nested (op : Operator) (operands : Visit Outline Unit) : Visit Outline Unit := do
  line op.symbol
  modify fun o => { o with depth := o.depth + 1 }
  operands
  modify fun o => { o with depth := o.depth - 1 }

/-- The visitor that lists columns, literals and operators with their depth, from left to right,
and handles no other variety. -/
def visitor : Visitor Outline Unit where
  column table column _ := line (table ++ "." ++ column)
  literal value := line value.literal
  unary op _ operand := nested op operand
  binary op _ _ left right := nested op do
    left
    right

end Outline

end TypedSql
