import TypedSql.Expr.Operator
import TypedSql.Statement.Kind
import TypedSql.Value.Basic

/-!
Expressions and statements as trees. The four kinds of statement share one record of clauses and
differ in which of them they use. The record is generic in what stands for an expression and for a
nested statement, so that a traversal can put its results in the places of the parts.
-/

namespace TypedSql

/-- A table and the alias it goes by in `FROM` and `JOIN`, if it has one. -/
structure Table where
  name : String
  aliasName : Option String := none
  deriving DecidableEq, Repr, Inhabited

/-- A joined table and the condition of the join. -/
structure Join (ε : Type) where
  kind : JoinKind
  table : Table
  on : ε

structure OrderItem (ε : Type) where
  expr : ε
  direction : Direction

/-- A column and the value it is set to. -/
structure Assignment (ε : Type) where
  column : String
  value : ε

/-- The clauses of a statement. -/
structure Clauses (ε σ : Type) where
  table : Option Table := none
  /-- The columns of a query; none of them stand for all. -/
  projection : List ε := []
  joins : List (Join ε) := []
  filter : Option ε := none
  groupBy : List ε := []
  having : Option ε := none
  orderBy : List (OrderItem ε) := []
  limit : Option Nat := none
  offset : Option Nat := none
  /-- The columns that an insert names. -/
  columns : Option (List String) := none
  /-- The rows of values that an insert adds. -/
  rows : List (List ε) := []
  /-- The query that an insert takes its rows from. -/
  source : Option σ := none
  assignments : List (Assignment ε) := []
  returning : List String := []

mutual

/-- An expression. All but the unary ones, which are truth values, carry the type they were
declared with. -/
inductive Expr where
  | column (table column : String) (aliasName : Option String) (type : SqlType)
  | literal (value : Value) (type : SqlType)
  /-- An operator behind its operand. -/
  | unary (op : Operator) (operand : Expr)
  /-- An operator between its operands. -/
  | binary (op : Operator) (left right : Expr) (type : SqlType)
  | call (function : String) (arguments : List Expr) (type : SqlType)
  /-- Conditions with their results, and the result if no condition holds. -/
  | caseWhen (branches : List (Expr × Expr)) (otherwise : Option Expr) (type : SqlType)
  | subquery (statement : Statement) (type : SqlType)

structure Statement where
  kind : StatementKind
  /-- The type of each row of the result. -/
  resultType : SqlType
  clauses : Clauses Expr Statement

end

instance : Inhabited Expr := ⟨.literal .null .null⟩

instance : Inhabited Statement := ⟨⟨.select, .record, {}⟩⟩

namespace Expr

def type : Expr → SqlType
  | column _ _ _ t => t
  | literal _ t => t
  | unary _ _ => .bool
  | binary _ _ _ t => t
  | call _ _ t => t
  | caseWhen _ _ t => t
  | subquery _ t => t

/-- The variety of an expression, as messages name it. -/
def variety : Expr → String
  | column .. => "ColumnRef"
  | literal .. => "Literal"
  | unary .. => "BinaryOp"
  | binary .. => "BinaryOp"
  | call .. => "FunctionCall"
  | caseWhen .. => "Conditional"
  | subquery .. => "Subquery"

/-- Whether the expression ends with an operator that follows its operand. -/
def isUnary : Expr → Bool
  | unary .. => true
  | _ => false

def isSubquery : Expr → Bool
  | subquery .. => true
  | _ => false

end Expr

/-- A statement of the given kind with nothing but its table. -/
def Statement.bare (kind : StatementKind) (resultType : SqlType) (table : Option Table) :
    Statement :=
  ⟨kind, resultType, { table }⟩

namespace Clauses

variable {ε σ α β : Type}

/-- The clauses with every expression and every nested statement replaced. -/
def map (f : ε → α) (g : σ → β) (c : Clauses ε σ) : Clauses α β where
  table := c.table
  projection := c.projection.map f
  joins := c.joins.map fun j => ⟨j.kind, j.table, f j.on⟩
  filter := c.filter.map f
  groupBy := c.groupBy.map f
  having := c.having.map f
  orderBy := c.orderBy.map fun o => ⟨f o.expr, o.direction⟩
  limit := c.limit
  offset := c.offset
  columns := c.columns
  rows := c.rows.map (·.map f)
  source := c.source.map g
  assignments := c.assignments.map fun a => ⟨a.column, f a.value⟩
  returning := c.returning

/-- The expressions that stand in the clauses themselves, in the order of the clauses. -/
def exprs (c : Clauses ε σ) : List ε :=
  c.projection ++ c.joins.map (·.on) ++ c.filter.toList ++ c.groupBy ++ c.having.toList ++
    c.orderBy.map (·.expr) ++ c.rows.flatten ++ c.assignments.map (·.value)

end Clauses

end TypedSql
