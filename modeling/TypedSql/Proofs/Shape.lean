import TypedSql.Tree.Fold

/-!
The shape of a tree: what is left of it without the types it was declared with and with the text of
each literal in place of its value.
-/

namespace TypedSql

mutual

inductive Shape where
  | column (table column : String) (aliasName : Option String)
  | literal (text : List Char)
  | unary (op : Operator) (operand : Shape)
  | binary (op : Operator) (left right : Shape)
  | call (function : String) (arguments : List Shape)
  | caseWhen (branches : List (Shape × Shape)) (otherwise : Option Shape)
  | subquery (statement : StatementShape)

structure StatementShape where
  kind : StatementKind
  clauses : Clauses Shape StatementShape

end

def eraseAlgebra : Algebra Shape StatementShape where
  column table column aliasName _ := .column table column aliasName
  literal value _ := .literal value.literalText
  unary op operand := .unary op operand
  binary op left right _ := .binary op left right
  call function arguments _ := .call function arguments
  caseWhen branches otherwise _ := .caseWhen branches otherwise
  subquery statement _ := .subquery statement
  statement kind _ clauses := ⟨kind, clauses⟩

def Expr.erase (e : Expr) : Shape :=
  e.fold eraseAlgebra

def Statement.erase (s : Statement) : StatementShape :=
  s.fold eraseAlgebra

namespace Expr

variable (type : SqlType)

theorem erase_column (table column : String) (aliasName : Option String) :
    (Expr.column table column aliasName type).erase = .column table column aliasName := by
  rw [erase, fold_column]
  rfl

theorem erase_literal (value : Value) :
    (Expr.literal value type).erase = .literal value.literalText := by
  rw [erase, fold_literal]
  rfl

theorem erase_unary (op : Operator) (operand : Expr) :
    (Expr.unary op operand).erase = .unary op operand.erase := by
  rw [erase, fold_unary]
  rfl

theorem erase_binary (op : Operator) (left right : Expr) :
    (Expr.binary op left right type).erase = .binary op left.erase right.erase := by
  rw [erase, fold_binary]
  rfl

theorem erase_call (function : String) (arguments : List Expr) :
    (Expr.call function arguments type).erase = .call function (arguments.map erase) := by
  rw [erase, fold_call]
  rfl

theorem erase_caseWhen (branches : List (Expr × Expr)) (otherwise : Option Expr) :
    (Expr.caseWhen branches otherwise type).erase =
      .caseWhen (branches.map fun b => (b.1.erase, b.2.erase)) (otherwise.map erase) := by
  rw [erase, fold_caseWhen]
  rfl

theorem erase_subquery (statement : Statement) :
    (Expr.subquery statement type).erase = .subquery statement.erase := by
  rw [erase, fold_subquery]
  rfl

end Expr

theorem Statement.erase_eq (s : Statement) :
    s.erase = ⟨s.kind, s.clauses.map Expr.erase Statement.erase⟩ := by
  rw [erase, fold_eq]
  rfl

/-! ### Operators behind their operand -/

namespace Expr

/-- The expression without the operators at its end that follow their operand. -/
def stem : Expr → Expr
  | unary _ operand => operand.stem
  | e => e

/-- The operators at the end of the expression that follow their operand, the innermost first. -/
def suffixes : Expr → List Operator
  | unary op operand => operand.suffixes ++ [op]
  | _ => []

/-- Induction that takes off the operators that follow their operand. -/
theorem stem_induction {P : Expr → Prop} (unary : ∀ op operand, P operand → P (.unary op operand))
    (other : ∀ e, e.isUnary = false → P e) (e : Expr) : P e := by
  induction e using stem.induct with
  | case1 op operand ih => exact unary op operand ih
  | case2 e h =>
    refine other e ?_
    cases e with
    | unary op operand => exact absurd rfl (h op operand)
    | _ => rfl

theorem suffixes_eq_nil_iff {e : Expr} : e.suffixes = [] ↔ e.isUnary = false := by
  cases e <;> simp [suffixes, isUnary]

theorem stem_eq_self {e : Expr} (h : e.isUnary = false) : e.stem = e := by
  cases e <;> first | rfl | cases h

theorem erase_eq_foldl (e : Expr) :
    e.erase = e.suffixes.foldl (fun x op => .unary op x) e.stem.erase := by
  induction e using stem_induction with
  | unary op operand ih =>
    rw [erase_unary, stem, suffixes, List.foldl_append, ← ih]
    rfl
  | other e hu =>
    rw [suffixes_eq_nil_iff.mpr hu, stem_eq_self hu]
    rfl

end Expr

end TypedSql
